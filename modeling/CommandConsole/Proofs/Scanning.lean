import CommandConsole.Toml.Document
import Mathlib.Data.List.Basic

/-!
# Scanning one line

What the scanners of the format do on a text whose beginning is known. The first part is about
scanners in general: how they are put together, and when one of them fails at the first character.
The second part is about a number at the end of its line, which could begin a moment or a decimal
number as well, so that every other kind of value has to be seen to fail on it.

Results:
* `bind_apply`, `orElse_apply`, `optional_apply` and the like: scanners put together.
* `run_append`, `many_append`, `separated_one`: scanners that repeat others.
* `numeral_toDigits`: the digits of a number stand for it.
* `value_toDigits`: **a number at the end of its line is read as that integer.**
-/

namespace CommandConsole.Toml

open Scanner

namespace Scanner

variable {α β : Type} {holds : Char → Bool} {c : Char} {text front rest : List Char}

/-! ## Scanners put together -/

@[simp]
theorem pure_apply (value : α) (text : List Char) :
    (pure value : Scanner α) text = some (value, text) := rfl

@[simp]
theorem failure_apply (text : List Char) : (failure : Scanner α) text = none := rfl

@[simp]
theorem bind_apply (p : Scanner α) (f : α → Scanner β) (text : List Char) :
    (p >>= f) text = (p text).bind fun read => f read.1 read.2 := rfl

/-- What begins with a scanner that fails, fails. -/
theorem bind_eq_none {p : Scanner α} {f : α → Scanner β} (h : p text = none) :
    (p >>= f) text = none := by
  rw [bind_apply, h]
  rfl

@[simp]
theorem map_apply (f : α → β) (p : Scanner α) (text : List Char) :
    (f <$> p) text = (p text).map fun read => (f read.1, read.2) := by
  show (p text).bind _ = _
  cases p text <;> rfl

@[simp]
theorem orElse_apply (p q : Scanner α) (text : List Char) :
    (p <|> q) text = (p text).or (q text) := by
  show (p text).orElse _ = _
  cases p text <;> rfl

@[simp]
theorem seqRight_apply (p : Scanner α) (q : Scanner β) (text : List Char) :
    (p *> q) text = (p text).bind fun read => q read.2 := rfl

@[simp]
theorem seqLeft_apply (p : Scanner α) (q : Scanner β) (text : List Char) :
    (p <* q) text = (p text).bind fun read => (q read.2).map fun after => (read.1, after.2) := by
  show (p text).bind _ = _
  cases p text with
  | none => rfl
  | some read =>
    show (q read.2).bind _ = (q read.2).map _
    cases q read.2 <;> rfl

@[simp]
theorem discard_apply (p : Scanner α) (text : List Char) :
    (discard p : Scanner Unit) text = (p text).map fun read => ((), read.2) := by
  show (p text).bind _ = _
  cases p text <;> rfl

@[simp]
theorem optional_apply (p : Scanner α) (text : List Char) :
    (optional p : Scanner (Option α)) text =
      ((p text).map fun read => (some read.1, read.2)).or (some (none, text)) := by
  unfold optional
  rw [orElse_apply, map_apply, pure_apply]

/-! ## The first character -/

/-- The text does not go on with a character of the class. -/
def Stops (holds : Char → Bool) (text : List Char) : Prop :=
  ∀ c, text.head? = some c → holds c = false

theorem stops_cons (h : holds c = false) : Stops holds (c :: rest) := by
  rintro d hd
  rw [← Option.some.inj hd]
  exact h

theorem stops_append (hne : front ≠ []) (h : ∀ c ∈ front, holds c = false) :
    Stops holds (front ++ rest) := by
  cases front with
  | nil => exact absurd rfl hne
  | cons c front => exact stops_cons (h c (List.mem_cons_self ..))

theorem one_cons (h : holds c = true) : one holds (c :: rest) = some (c, rest) := if_pos h

theorem one_eq_none (h : Stops holds text) : one holds text = none := by
  cases text with
  | nil => rfl
  | cons c rest => exact if_neg (Bool.not_eq_true _ ▸ h c rfl)

@[simp]
theorem char_cons (c : Char) (rest : List Char) : char c (c :: rest) = some ((), rest) := by
  have hone : one (· == c) (c :: rest) = some (c, rest) := one_cons (beq_self_eq_true c)
  rw [char, discard_apply, hone]
  rfl

theorem char_eq_none (h : Stops (· == c) text) : char c text = none := by
  rw [char, discard_apply, one_eq_none h]
  rfl

theorem literal_eq_none {expected : List Char} (h : Stops (· == c) text) :
    literal (c :: expected) text = none := by
  cases text with
  | nil => rfl
  | cons d rest =>
    have hne : (c == d) = false := Bool.beq_comm.trans (h d rfl)
    unfold literal
    rw [List.isPrefixOf_cons_cons, hne, Bool.false_and]
    rfl

/-- A character outside a class is none of the characters of the class. -/
theorem beq_eq_false_of_holds {d : Char} (hd : holds d = true) (hc : holds c = false) :
    (d == c) = false := by
  rw [beq_eq_false_iff_ne]
  rintro rfl
  rw [hd] at hc
  cases hc

/-! ## Repetition -/

/-- A run ends where a character is not of the class. -/
theorem run_append (hfront : ∀ c ∈ front, holds c = true) (hrest : Stops holds rest) :
    run holds (front ++ rest) = some (front, rest) := by
  unfold run
  rw [List.takeWhile_append_of_pos hfront, List.dropWhile_append_of_pos hfront]
  cases rest with
  | nil => rw [List.takeWhile_nil, List.dropWhile_nil, List.append_nil]
  | cons c rest =>
    have hc := Bool.not_eq_true _ ▸ hrest c rfl
    rw [List.takeWhile_cons_of_neg hc, List.dropWhile_cons_of_neg hc, List.append_nil]

theorem repeated_of_none {item : Scanner α} (h : item text = none) (bound : Nat) :
    repeated item bound text = ([], text) := by
  cases bound with
  | zero => rfl
  | succ bound => simp [repeated, h]

theorem many_of_none {item : Scanner α} (h : item text = none) :
    many item text = some ([], text) :=
  congrArg some (repeated_of_none h _)

/-- Repeating a scanner that takes single characters. -/
theorem repeated_append {item : Scanner α} {value : Char → α}
    (hitem : ∀ c ∈ front, ∀ more, item (c :: more) = some (value c, more))
    (hrest : item rest = none) {bound : Nat} (hbound : front.length ≤ bound) :
    repeated item bound (front ++ rest) = (front.map value, rest) := by
  induction front generalizing bound with
  | nil => exact repeated_of_none hrest bound
  | cons c front ih =>
    obtain ⟨bound, rfl⟩ := Nat.exists_eq_add_of_le' (Nat.lt_of_lt_of_le (Nat.succ_pos _) hbound)
    have hlast := ih (fun d hd => hitem d (List.mem_cons_of_mem c hd))
      (Nat.le_of_succ_le_succ hbound)
    rw [List.cons_append, repeated, hitem c (List.mem_cons_self ..)]
    simp [hlast]

theorem many_append {item : Scanner α} {value : Char → α}
    (hitem : ∀ c ∈ front, ∀ more, item (c :: more) = some (value c, more))
    (hrest : item rest = none) : many item (front ++ rest) = some (front.map value, rest) :=
  congrArg some (repeated_append hitem hrest (by simp))

theorem separated_one {item : Scanner α} {separator : Scanner β} {value : α}
    (hitem : item text = some (value, rest)) (hrest : separator rest = none) :
    separated item separator text = some ([value], rest) := by
  have hmore : (separator *> item) rest = none := by rw [seqRight_apply, hrest]; rfl
  simp [separated, hitem, many_of_none hmore]

end Scanner

/-! ## Digits -/

theorem isDigit_toDigits (n : Nat) : ∀ c ∈ Nat.toDigits 10 n, c.isDigit = true :=
  fun _ hc => Nat.isDigit_of_mem_toDigits (by decide) (by decide) hc

theorem numeral_eq_ofDigitChars {digits : List Char} (h : ∀ c ∈ digits, c.isDigit = true) :
    numeral 10 digits = Nat.ofDigitChars 10 digits 0 := by
  rw [numeral, Nat.ofDigitChars_eq_foldl]
  refine List.foldl_ext _ _ 0 fun value c hc => ?_
  rw [hexValue?, if_pos (h c hc), Option.getD_some]

/-- **The digits of a number stand for it.** -/
theorem numeral_toDigits (n : Nat) : numeral 10 (Nat.toDigits 10 n) = n := by
  rw [numeral_eq_ofDigitChars (isDigit_toDigits n), Nat.ofDigitChars_ten_toDigits]

/-- Only zero begins with a zero. -/
theorem head?_toDigits {n : Nat} (h : 0 < n) : (Nat.toDigits 10 n).head? ≠ some '0' := by
  induction n using Nat.strongRecOn with
  | ind n ih =>
    rw [Nat.toDigits_eq_if (by decide)]
    split
    · next hlt =>
      intro hzero
      rw [List.head?_cons, Option.some.injEq] at hzero
      have htoNat := congrArg Char.toNat hzero
      rw [Nat.toNat_digitChar_of_lt_ten hlt] at htoNat
      have : '0'.toNat = 48 := rfl
      omega
    · next hge =>
      have hfront := ih (n / 10) (by omega) (by omega)
      rw [List.head?_append]
      cases hhead : (Nat.toDigits 10 (n / 10)).head? with
      | none => exact absurd (List.head?_eq_none_iff.mp hhead) Nat.toDigits_ne_nil
      | some c => exact fun hc => hfront (hhead.trans hc)

/-- No number is written with a zero in front of other digits. -/
theorem toDigits_ne_zero_cons (n : Nat) (c : Char) (rest : List Char) :
    Nat.toDigits 10 n ≠ '0' :: c :: rest := by
  intro h
  rcases Nat.eq_zero_or_pos n with rfl | hpos
  · rw [Nat.toDigits_zero] at h
    cases h
  · exact head?_toDigits hpos (by rw [h]; rfl)

/-! ## A number at the end of its line -/

section NumberLine

variable {ds more : List Char} {c : Char} {n : Nat}

/-- A number goes on with a digit or with the end of the line. -/
theorem stops_digits {holds : Char → Bool} (hds : ∀ c ∈ ds, holds c = false)
    (hn : holds '\n' = false) : Stops holds (ds ++ '\n' :: more) := by
  cases ds with
  | nil => exact stops_cons hn
  | cons d ds => exact stops_cons (hds d (List.mem_cons_self ..))

theorem stops_digits_beq (hds : ∀ c ∈ ds, c.isDigit = true) (hc : c.isDigit = false)
    (hn : ('\n' == c) = false) : Stops (· == c) (ds ++ '\n' :: more) :=
  stops_digits (fun d hd => beq_eq_false_of_holds (hds d hd) hc) hn

/-- Whatever begins with another character than a digit fails on a number, and on the end of a line
as well. -/
theorem char_digits_eq_none (hds : ∀ c ∈ ds, c.isDigit = true) (hc : c.isDigit = false)
    (hn : ('\n' == c) = false) : char c (ds ++ '\n' :: more) = none :=
  char_eq_none (stops_digits_beq hds hc hn)

/-- A part of the digits is followed by a digit or by the end of the line. -/
theorem exactly_digits (hds : ∀ c ∈ ds, c.isDigit = true) (count : Nat) :
    exactly count Char.isDigit (ds ++ '\n' :: more) =
      if count ≤ ds.length then some (ds.take count, ds.drop count ++ '\n' :: more) else none := by
  show (if _ then _ else _) = _
  by_cases hle : count ≤ ds.length
  · have hall : (ds.take count).all Char.isDigit = true :=
      List.all_eq_true.mpr fun c hc => hds c (List.mem_of_mem_take hc)
    rw [if_pos hle, List.take_append_of_le_length hle, List.drop_append_of_le_length hle, hall,
      List.length_take, Nat.min_eq_left hle, beq_self_eq_true]
    rfl
  · have hmem : '\n' ∈ (ds ++ '\n' :: more).take count := by
      rw [List.take_append, List.mem_append]
      refine .inr ?_
      obtain ⟨k, hk⟩ := Nat.exists_eq_add_of_lt (Nat.lt_of_not_le hle)
      have hcount : count - ds.length = k + 1 := by omega
      rw [hcount, List.take_succ_cons]
      exact List.mem_cons_self ..
    have hall : ((ds ++ '\n' :: more).take count).all Char.isDigit = false := by
      rw [List.all_eq_false]
      exact ⟨'\n', hmem, by decide⟩
    rw [if_neg hle, hall, Bool.and_false]
    rfl

/-- A part of the digits, and then a character that is none, is nowhere. -/
theorem field_char_eq_none {α : Type} (hds : ∀ c ∈ ds, c.isDigit = true) (hc : c.isDigit = false)
    (hn : ('\n' == c) = false) (count low high : Nat) (next : Nat → Unit → Scanner α) :
    (field count low high >>= fun value => char c >>= next value) (ds ++ '\n' :: more) = none := by
  have hdrop : ∀ d ∈ ds.drop count, d.isDigit = true := fun d hd => hds d (List.mem_of_mem_drop hd)
  unfold field
  simp only [bind_apply, exactly_digits hds]
  split
  · simp only [Option.bind_some]
    split
    · simp [char_digits_eq_none hdrop hc hn]
    · rfl
  · rfl

theorem moment_digits (hds : ∀ c ∈ ds, c.isDigit = true) :
    moment (ds ++ '\n' :: more) = none := by
  have hdate : date (ds ++ '\n' :: more) = none :=
    field_char_eq_none hds (by decide) (by decide) 4 0 9999 _
  have htime : time (ds ++ '\n' :: more) = none :=
    field_char_eq_none hds (by decide) (by decide) 2 0 23 _
  simp [moment, hdate, htime]

theorem string_digits (hds : ∀ c ∈ ds, c.isDigit = true) :
    string (ds ++ '\n' :: more) = none := by
  have hquote : ∀ quote : Char, quote.isDigit = false → ('\n' == quote) = false →
      (∀ piece, lineString quote piece (ds ++ '\n' :: more) = none) ∧
        ∀ piece, blockString quote piece (ds ++ '\n' :: more) = none := by
    intro quote hq hn
    have hthree : literal (List.replicate 3 quote) (ds ++ '\n' :: more) = none :=
      literal_eq_none (stops_digits_beq hds hq hn)
    exact ⟨fun _ => bind_eq_none (char_digits_eq_none hds hq hn), fun _ => bind_eq_none hthree⟩
  obtain ⟨hbasic, hbasicBlock⟩ := hquote '"' (by decide) (by decide)
  obtain ⟨hliteral, hliteralBlock⟩ := hquote '\'' (by decide) (by decide)
  simp [string, basicString, literalString, hbasic, hbasicBlock, hliteral, hliteralBlock]

theorem sign_digits (hds : ∀ c ∈ ds, c.isDigit = true) :
    sign (ds ++ '\n' :: more) = some (false, ds ++ '\n' :: more) := by
  have hminus : char '-' (ds ++ '\n' :: more) = none :=
    char_digits_eq_none hds (by decide) (by decide)
  have hplus : char '+' (ds ++ '\n' :: more) = none :=
    char_digits_eq_none hds (by decide) (by decide)
  simp [sign, hminus, hplus]

theorem digits_digits (hds : ∀ c ∈ ds, c.isDigit = true) (hne : ds ≠ []) :
    digits Char.isDigit (ds ++ '\n' :: more) = some (ds, '\n' :: more) := by
  cases ds with
  | nil => exact absurd rfl hne
  | cons d ds =>
    obtain ⟨hd, hds⟩ := List.forall_mem_cons.mp hds
    have hmany : many (one Char.isDigit <|> (char '_' *> one Char.isDigit)) (ds ++ '\n' :: more) =
        some (ds.map id, '\n' :: more) := by
      refine many_append (fun c hc more => ?_) ?_
      · rw [orElse_apply, one_cons (hds c hc)]
        rfl
      · have hone : one Char.isDigit ('\n' :: more) = none := one_eq_none (stops_cons rfl)
        have hchar : char '_' ('\n' :: more) = none := char_eq_none (stops_cons rfl)
        rw [orElse_apply, seqRight_apply, hone, hchar]
        rfl
    rw [List.map_id] at hmany
    simp only [digits, List.cons_append, bind_apply, one_cons hd, Option.bind_some, hmany,
      pure_apply]

theorem markedInteger_digits (hds : ∀ c ∈ ds, c.isDigit = true) {letter : Char}
    (hletter : letter.isDigit = false) (hn : ('\n' == letter) = false) (base : Nat) :
    markedInteger letter base (ds ++ '\n' :: more) = none := by
  have hliteral : literal ['0', letter] (ds ++ '\n' :: more) = none := by
    cases ds with
    | nil => rfl
    | cons d ds =>
      have hsecond : literal [letter] (ds ++ '\n' :: more) = none := literal_eq_none
        (stops_digits_beq (fun c hc => hds c (List.mem_cons_of_mem d hc)) hletter hn)
      unfold literal at hsecond ⊢
      rw [List.cons_append, List.isPrefixOf_cons_cons]
      cases hletters : List.isPrefixOf [letter] (ds ++ '\n' :: more) with
      | true => simp [hletters] at hsecond
      | false => rw [Bool.and_false]; rfl
  exact bind_eq_none hliteral

/-- Digits without a superfluous zero are the digits of an integer. -/
theorem integerDigits_eq {text found rest : List Char}
    (hdigits : digits Char.isDigit text = some (found, rest))
    (hzero : ∀ c more, found ≠ '0' :: c :: more) :
    integerDigits text = some (found, rest) := by
  rw [integerDigits, bind_apply, hdigits, Option.bind_some]
  dsimp only
  split
  · next c more => exact absurd rfl (hzero c more)
  · rfl

theorem integerDigits_toDigits (n : Nat) (more : List Char) :
    integerDigits (Nat.toDigits 10 n ++ '\n' :: more) =
      some (Nat.toDigits 10 n, '\n' :: more) :=
  integerDigits_eq (digits_digits (isDigit_toDigits n) Nat.toDigits_ne_nil)
    (toDigits_ne_zero_cons n)

theorem decimal_toDigits (n : Nat) (more : List Char) :
    decimal (Nat.toDigits 10 n ++ '\n' :: more) = none := by
  have hfraction : fraction ('\n' :: more) = none := by
    rw [fraction, seqRight_apply, char_eq_none (stops_cons rfl)]
    rfl
  have hexponent : exponent ('\n' :: more) = none := bind_eq_none (by
    rw [discard_apply, one_eq_none (stops_cons rfl)]
    rfl)
  simp [decimal, sign_digits (isDigit_toDigits n), integerDigits_toDigits, hfraction, hexponent]

theorem bounded_eq (h : (n : Int) ≤ maxInteger) : bounded n = pure (.integer n) := by
  refine if_pos ?_
  rw [Bool.and_eq_true, decide_eq_true_eq, decide_eq_true_eq]
  refine ⟨?_, h⟩
  unfold minInteger
  omega

theorem integer_toDigits (h : (n : Int) ≤ maxInteger) (more : List Char) :
    integer (Nat.toDigits 10 n ++ '\n' :: more) = some (.integer n, '\n' :: more) := by
  have hmarked : ∀ letter : Char, letter.isDigit = false → ('\n' == letter) = false → ∀ base,
      markedInteger letter base (Nat.toDigits 10 n ++ '\n' :: more) = none :=
    fun _ hletter hn base => markedInteger_digits (isDigit_toDigits n) hletter hn base
  have hdecimal : decimalInteger (Nat.toDigits 10 n ++ '\n' :: more) =
      some (.integer n, '\n' :: more) := by
    simp [decimalInteger, sign_digits (isDigit_toDigits n), integerDigits_toDigits,
      numeral_toDigits, bounded_eq h]
  simp [integer, hmarked 'x' (by decide) (by decide), hmarked 'o' (by decide) (by decide),
    hmarked 'b' (by decide) (by decide), hdecimal]

theorem scalar_toDigits (h : (n : Int) ≤ maxInteger) (more : List Char) :
    scalar (Nat.toDigits 10 n ++ '\n' :: more) = some (.integer n, '\n' :: more) := by
  simp [scalar, string_digits (isDigit_toDigits n), moment_digits (isDigit_toDigits n),
    decimal_toDigits, integer_toDigits h]

/-- **A number at the end of its line is read as that integer**, and as no other kind of value. -/
theorem value_toDigits (h : (n : Int) ≤ maxInteger) (depth : Nat) (more : List Char) :
    value depth (Nat.toDigits 10 n ++ '\n' :: more) = some (.integer n, '\n' :: more) := by
  cases depth with
  | zero => exact scalar_toDigits h more
  | succ depth =>
    have harray : array (value depth) (Nat.toDigits 10 n ++ '\n' :: more) = none :=
      bind_eq_none (char_digits_eq_none (isDigit_toDigits n) (by decide) (by decide))
    have hinline : inlineTable (value depth) (Nat.toDigits 10 n ++ '\n' :: more) = none :=
      bind_eq_none (char_digits_eq_none (isDigit_toDigits n) (by decide) (by decide))
    simp [value, harray, hinline, scalar_toDigits h]

end NumberLine

end CommandConsole.Toml
