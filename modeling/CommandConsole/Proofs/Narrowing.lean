import CommandConsole.Proofs.Converging
import Mathlib.Data.List.Infix

/-!
# Typing on

The more is typed, the fewer tokens agree with it. The comparison takes as many characters of the
token as of the text and looks at their lower-case forms as one text, where nothing shows which form
came from which character. So a beginning of the typed text agrees with a token, too, exactly if the
characters that are compared then have equally many lower-case characters on both sides. One
character has two of them, and with it typing on can bring a token back.

Results:
* `agrees_iff_take`, `lowerAll_mono`: agreement, and that lower case keeps beginnings.
* `length_lowerAll_eq_iff`, `lowersOneToOne_iff_of_agrees`: a text without the exception, told by
  its length, agrees with texts without it.
* `agrees_of_prefix_iff`: **when a beginning of the typed text agrees with a token.**
* `narrows_while_typing`: **what typing on can do to the suggestion.**
* `brings_a_token_back`: a token that comes back.
-/

namespace CommandConsole.Completion

open Text

/-- The characters that a text and a token are compared on have equally many lower-case characters
in both. -/
def LowersEvenly (typed token : List Char) : Prop :=
  (lowerAll (typed.take token.length)).length = (lowerAll (token.take typed.length)).length

instance (typed token : List Char) : Decidable (LowersEvenly typed token) :=
  inferInstanceAs (Decidable (_ = _))

variable {minChars : Nat} {tokens : List String} {shorter longer typed token : List Char}

theorem agrees_iff_take :
    agrees typed token = true ↔
      lowerAll (token.take typed.length) = lowerAll (typed.take token.length) := by
  have htoken : token.take typed.length = token.take (min token.length typed.length) := by
    rw [List.take_eq_take_min, Nat.min_comm]
  have htyped : typed.take token.length = typed.take (min token.length typed.length) :=
    List.take_eq_take_min
  rw [htoken, htyped, agrees, beq_iff_eq]

theorem lowerAll_mono {front text : List Char} (h : front <+: text) :
    lowerAll front <+: lowerAll text := by
  obtain ⟨rest, rfl⟩ := h
  exact ⟨lowerAll rest, (lowerAll_append front rest).symm⟩

theorem LowersOneToOne.mono {front text : List Char} (h : LowersOneToOne text)
    (hfront : front <+: text) : LowersOneToOne front :=
  fun c hc => h c (hfront.subset hc)

theorem length_le_length_lowerAll (text : List Char) : text.length ≤ (lowerAll text).length := by
  induction text with
  | nil => exact Nat.le_refl _
  | cons c text ih =>
    have hc : 0 < (lower c).length := List.length_pos_iff.mpr (lower_ne_nil c)
    rw [lowerAll_cons, List.length_append, List.length_cons]
    omega

/-- **The length tells whether every character has one lower-case character.** -/
theorem length_lowerAll_eq_iff {text : List Char} :
    (lowerAll text).length = text.length ↔ LowersOneToOne text := by
  refine ⟨fun h => ?_, length_lowerAll⟩
  induction text with
  | nil => exact fun c hc => absurd hc List.not_mem_nil
  | cons c text ih =>
    have hc : 0 < (lower c).length := List.length_pos_iff.mpr (lower_ne_nil c)
    have htext := length_le_length_lowerAll text
    rw [lowerAll_cons, List.length_append, List.length_cons] at h
    exact List.forall_mem_cons.mpr ⟨by omega, ih (by omega)⟩

/-- Of two texts that agree both have characters with more than one lower-case character where they
are compared, or neither. -/
theorem lowersOneToOne_iff_of_agrees (h : agrees typed token = true) :
    LowersOneToOne (typed.take token.length) ↔ LowersOneToOne (token.take typed.length) := by
  have hlength : (typed.take token.length).length = (token.take typed.length).length := by
    rw [List.length_take, List.length_take, Nat.min_comm]
  rw [← length_lowerAll_eq_iff, ← length_lowerAll_eq_iff, agrees_iff_take.mp h, hlength]

/-- **When a beginning of the typed text agrees with a token that the text agrees with.** What is
compared then begins what was compared of both texts, so that only the lengths can differ. -/
theorem agrees_of_prefix_iff (hbegins : shorter <+: longer) (h : agrees longer token = true) :
    agrees shorter token = true ↔ LowersEvenly shorter token := by
  have hagrees := agrees_iff_take.mp h
  rw [agrees_iff_take]
  refine ⟨fun heq => (congrArg List.length heq).symm, fun hlength => ?_⟩
  have htoken : lowerAll (token.take shorter.length) <+: lowerAll (token.take longer.length) :=
    lowerAll_mono (List.take_prefix_take_left hbegins.length_le)
  have htyped : lowerAll (shorter.take token.length) <+: lowerAll (token.take longer.length) :=
    hagrees ▸ lowerAll_mono (hbegins.take token.length)
  have hle := Nat.le_of_eq hlength.symm
  exact (List.prefix_of_prefix_length_le htoken htyped hle).eq_of_length hlength.symm

/-- A token that the typed text covers was compared as a whole before. -/
theorem lowersEvenly_of_length_le (hbegins : shorter <+: longer) (h : agrees longer token = true)
    (hle : token.length ≤ shorter.length) : LowersEvenly shorter token := by
  have hsame : shorter.take token.length = longer.take token.length := by
    obtain ⟨rest, rfl⟩ := hbegins
    rw [List.take_append_of_le_length hle]
  have hwhole : token.take shorter.length = token.take longer.length := by
    rw [List.take_of_length_le hle, List.take_of_length_le (Nat.le_trans hle hbegins.length_le)]
  unfold LowersEvenly
  rw [hsame, hwhole, agrees_iff_take.mp h]

/-- One of the two texts without the exception is enough. -/
theorem lowersEvenly_of_lowersOneToOne (hbegins : shorter <+: longer)
    (h : agrees longer token = true) (hone : LowersOneToOne longer ∨ LowersOneToOne token) :
    LowersEvenly shorter token := by
  have hcompared : LowersOneToOne (longer.take token.length) ∧
      LowersOneToOne (token.take longer.length) := by
    rcases hone with hlonger | htoken
    · have hfront : longer.take token.length <+: longer := List.take_prefix _ _
      have htyped := hlonger.mono hfront
      exact ⟨htyped, (lowersOneToOne_iff_of_agrees h).mp htyped⟩
    · have hfront : token.take longer.length <+: token := List.take_prefix _ _
      have htaken := htoken.mono hfront
      exact ⟨(lowersOneToOne_iff_of_agrees h).mpr htaken, htaken⟩
  have htyped : LowersOneToOne (shorter.take token.length) :=
    hcompared.1.mono (hbegins.take token.length)
  have htoken : LowersOneToOne (token.take shorter.length) :=
    hcompared.2.mono (List.take_prefix_take_left hbegins.length_le)
  unfold LowersEvenly
  rw [length_lowerAll htyped, length_lowerAll htoken, List.length_take, List.length_take,
    Nat.min_comm]

/-! ## Suggestions -/

theorem isCompletable_iff {text : List Char} :
    isCompletable minChars text = true ↔
      minChars ≤ text.length ∧ ∀ c ∈ text, isBlank c = false := by
  unfold isCompletable
  simp only [Bool.and_eq_true, decide_eq_true_eq, Bool.not_eq_true', List.any_eq_false,
    Bool.not_eq_true]

theorem suggest_of_completable {typed : String} (h : isCompletable minChars typed.toList = true) :
    suggest minChars tokens typed =
      tokens.find? fun token => agrees typed.toList token.toList :=
  if_pos h

/-- A token that agrees is suggested, or one in front of it. -/
theorem exists_suggest_le {typed token : String} (h : isCompletable minChars typed.toList = true)
    (hmem : token ∈ tokens) (hagrees : agrees typed.toList token.toList = true) :
    ∃ first, suggest minChars tokens typed = some first ∧
      tokens.idxOf first ≤ tokens.idxOf token := by
  have hsome : (tokens.find? fun token => agrees typed.toList token.toList).isSome = true :=
    List.find?_isSome.mpr ⟨token, hmem, hagrees⟩
  obtain ⟨first, hfirst⟩ := Option.isSome_iff_exists.mp hsome
  exact ⟨first, (suggest_of_completable h).trans hfirst, idxOf_le_of_find? hfirst hmem hagrees⟩

/-- **What typing on can do to the suggestion.** A token that the longer text agrees with agrees
with its beginning exactly if the characters compared there have equally many lower-case characters
on both sides; a token that is no longer than the beginning does, and so does any token if all
characters of the longer text, or of the token, have one lower-case character. If the longer text is
completed to such a token, its beginning is completed to that or to one in front of it; so where the
beginning is not completed, the longer text is completed to no such token. -/
theorem narrows_while_typing {minChars : Nat} {tokens : List String} {shorter longer : String}
    (hbegins : shorter.toList <+: longer.toList) (hmin : minChars ≤ shorter.length)
    (hblank : ∀ c ∈ longer.toList, isBlank c = false) :
    (∀ token : String, agrees longer.toList token.toList = true →
      (agrees shorter.toList token.toList = true ↔
        LowersEvenly shorter.toList token.toList) ∧
      (token.length ≤ shorter.length ∨ LowersOneToOne longer.toList ∨
        LowersOneToOne token.toList → agrees shorter.toList token.toList = true)) ∧
    (∀ later, suggest minChars tokens longer = some later →
      LowersEvenly shorter.toList later.toList →
        ∃ sooner, suggest minChars tokens shorter = some sooner ∧
          tokens.idxOf sooner ≤ tokens.idxOf later) ∧
    (suggest minChars tokens shorter = none →
      ∀ later, suggest minChars tokens longer = some later →
        ¬ LowersEvenly shorter.toList later.toList) := by
  have hcompletable : isCompletable minChars shorter.toList = true :=
    isCompletable_iff.mpr ⟨String.length_toList ▸ hmin, fun c hc => hblank c (hbegins.subset hc)⟩
  have hfound : ∀ later, suggest minChars tokens longer = some later →
      LowersEvenly shorter.toList later.toList →
        ∃ sooner, suggest minChars tokens shorter = some sooner ∧
          tokens.idxOf sooner ≤ tokens.idxOf later := by
    intro later hlater heven
    have hagrees := (suggest_first hlater).1
    exact exists_suggest_le hcompletable (suggest_mem hlater)
      ((agrees_of_prefix_iff hbegins hagrees).mpr heven)
  refine ⟨fun token htoken => ⟨agrees_of_prefix_iff hbegins htoken, fun hcase => ?_⟩, hfound,
    fun hnone later hlater heven => ?_⟩
  · rw [agrees_of_prefix_iff hbegins htoken]
    rcases hcase with hle | hone
    · rw [← String.length_toList, ← String.length_toList] at hle
      exact lowersEvenly_of_length_le hbegins htoken hle
    · exact lowersEvenly_of_lowersOneToOne hbegins htoken hone
  · obtain ⟨sooner, hsooner, -⟩ := hfound later hlater heven
    rw [hnone] at hsooner
    cases hsooner

/-- The text `İ` is completed to another token than `İX`, though to one in front of it; the longer
text covers that token. -/
theorem narrows_while_typing_dotted :
    let tokens := ["İstanbul", "İxtapa", "İ"]
    "İ".toList <+: "İX".toList ∧ 1 ≤ "İ".length ∧ (∀ c ∈ "İX".toList, isBlank c = false) ∧
      suggest 1 tokens "İX" = some "İxtapa" ∧ LowersEvenly "İ".toList "İxtapa".toList ∧
      (∃ sooner, suggest 1 tokens "İ" = some sooner ∧
        tokens.idxOf sooner ≤ tokens.idxOf "İxtapa") ∧
      agrees "İX".toList "İ".toList = true ∧ agrees "İ".toList "İ".toList = true := by
  intro tokens
  have hbegins : "İ".toList <+: "İX".toList := by decide
  have hcompletable : isCompletable 1 "İX".toList = true := by decide
  have hblank : ∀ c ∈ "İX".toList, isBlank c = false := (isCompletable_iff.mp hcompletable).2
  have hlater : suggest 1 tokens "İX" = some "İxtapa" := by decide
  have heven : LowersEvenly "İ".toList "İxtapa".toList := by decide
  have hcovers : agrees "İX".toList "İ".toList = true := by decide
  obtain ⟨hagrees, hfound, -⟩ := @narrows_while_typing 1 tokens _ _ hbegins (by decide) hblank
  exact ⟨hbegins, by decide, hblank, hlater, heven, hfound _ hlater heven, hcovers,
    (hagrees "İ" hcovers).2 (.inl (by decide))⟩

/-- **Typing on can bring a token back.** A small i, the combining dot and the capital I with a dot
are completed to the token that begins with that capital, as both have the same four lower-case
characters. The small i alone has one, the capital two of them, so they do not agree. -/
theorem brings_a_token_back :
    let token := "\u0130i\u0307"
    let shorter := "i"
    let longer := "i\u0307\u0130"
    shorter.toList <+: longer.toList ∧ 1 ≤ shorter.length ∧
      (∀ c ∈ longer.toList, isBlank c = false) ∧
      agrees longer.toList token.toList = true ∧ agrees shorter.toList token.toList = false ∧
      suggest 1 [token] longer = some token ∧ suggest 1 [token] shorter = none := by
  intro token shorter longer
  have hcompletable : isCompletable 1 longer.toList = true := by decide
  exact ⟨by decide, by decide, (isCompletable_iff.mp hcompletable).2, by decide, by decide,
    by decide, by decide⟩

end CommandConsole.Completion
