import Mathlib.Algebra.Order.BigOperators.Group.List
import Mathlib.Data.String.Basic
import Mathlib.Tactic.SplitIfs

/-!
# Texts as bytes

A text has its UTF-8 form, a list of bytes. Two things about it matter to a console that lays out
and sorts tokens. A character takes a byte at least, so the bytes of a text bound its characters.
And a character that comes later in Unicode has a form that comes later, whatever stands behind the
two, so texts are sorted in the same order by their characters and by their bytes.

Results:
* `length_le_utf8ByteSize`: a text has no more characters than bytes.
* `encode_append_lt`: **the form of a later character comes later**, whatever follows.
* `bytes_lt_bytes_iff`, `bytes_le_bytes_iff`: **the order of texts is the order of their bytes.**
-/

namespace CommandConsole.Text

/-- The UTF-8 form of a text. -/
def bytes (text : String) : List UInt8 :=
  text.toUTF8.data.toList

theorem bytes_eq_flatMap (text : String) :
    bytes text = text.toList.flatMap String.utf8EncodeChar := by
  have hencode : text.toByteArray = text.toList.utf8Encode := by
    rw [← String.toByteArray_ofList, String.ofList_toList]
  exact (congrArg (fun encoded => encoded.data.toList) hencode).trans List.toList_data_toByteArray

theorem length_bytes (text : String) : (bytes text).length = text.utf8ByteSize := rfl

theorem encode_ne_nil (c : Char) : String.utf8EncodeChar c ≠ [] := by
  rw [← List.length_pos_iff, String.length_utf8EncodeChar]
  exact c.utf8Size_pos

/-- **A text has no more characters than bytes.** -/
theorem length_le_utf8ByteSize (text : String) : text.length ≤ text.utf8ByteSize := by
  rw [← length_bytes, bytes_eq_flatMap, List.length_flatMap, ← String.length_toList]
  refine Nat.le_trans (Nat.le_of_eq (List.length_map _).symm) (List.length_le_sum_of_one_le _ ?_)
  exact List.forall_mem_map.mpr fun c _ => List.length_pos_iff.mpr (encode_ne_nil c)

/-! ## The form of a character -/

theorem cons_ofNat_lt {a b : Nat} (h : a < b) (hb : b < 256) (rest rest' : List UInt8) :
    UInt8.ofNat a :: rest < UInt8.ofNat b :: rest' := by
  rw [List.cons_lt_cons_iff, UInt8.lt_iff_toNat_lt, UInt8.toNat_ofNat_of_lt' (Nat.lt_trans h hb),
    UInt8.toNat_ofNat_of_lt' hb]
  exact .inl h

/-- A number as a first byte over a mark, and then so many digits to the base 64, each in a byte. -/
def spelled (mark : Nat) : Nat → Nat → List UInt8
  | 0, n => [UInt8.ofNat (n + mark)]
  | digits + 1, n => spelled mark digits (n / 64) ++ [UInt8.ofNat (n % 64 + 128)]

/-- **A larger number is spelled later**, whatever follows. -/
theorem spelled_append_lt (limit : Nat) {mark digits a b : Nat} (hmark : limit + mark ≤ 256)
    (h : a < b) (hb : b < limit * 64 ^ digits) (rest rest' : List UInt8) :
    spelled mark digits a ++ rest < spelled mark digits b ++ rest' := by
  induction digits generalizing a b rest rest' with
  | zero => exact cons_ofNat_lt (by omega) (by omega) rest rest'
  | succ digits ih =>
    rw [spelled, spelled, List.append_assoc, List.append_assoc]
    rcases Nat.lt_or_ge (a / 64) (b / 64) with hfront | hfront
    · have hfit : b / 64 < limit * 64 ^ digits := by
        rw [Nat.div_lt_iff_lt_mul (by decide), Nat.mul_assoc, ← Nat.pow_succ]
        exact hb
      exact ih hfront hfit _ _
    · -- The last digits differ where the others are the same.
      have hsame : a / 64 = b / 64 := by omega
      rw [hsame]
      exact List.append_left_lt (cons_ofNat_lt (by omega) (by omega) rest rest')

theorem toNat_val_lt (c : Char) : c.val.toNat < 0x110000 := by
  rcases c.valid with h | h
  · exact Nat.lt_trans h (by decide)
  · exact h.2

/-- Two, three and four bytes begin with marks that tell them apart. -/
theorem encode_eq_spelled (c : Char) :
    String.utf8EncodeChar c =
      if c.val.toNat ≤ 0x7F then spelled 0 0 c.val.toNat
      else if c.val.toNat ≤ 0x7FF then spelled 192 1 c.val.toNat
      else if c.val.toNat ≤ 0xFFFF then spelled 224 2 c.val.toNat
      else spelled 240 3 c.val.toNat := by
  have hmax := toNat_val_lt c
  unfold String.utf8EncodeChar
  generalize c.val.toNat = n at hmax
  dsimp only
  split_ifs
  · rfl
  · rw [Nat.mod_eq_of_lt (show n / 64 < 32 by omega)]
    rfl
  · rw [Nat.mod_eq_of_lt (show n / 4096 < 16 by omega), show n / 4096 = n / 64 / 64 by omega]
    rfl
  · rw [Nat.mod_eq_of_lt (show n / 262144 < 8 by omega),
      show n / 262144 = n / 64 / 64 / 64 by omega, show n / 4096 = n / 64 / 64 by omega]
    rfl

/-- **The form of a later character comes later**, whatever follows: of two forms with equally many
bytes by their digits, and else by their first bytes. -/
theorem encode_append_lt {c d : Char} (h : c < d) (rest rest' : List UInt8) :
    String.utf8EncodeChar c ++ rest < String.utf8EncodeChar d ++ rest' := by
  have hlt : c.val.toNat < d.val.toNat := h
  have hmax := toNat_val_lt d
  rw [encode_eq_spelled, encode_eq_spelled]
  generalize c.val.toNat = m at hlt
  generalize d.val.toNat = n at hlt hmax
  split_ifs
  · exact spelled_append_lt 128 (by decide) hlt (by omega) rest rest'
  · exact cons_ofNat_lt (by omega) (by omega) _ _
  · exact cons_ofNat_lt (by omega) (by omega) _ _
  · exact cons_ofNat_lt (by omega) (by omega) _ _
  · omega
  · exact spelled_append_lt 32 (by decide) hlt (by omega) rest rest'
  · exact cons_ofNat_lt (by omega) (by omega) _ _
  · exact cons_ofNat_lt (by omega) (by omega) _ _
  · omega
  · omega
  · exact spelled_append_lt 16 (by decide) hlt (by omega) rest rest'
  · exact cons_ofNat_lt (by omega) (by omega) _ _
  · omega
  · omega
  · omega
  · exact spelled_append_lt 8 (by decide) hlt (by omega) rest rest'

/-! ## Texts -/

theorem flatMap_encode_lt {a b : List Char} (h : a < b) :
    a.flatMap String.utf8EncodeChar < b.flatMap String.utf8EncodeChar := by
  induction a generalizing b with
  | nil =>
    cases b with
    | nil => exact absurd h (List.not_lt_nil _)
    | cons d b =>
      obtain ⟨byte, rest, hform⟩ := List.exists_cons_of_ne_nil (encode_ne_nil d)
      rw [List.flatMap_nil, List.flatMap_cons, hform]
      exact List.nil_lt_cons _ _
  | cons c a ih =>
    cases b with
    | nil => exact absurd h (List.not_lt_nil _)
    | cons d b =>
      rw [List.flatMap_cons, List.flatMap_cons]
      rcases List.cons_lt_cons_iff.mp h with hlt | ⟨rfl, hrest⟩
      · exact encode_append_lt hlt _ _
      · exact List.append_left_lt (ih hrest)

/-- **The order of texts is the order of their bytes.** -/
theorem bytes_lt_bytes_iff {a b : String} : bytes a < bytes b ↔ a < b := by
  have hforth : ∀ {a b : String}, a < b → bytes a < bytes b := fun h => by
    rw [bytes_eq_flatMap, bytes_eq_flatMap]
    exact flatMap_encode_lt (String.lt_iff_toList_lt.mp h)
  refine ⟨fun h => ?_, hforth⟩
  rcases lt_trichotomy a b with hlt | rfl | hgt
  · exact hlt
  · exact absurd h (List.lt_irrefl _)
  · exact absurd h (List.lt_asymm (hforth hgt))

theorem bytes_le_bytes_iff {a b : String} : bytes a ≤ bytes b ↔ a ≤ b :=
  not_congr bytes_lt_bytes_iff

end CommandConsole.Text
