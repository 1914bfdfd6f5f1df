import CommandConsole.History
import CommandConsole.InputField

/-!
# Checked operations

The history is edited by index and the input field by byte offset. Here are the same operations
over partial primitives: an index outside the slots, a difference below zero and an offset that is
no character boundary all give `none`.

* `History.store?`, `History.older?`, `History.newer?`, `History.stored?`: the history, with every
  slot written, read and cut by a checked index. `History.run?`: a series of them.
* `InputField.insert?`, `InputField.deleteBack?`: the input field, cut at the byte offset of the
  caret.

Results:
* `store?_eq`, `older?_eq`, `newer?_eq`, `step?_eq`, `stored?_eq`: while the cursor is at most
  `next` and `next` is inside the slots, nothing fails and the history does what it does without the
  checks.
* `insert?_eq`, `deleteBack?_eq`: the same for the input field while the caret is inside the text.
-/

namespace CommandConsole

/-- `a - b`, which fails below zero. -/
def sub? (a b : Nat) : Option Nat :=
  if b ≤ a then some (a - b) else none

theorem sub?_of_le {a b : Nat} (h : b ≤ a) : sub? a b = some (a - b) := if_pos h

namespace History

/-- Writes one slot. -/
def write? (slots : List String) (index : Nat) (line : String) : Option (List String) :=
  if index < slots.length then some (slots.set index line) else none

/-- `store`: the slot is written first, and then counted or cleared with the others. -/
def store? (history : History) (line : String) : Option (StoreResult × History) :=
  if history.capacity = 0 then some (.disabled, history)
  else do
    let slots ← write? history.slots history.next line
    let last ← sub? history.capacity 1
    if history.next < last then some (.stored, ⟨slots, history.next + 1, history.next + 1⟩)
    else some (.cleared, ⟨slots.map fun _ => "", 0, 0⟩)

/-- The cursor one slot back: only a cursor above zero is counted down. -/
def back? (cursor : Nat) : Option Nat :=
  if 0 < cursor then sub? cursor 1 else some cursor

/-- `older`. -/
def older? (history : History) : Option (Option String × History) :=
  if history.next = 0 then some (none, history)
  else do
    let cursor ← back? history.cursor
    let line ← history.slots[cursor]?
    some (some line, { history with cursor })

/-- `newer`. -/
def newer? (history : History) : Option (Option String × History) :=
  if history.next = 0 ∨ history.next ≤ history.cursor then some (none, history)
  else do
    let line ← history.slots[history.cursor + 1]?
    some (some line, { history with cursor := history.cursor + 1 })

/-- `stored`: the cut has to be inside the slots. -/
def stored? (history : History) : Option (List String) :=
  if history.next ≤ history.slots.length then some (history.slots.take history.next) else none

/-- One use of a history. -/
def step? (history : History) : Step → Option History
  | .store line => (history.store? line).map Prod.snd
  | .older => history.older?.map Prod.snd
  | .newer => history.newer?.map Prod.snd

/-- A series of uses: nothing may fail on the way. -/
def run? (history : History) (steps : List Step) : Option History :=
  steps.foldlM step? history

/-- `next` is a slot unless there are none, and the cursor is at most `next`. -/
structure InBounds (history : History) : Prop where
  next_le : history.next ≤ history.capacity
  next_lt : history.capacity ≠ 0 → history.next < history.capacity
  cursor_le : history.cursor ≤ history.next

variable {history : History}

theorem InBounds.next_lt_length (h : history.InBounds) (h0 : history.next ≠ 0) :
    history.next < history.slots.length := by
  refine h.next_lt fun hc => h0 ?_
  have := h.next_le
  omega

theorem back?_eq (cursor : Nat) : back? cursor = some (cursor - 1) := by
  unfold back?
  split
  · next hpos => exact sub?_of_le hpos
  · next hzero => exact congrArg some (by omega)

/-- Storing never leaves the slots. -/
theorem store?_eq (h : history.InBounds) (line : String) :
    history.store? line = some (history.store line).value := by
  by_cases h0 : history.capacity = 0
  · rw [store_of_disabled h0, store?, if_pos h0]
    rfl
  · have hlt : history.next < history.slots.length := h.next_lt h0
    rw [store?, if_neg h0, write?, if_pos hlt, sub?_of_le (Nat.pos_of_ne_zero h0)]
    by_cases hroom : history.next < history.capacity - 1
    · rw [store_of_room (by omega)]
      exact if_pos hroom
    · rw [value_store_of_full (Nat.pos_of_ne_zero h0) (by omega)]
      refine (if_neg hroom).trans ?_
      rw [List.map_const', List.length_set]
      rfl

theorem older?_eq (h : history.InBounds) : history.older? = some history.older := by
  unfold older? older
  by_cases h0 : history.next = 0
  · rw [if_pos h0, if_pos h0]
  · have hlt := h.next_lt_length h0
    have hcur := h.cursor_le
    have hread : history.cursor - 1 < history.slots.length := by omega
    rw [if_neg h0, if_neg h0, back?_eq]
    simp only [Option.bind_eq_bind, Option.bind_some, slot?, List.getElem?_eq_getElem hread]

theorem newer?_eq (h : history.InBounds) : history.newer? = some history.newer := by
  unfold newer? newer
  by_cases h0 : history.next = 0 ∨ history.next ≤ history.cursor
  · rw [if_pos h0, if_pos h0]
  · have hlt := h.next_lt_length fun hz => h0 (Or.inl hz)
    have hread : history.cursor + 1 < history.slots.length := by omega
    rw [if_neg h0, if_neg h0]
    simp only [Option.bind_eq_bind, Option.bind_some, slot?, List.getElem?_eq_getElem hread]

theorem stored?_eq (h : history.InBounds) : history.stored? = some history.stored := by
  have hle : history.next ≤ history.slots.length := h.next_le
  rw [stored?, if_pos hle]
  rfl

theorem step?_eq (h : history.InBounds) (use : Step) :
    history.step? use = some (history.step use) := by
  cases use with
  | store line => exact congrArg (Option.map Prod.snd) (store?_eq h line)
  | older => exact congrArg (Option.map Prod.snd) (older?_eq h)
  | newer => exact congrArg (Option.map Prod.snd) (newer?_eq h)

end History

/-! ## Texts by byte offset -/

namespace Text

/-- Where the characters of a text start in bytes, the first of them at `start`. -/
def starts (start : Nat) : List Char → List Nat
  | [] => []
  | c :: rest => start :: starts (start + c.utf8Size) rest

/-- Where the character at an index starts in bytes; past the last character, the byte length. -/
def byteOffset (text : String) (index : Nat) : Nat :=
  (starts 0 text.toList)[index]?.getD text.utf8ByteSize

/-- Puts a character in front of a byte, which has to be a character boundary. -/
def insertAt? (text : String) (offset : Nat) (c : Char) : Option String :=
  if h : (⟨offset⟩ : String.Pos.Raw).IsValid text then
    let cut := text.pos ⟨offset⟩ h
    some ((text.sliceTo cut).copy ++ String.singleton c ++ (text.sliceFrom cut).copy)
  else none

/-- Takes out the character that starts at a byte; there has to be one. -/
def removeAt? (text : String) (offset : Nat) : Option String :=
  if h : (⟨offset⟩ : String.Pos.Raw).IsValid text then
    let cut := text.pos ⟨offset⟩ h
    if hend : cut = text.endPos then none
    else some ((text.sliceTo cut).copy ++ (text.sliceFrom (cut.next hend)).copy)
  else none

/-- A text cut behind its first `n` characters. -/
theorem exists_cut {text : String} {n : Nat} (h : n ≤ text.length) :
    ∃ front back, text = front ++ back ∧ front.length = n ∧
      front.toList = text.toList.take n ∧ back.toList = text.toList.drop n := by
  refine ⟨String.ofList (text.toList.take n), String.ofList (text.toList.drop n), ?_, ?_, ?_, ?_⟩
  · rw [← String.ofList_append, List.take_append_drop, String.ofList_toList]
  · rw [← String.length_toList] at h
    rw [String.length_ofList, List.length_take, Nat.min_eq_left h]
  · exact String.toList_ofList
  · exact String.toList_ofList

theorem exists_cut_around {text : String} {n : Nat} (h : n < text.length) :
    ∃ front c back, text = front ++ (String.singleton c ++ back) ∧ front.length = n ∧
      front.toList = text.toList.take n ∧ back.toList = text.toList.drop (n + 1) := by
  obtain ⟨front, rest, htext, hlen, hfront, hrest⟩ := exists_cut (Nat.le_of_lt h)
  rw [← String.length_toList] at h
  rw [List.drop_eq_getElem_cons h] at hrest
  refine ⟨front, text.toList[n], String.ofList (text.toList.drop (n + 1)), ?_, hlen, hfront,
    String.toList_ofList⟩
  have hback : rest = String.singleton text.toList[n] ++
      String.ofList (text.toList.drop (n + 1)) := by
    apply String.toList_injective
    rw [hrest, String.toList_append, String.toList_singleton, String.toList_ofList]
    rfl
  rw [← hback]
  exact htext

theorem getElem?_starts (start : Nat) : ∀ front back : List Char,
    (starts start (front ++ back))[front.length]? =
      back.head?.map fun _ => start + (String.ofList front).utf8ByteSize
  | [], [] => rfl
  | [], _ :: _ => rfl
  | c :: front, back => by
    rw [List.cons_append, starts, List.length_cons, List.getElem?_cons_succ,
      getElem?_starts (start + c.utf8Size) front back]
    have hsize : start + c.utf8Size + (String.ofList front).utf8ByteSize =
        start + (String.ofList (c :: front)).utf8ByteSize := by
      rw [String.ofList_cons, String.utf8ByteSize_append, String.utf8ByteSize_singleton,
        Nat.add_assoc]
    rw [hsize]

/-- The offset behind a part of a text is the byte length of that part. -/
theorem byteOffset_append (front back : String) :
    byteOffset (front ++ back) front.length = front.utf8ByteSize := by
  unfold byteOffset
  rw [String.toList_append, ← String.length_toList, getElem?_starts, String.ofList_toList]
  cases h : back.toList with
  | nil =>
    rw [String.toList_eq_nil_iff] at h
    rw [h]
    simp
  | cons => simp

theorem isValid_utf8ByteSize (front back : String) :
    (⟨front.utf8ByteSize⟩ : String.Pos.Raw).IsValid (front ++ back) :=
  String.Pos.Raw.isValid_iff_exists_append.mpr ⟨front, back, rfl, rfl⟩

theorem splits_utf8ByteSize (front back : String) :
    ((front ++ back).pos ⟨front.utf8ByteSize⟩ (isValid_utf8ByteSize front back)).Splits
      front back :=
  String.Pos.splits_append_rawEndPos

theorem insertAt?_append (front back : String) (c : Char) :
    insertAt? (front ++ back) front.utf8ByteSize c =
      some (front ++ String.singleton c ++ back) := by
  have hs := splits_utf8ByteSize front back
  rw [insertAt?, dif_pos (isValid_utf8ByteSize front back)]
  simp only
  rw [hs.copy_sliceTo_eq, hs.copy_sliceFrom_eq]

theorem removeAt?_append (front back : String) (c : Char) :
    removeAt? (front ++ (String.singleton c ++ back)) front.utf8ByteSize =
      some (front ++ back) := by
  have hs := splits_utf8ByteSize front (String.singleton c ++ back)
  rw [removeAt?, dif_pos (isValid_utf8ByteSize front _)]
  simp only
  rw [dif_neg hs.ne_endPos_of_singleton, hs.copy_sliceTo_eq, hs.next.copy_sliceFrom_eq]

end Text

namespace InputField

/-- `insert`, at the byte offset of the caret. -/
def insert? (field : InputField) (c : Char) : Option InputField := do
  let text ← Text.insertAt? field.text (Text.byteOffset field.text field.caret) c
  some ⟨text, field.caret + 1⟩

/-- `deleteBack`, at the byte offset of the character before the caret. -/
def deleteBack? (field : InputField) : Option InputField :=
  if field.caret = 0 then some field
  else do
    let before ← sub? field.caret 1
    let text ← Text.removeAt? field.text (Text.byteOffset field.text before)
    some ⟨text, before⟩

variable {field : InputField}

/-- **Inserting at the caret never splits a character.** -/
theorem insert?_eq (h : field.caret ≤ field.text.length) (c : Char) :
    field.insert? c = some (field.insert c) := by
  obtain ⟨front, back, htext, hlen, hfront, hback⟩ := Text.exists_cut h
  have hinsert : Text.insertAt? field.text (Text.byteOffset field.text field.caret) c =
      some (front ++ String.singleton c ++ back) := by
    rw [← hlen, htext, Text.byteOffset_append, Text.insertAt?_append]
  rw [insert?, hinsert, insert, ← hfront, ← hback]
  refine congrArg some (congrArg (InputField.mk · (field.caret + 1)) ?_)
  apply String.toList_injective
  simp

/-- **Deleting before the caret takes out one whole character.** -/
theorem deleteBack?_eq (h : field.caret ≤ field.text.length) :
    field.deleteBack? = some field.deleteBack := by
  unfold deleteBack? deleteBack
  by_cases h0 : field.caret = 0
  · rw [if_pos h0, if_pos h0]
  · obtain ⟨front, c, back, htext, hlen, hfront, hback⟩ :=
      Text.exists_cut_around (show field.caret - 1 < field.text.length by omega)
    have hremove : Text.removeAt? field.text (Text.byteOffset field.text (field.caret - 1)) =
        some (front ++ back) := by
      rw [← hlen, htext, Text.byteOffset_append, Text.removeAt?_append]
    rw [Nat.sub_add_cancel (Nat.pos_of_ne_zero h0)] at hback
    rw [if_neg h0, if_neg h0, sub?_of_le (Nat.pos_of_ne_zero h0)]
    simp only [Option.bind_eq_bind, Option.bind_some, hremove, Nat.succ_eq_add_one, Nat.zero_add]
    rw [← hfront, ← hback]
    refine congrArg some (congrArg (InputField.mk · (field.caret - 1)) ?_)
    apply String.toList_injective
    simp

end InputField

end CommandConsole
