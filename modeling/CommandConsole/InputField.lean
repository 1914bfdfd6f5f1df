/-!
# The input field

A text and a caret, which counts the characters in front of it. Characters are inserted at the
caret and deleted before it; replacing the text puts the caret at its end.
-/

namespace CommandConsole

/-- The text that is being typed and the caret in it. -/
structure InputField where
  /-- The text. -/
  text : String := ""
  /-- How many characters stand before the caret. -/
  caret : Nat := 0
  deriving Repr, DecidableEq

namespace InputField

/-- A field without text. -/
def empty : InputField := {}

/-- A field with this text and the caret at its end. -/
def ofText (text : String) : InputField := ⟨text, text.length⟩

/-- Inserts a character at the caret and moves the caret behind it. -/
def insert (field : InputField) (c : Char) : InputField :=
  let chars := field.text.toList
  ⟨String.ofList (chars.take field.caret ++ c :: chars.drop field.caret), field.caret + 1⟩

/-- Deletes the character before the caret; nothing happens at the start. -/
def deleteBack (field : InputField) : InputField :=
  if field.caret = 0 then field
  else
    let chars := field.text.toList
    ⟨String.ofList (chars.take (field.caret - 1) ++ chars.drop field.caret), field.caret - 1⟩

/-- Inserting at the end of a text appends. -/
theorem insert_ofText (text : String) (c : Char) :
    (ofText text).insert c = ofText (text.push c) := by
  have hlen : text.toList.length = text.length := String.length_toList
  simp only [insert, ofText, String.length_push, InputField.mk.injEq, and_true]
  apply String.toList_injective
  simp [← hlen]

/-- Deleting at the end of a text drops its last character. -/
theorem deleteBack_ofText (text : String) :
    (ofText text).deleteBack = ofText (String.ofList text.toList.dropLast) := by
  have hlen : text.toList.length = text.length := String.length_toList
  unfold deleteBack ofText
  split
  · next h =>
    simp only at h
    rw [← hlen, List.length_eq_zero_iff] at h
    have : text = "" := by
      apply String.toList_injective
      simp [h]
    subst this
    rfl
  · simp [← hlen, List.dropLast_eq_take]

end InputField

end CommandConsole
