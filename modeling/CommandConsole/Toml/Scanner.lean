/-!
# Scanners

A scanner takes a text as its list of characters, reads something off the front, and leaves the
rest; or it fails and leaves nothing. Sequencing is the monad, and `<|>` tries a second scanner on
the same text when the first one failed.

* `many` repeats a scanner as long as it succeeds and reads something, so it always ends.
* `separated` reads items with a separator between them; a separator that no item follows is left
  in the text.
-/

namespace CommandConsole.Toml

/-- Reads a value off the front of a text. -/
abbrev Scanner (α : Type) := StateT (List Char) Option α

namespace Scanner

variable {α β : Type}

/-- The next character, which stays in the text. -/
def peek : Scanner (Option Char) := fun text => some (text.head?, text)

/-- One character of a class. -/
def one (holds : Char → Bool) : Scanner Char := fun text =>
  match text with
  | c :: rest => if holds c then some (c, rest) else none
  | [] => none

/-- One certain character. -/
def char (c : Char) : Scanner Unit := discard (one (· == c))

/-- A certain series of characters. -/
def literal (expected : List Char) : Scanner Unit := fun text =>
  if expected.isPrefixOf text then some ((), text.drop expected.length) else none

/-- The longest run of characters of a class, which may be empty. -/
def run (holds : Char → Bool) : Scanner (List Char) := fun text =>
  some (text.takeWhile holds, text.dropWhile holds)

/-- Succeeds at the end of the text only. -/
def atEnd : Scanner Unit := fun text =>
  if text.isEmpty then some ((), text) else none

/-- Repeats a scanner as long as it succeeds and leaves less text, at most `bound` times. -/
def repeated (item : Scanner α) : Nat → List Char → List α × List Char
  | 0, text => ([], text)
  | bound + 1, text =>
    match item text with
    | none => ([], text)
    | some (value, rest) =>
      if rest.length < text.length then
        let (values, last) := repeated item bound rest
        (value :: values, last)
      else ([], text)

/-- Repeats a scanner as long as it succeeds and reads something. -/
def many (item : Scanner α) : Scanner (List α) := fun text =>
  some (repeated item text.length text)

/-- Items with a separator between them, possibly none. -/
def separated (item : Scanner α) (separator : Scanner β) : Scanner (List α) :=
  (do
    let first ← item
    let rest ← many (separator *> item)
    return first :: rest) <|> pure []

end Scanner

end CommandConsole.Toml
