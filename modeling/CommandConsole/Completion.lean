import CommandConsole.Text.Blank
import CommandConsole.Text.Lower

/-!
# Completion

What the operator typed is completed to the first token that agrees with it, ignoring case, on as
many characters as both have. A token that is shorter than the typed text therefore matches when
the text starts with it. Texts below the minimum length, and texts with a blank character in them,
are never completed.

* `Completion.agrees`: the comparison on the common length.
* `Completion.suggest`: the first token that agrees.
* `Completion.suggest_mem`: a suggestion is one of the tokens.
-/

namespace CommandConsole.Completion

open Text

/-- Whether two texts agree on as many characters as both have, when each character is taken in
lower case. -/
def agrees (typed token : List Char) : Bool :=
  let common := min token.length typed.length
  lowerAll (token.take common) == lowerAll (typed.take common)

/-- Whether a text can be completed at all: it is long enough and has no blank character. -/
def isCompletable (minChars : Nat) (typed : List Char) : Bool :=
  minChars ≤ typed.length && !typed.any isBlank

/-- The first token that agrees with the typed text. -/
def suggest (minChars : Nat) (tokens : List String) (typed : String) : Option String :=
  if isCompletable minChars typed.toList then
    tokens.find? fun token => agrees typed.toList token.toList
  else none

/-- A suggestion is one of the tokens. -/
theorem suggest_mem {minChars : Nat} {tokens : List String} {typed token : String}
    (h : suggest minChars tokens typed = some token) : token ∈ tokens := by
  unfold suggest at h
  split at h
  · exact List.mem_of_find?_eq_some h
  · cases h

end CommandConsole.Completion
