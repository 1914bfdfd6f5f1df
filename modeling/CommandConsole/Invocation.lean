import CommandConsole.Text.Blank

/-!
# Invocations

A console line is split at single spaces and at nothing else: the first piece is the token of the
command, the other pieces are its arguments. There is no quoting, and pieces may be empty, so no
character of the line is lost.

* `Invocation.ofLine?`: the invocation that a line spells, none for a blank line.
* `Invocation.line`: the line that spells an invocation.
* `Invocation.line_ofLine?`: **reading a line loses nothing.**
* `Invocation.arguments_shorter`: the joined arguments are strictly shorter than the line, which
  is why a command that dispatches its own arguments always comes to an end.
-/

namespace CommandConsole

/-- A line taken apart: the token of a command and the arguments for it. -/
structure Invocation where
  /-- What names the command. -/
  token : String
  /-- The arguments in order, empty ones included. -/
  args : List String
  deriving Repr, DecidableEq

namespace Invocation

/-- Texts joined by single spaces. -/
def join (pieces : List String) : String :=
  " ".intercalate pieces

/-- The line that spells an invocation. -/
def line (call : Invocation) : String :=
  join (call.token :: call.args)

/-- Whether a line holds no character but blank ones. -/
def isBlankLine (line : String) : Bool :=
  line.toList.all Text.isBlank

/-- The pieces of a line between single spaces. -/
def pieces (line : String) : List String :=
  (line.toList.splitOn ' ').map String.ofList

/-- The invocation that a line spells: none if the line is blank, else its first piece with the
others as arguments. -/
def ofLine? (line : String) : Option Invocation :=
  if isBlankLine line then none
  else
    match pieces line with
    | [] => none
    | token :: args => some ⟨token, args⟩

/-! ## Reading loses nothing -/

theorem toList_join (texts : List String) :
    (join texts).toList = [' '].intercalate (texts.map String.toList) := by
  simp [join, String.toList_intercalate]

theorem join_pieces (line : String) : join (pieces line) = line := by
  apply String.toList_injective
  rw [toList_join, pieces, List.map_map]
  have : (String.toList ∘ String.ofList) = id := by funext x; simp
  rw [this, List.map_id, List.intercalate_splitOn]

/-- **Reading a line loses nothing:** the invocation spells the line that it was read from. -/
theorem line_ofLine? {line : String} {call : Invocation} (h : ofLine? line = some call) :
    call.line = line := by
  unfold ofLine? at h
  split at h
  · cases h
  · split at h
    · cases h
    · next token args hp =>
      cases h
      rw [Invocation.line, ← hp, join_pieces]

theorem isBlankLine_of_ofLine? {line : String} {call : Invocation}
    (h : ofLine? line = some call) : isBlankLine line = false := by
  unfold ofLine? at h
  split at h
  · cases h
  · next hb => simpa using hb

theorem join_nil : join [] = "" := by decide

theorem length_join_cons (head : String) (rest : List String) :
    (join (head :: rest)).length =
      head.length + if rest = [] then 0 else 1 + (join rest).length := by
  cases rest with
  | nil => simp [join]
  | cons next rest =>
    simp only [← String.length_toList, toList_join, List.map_cons]
    rw [List.intercalate_cons_cons]
    simp
    omega

theorem length_pos_of_ofLine? {line : String} {call : Invocation}
    (h : ofLine? line = some call) : 0 < line.length := by
  rcases Nat.eq_zero_or_pos line.length with h0 | hpos
  · have hblank := isBlankLine_of_ofLine? h
    rw [← String.length_toList, List.length_eq_zero_iff] at h0
    simp [isBlankLine, h0] at hblank
  · exact hpos

/-- **The joined arguments of a line are strictly shorter than the line.** -/
theorem arguments_shorter {line : String} {call : Invocation} (h : ofLine? line = some call) :
    (join call.args).length < line.length := by
  have hpos := length_pos_of_ofLine? h
  rw [← line_ofLine? h, Invocation.line, length_join_cons] at hpos ⊢
  split at hpos
  · next hargs => simpa [hargs, join_nil] using hpos
  · next hargs => simp only [hargs, if_false]; omega

end Invocation

end CommandConsole
