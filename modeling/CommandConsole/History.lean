import CommandConsole.Log.Logged

/-!
# The history of submitted lines

A history has a fixed number of slots and writes them in order. Writing the last slot does not wrap
around: it clears every slot and starts again at the first. A recall cursor walks over the written
slots, down to the oldest line and up to the free slot behind the newest.

* `History.store` writes a line and says what became of it.
* `History.older` and `History.newer` move the cursor and read the slot under it.
* `History.stored`: the lines written since the slots were last cleared.
-/

namespace CommandConsole

open Log

/-- What became of a line that was stored. -/
inductive StoreResult where
  /-- It was kept. -/
  | stored
  /-- It filled the last slot, and all slots were cleared. -/
  | cleared
  /-- There are no slots. -/
  | disabled
  deriving Repr, DecidableEq

/-- Slots for submitted lines and a cursor over them. -/
structure History where
  /-- All slots; those not written are empty. -/
  slots : List String
  /-- The slot that the next line goes to, which is also how many lines are stored. -/
  next : Nat
  /-- The slot that was recalled last, `next` if none was. -/
  cursor : Nat
  deriving Repr, DecidableEq

namespace History

/-- A history with this many slots, all of them empty. -/
def ofCapacity (capacity : Nat) : History :=
  ⟨List.replicate capacity "", 0, 0⟩

/-- How many slots there are. -/
def capacity (history : History) : Nat :=
  history.slots.length

/-- Whether anything can be stored. -/
def isEnabled (history : History) : Bool :=
  !history.slots.isEmpty

/-- The lines written since the slots were last cleared, the oldest first. -/
def stored (history : History) : List String :=
  history.slots.take history.next

/-- The slot under the cursor. -/
def slot? (history : History) : Option String :=
  history.slots[history.cursor]?

/-- Stores a submitted line. -/
def store (history : History) (line : String) : Logged (StoreResult × History) :=
  if history.capacity = 0 then pure (.disabled, history)
  else if history.next < history.capacity - 1 then
    pure (.stored, ⟨history.slots.set history.next line, history.next + 1, history.next + 1⟩)
  else do
    Logged.emit (.debug ("History full at " ++ toString history.capacity ++ " entries, clearing"))
    return (.cleared, ofCapacity history.capacity)

/-- Without slots, nothing is stored. -/
theorem store_of_disabled {history : History} (h : history.capacity = 0) (line : String) :
    history.store line = pure (.disabled, history) := by
  simp [store, h]

/-- Before the last slot, a line is written and the cursor goes behind it. -/
theorem store_of_room {history : History} (h : history.next + 1 < history.capacity)
    (line : String) :
    history.store line =
      pure (.stored,
        ⟨history.slots.set history.next line, history.next + 1, history.next + 1⟩) := by
  have hpos : history.capacity ≠ 0 := by omega
  have hroom : history.next < history.capacity - 1 := by omega
  simp [store, hpos, hroom]

/-- At the last slot, all slots are cleared. -/
theorem value_store_of_full {history : History} (hpos : 0 < history.capacity)
    (h : history.capacity ≤ history.next + 1) (line : String) :
    (history.store line).value = (.cleared, ofCapacity history.capacity) := by
  have hne : history.capacity ≠ 0 := by omega
  have hfull : ¬ history.next < history.capacity - 1 := by omega
  simp [store, hne, hfull]

/-- Steps back to an older line and reads it; the oldest line stays where it is. Nothing happens
when nothing is stored. -/
def older (history : History) : Option String × History :=
  if history.next = 0 then (none, history)
  else
    let moved := { history with cursor := history.cursor - 1 }
    (moved.slot?, moved)

/-- Steps forward to a newer line and reads it; behind the newest line comes the free slot. Nothing
happens when nothing is stored, or at the free slot. -/
def newer (history : History) : Option String × History :=
  if history.next = 0 ∨ history.next ≤ history.cursor then (none, history)
  else
    let moved := { history with cursor := history.cursor + 1 }
    (moved.slot?, moved)

/-! ## Runs -/

/-- One use of a history. -/
inductive Step where
  | store (line : String)
  | older
  | newer
  deriving Repr, DecidableEq

/-- The history after one use. -/
def step (history : History) : Step → History
  | .store line => (history.store line).value.2
  | .older => history.older.2
  | .newer => history.newer.2

/-- The history after a series of uses. -/
def run (history : History) (steps : List Step) : History :=
  steps.foldl step history

/-- Stores several lines in order and counts how often the slots were cleared. -/
def storeAll (history : History) (lines : List String) : Logged (Nat × History) :=
  lines.foldlM (fun (cleared, history) line => do
    let (result, history) ← history.store line
    return (if result = .cleared then cleared + 1 else cleared, history)) (0, history)

end History

end CommandConsole
