/-!
# Keys and actions

The keys that the console listens to, and what each asks of it. Every key has exactly one action
and every action one key.
-/

namespace CommandConsole

/-- What the console can be asked to do. -/
inductive Action where
  /-- Shows or hides the console. -/
  | toggleVisibility
  /-- Runs the line in the input field. -/
  | submit
  /-- Steps back to an older line. -/
  | recallOlder
  /-- Steps forward to a newer line. -/
  | recallNewer
  /-- Completes the token in the input field. -/
  | complete
  /-- Types a character. -/
  | insert (c : Char)
  /-- Deletes the character before the caret. -/
  | deleteBack
  deriving Repr, DecidableEq

/-- A key that was pressed. -/
inductive Key where
  | backquote
  | enter
  | up
  | down
  | tab
  | backspace
  /-- A key that types a character. -/
  | char (c : Char)
  deriving Repr, DecidableEq

/-- What a key asks for. -/
def Key.action : Key → Action
  | backquote => .toggleVisibility
  | enter => .submit
  | up => .recallOlder
  | down => .recallNewer
  | tab => .complete
  | backspace => .deleteBack
  | char c => .insert c

end CommandConsole
