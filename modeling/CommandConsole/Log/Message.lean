import CommandConsole.Log.Level

/-!
# Messages

A message is a log record as the transcript shows it: a severity in brackets, a space, the text.
-/

namespace CommandConsole.Log

/-- The tag under which the transcript shows a message. -/
inductive Severity where
  | info
  | warning
  | error
  /-- A fault caught while a command ran. -/
  | exception
  deriving Repr, DecidableEq

namespace Severity

/-- Every severity. -/
def all : List Severity := [.info, .warning, .error, .exception]

/-- The word between the brackets. -/
def label : Severity → String
  | info => "Info"
  | warning => "Warning"
  | error => "Error"
  | exception => "Exception"

/-- The severity of a log level: everything below a warning is information. -/
def ofLevel : Level → Severity
  | .error => error
  | .warn => warning
  | .info | .debug | .trace => info

/-- The severity with the given label, spelled exactly. -/
def ofName? (name : String) : Option Severity :=
  all.find? fun severity => severity.label == name

end Severity

/-- A text on its way to the transcript. -/
structure Message where
  /-- The tag in front of the text. -/
  severity : Severity
  /-- The text. -/
  text : String
  deriving Repr, DecidableEq

/-- The transcript line of a message. -/
def Message.line (message : Message) : String :=
  "[" ++ message.severity.label ++ "] " ++ message.text

/-- A log record as a message. -/
def Record.message (record : Record) : Message :=
  ⟨Severity.ofLevel record.level, record.text⟩

end CommandConsole.Log
