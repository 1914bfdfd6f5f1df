import CommandConsole.Command
import CommandConsole.Log.Message

/-!
# The transcript

Everything the console has shown, as a list of entries that only grows. An entry remembers what it
is: a log message, the echo of a submitted line, the outcome of its dispatch, or a notice. Its text
is made from that when it is shown.

* `Entry.text`: the line that an entry shows.
* `Transcript.text`: the whole transcript, every line ended by a line feed.
-/

namespace CommandConsole

open Log

/-- Shown for a command that succeeds and has nothing to show. -/
def executedText : String := "Command executed successfully"

/-- Shown when the history was cleared. -/
def clearedText : String := "Console clipboard cleared"

/-- Shown when a command asks to quit. -/
def quittingText : String := "Quitting..."

/-- The tag of an error that a dispatch came to: breakdowns are exceptions, the other outcomes of a
dispatch warnings, and failures that no dispatch produces by itself errors. -/
def Error.severity : Error → Severity
  | .commandPanicked _ => .exception
  | error => if error.isDispatchOutcome then .warning else .error

/-- The line that shows the outcome of a dispatch. -/
def Outcome.text : Outcome → String
  | .ok (.text content) => content
  | .ok .silent => executedText
  | .ok .quit => quittingText
  | .error error => (Message.mk error.severity error.message).line

/-- One line of the transcript, as what it is. -/
inductive Entry where
  /-- A message of the log. -/
  | logged (message : Message)
  /-- A line that was submitted. -/
  | echoed (line : String)
  /-- What came of the line before. -/
  | outcome (result : Outcome)
  /-- A remark of the console itself. -/
  | notice (content : String)

namespace Entry

/-- The line that an entry shows. -/
def text : Entry → String
  | logged message => message.line
  | echoed line => line
  | outcome result => result.text
  | notice content => content

/-- Whether an entry comes from the log. -/
def isLogged : Entry → Bool
  | logged _ => true
  | _ => false

end Entry

/-- What the console has shown, the oldest entry first. -/
structure Transcript where
  /-- The entries. -/
  entries : List Entry := []

namespace Transcript

/-- The transcript of a console that has shown nothing. -/
def empty : Transcript := {}

/-- The transcript with one more entry. -/
def push (transcript : Transcript) (entry : Entry) : Transcript :=
  ⟨transcript.entries ++ [entry]⟩

/-- The transcript with more entries. -/
def append (transcript : Transcript) (entries : List Entry) : Transcript :=
  ⟨transcript.entries ++ entries⟩

/-- The lines shown, in order. -/
def lines (transcript : Transcript) : List String :=
  transcript.entries.map Entry.text

/-- How many lines were shown. -/
def size (transcript : Transcript) : Nat :=
  transcript.entries.length

/-- Whether nothing was shown. -/
def isEmpty (transcript : Transcript) : Bool :=
  transcript.entries.isEmpty

/-- Lines as one block of text, each ended by a line feed. -/
def block (lines : List String) : String :=
  String.join (lines.map (· ++ "\n"))

/-- The whole transcript as one block of text. -/
def text (transcript : Transcript) : String :=
  block transcript.lines

@[simp]
theorem entries_push (transcript : Transcript) (entry : Entry) :
    (transcript.push entry).entries = transcript.entries ++ [entry] := rfl

@[simp]
theorem entries_append (transcript : Transcript) (entries : List Entry) :
    (transcript.append entries).entries = transcript.entries ++ entries := rfl

@[simp]
theorem lines_push (transcript : Transcript) (entry : Entry) :
    (transcript.push entry).lines = transcript.lines ++ [entry.text] := by
  simp [lines]

@[simp]
theorem lines_append (transcript : Transcript) (entries : List Entry) :
    (transcript.append entries).lines = transcript.lines ++ entries.map Entry.text := by
  simp [lines]

end Transcript

end CommandConsole
