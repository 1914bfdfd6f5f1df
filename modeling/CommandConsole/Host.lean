import CommandConsole.Command.Builtin
import CommandConsole.Config.File
import CommandConsole.Console
import CommandConsole.KeyScript
import CommandConsole.Screen

/-!
# The host program

A program that holds one console and drives it by lines of standard input. Each line is a key
script; after each, what waits is shown and the screen printed. A line that is no key script is
reported to the log and presses no key. The program ends when a command asks to quit, when the
input ends, or with an error when a line is not UTF-8.

The log of the program comes back to the console down to level `info`.

* `lines`: the lines of the input; a line feed ends a line, and takes a carriage return with it.
* `start`: the configuration, the commands, the console, and the first key press, which shows it.
* `Host.line`: one line of input.
* `run`: **the whole program, from its set-up and its input to what it leaves behind.**
-/

namespace CommandConsole

open Log

/-- Where the program takes its configuration from. -/
inductive Setup where
  /-- Nowhere: the defaults. -/
  | unconfigured
  /-- From the file found under a path. -/
  | fromFile (path : String) (file : Config.File)

/-- What a run of the program leaves behind. -/
structure Report where
  /-- What it printed. -/
  stdout : String := ""
  /-- What it complained about. -/
  stderr : String := ""
  /-- Zero if all went well. -/
  exitCode : Nat := 0
  deriving Repr, DecidableEq

/-- A complaint, with the cause underneath where there is one. -/
def complaint (message : String) (cause : Option String) : String :=
  "Error: " ++ message ++ "\n" ++
    match cause with
    | some cause => "\nCaused by:\n    " ++ cause ++ "\n"
    | none => ""

/-- A run that fails with a complaint. -/
def Report.failed (message : String) (cause : Option String) : Report :=
  ⟨"", complaint message cause, 1⟩

/-- A run that prints something first. -/
def Report.after (report : Report) (printed : String) : Report :=
  { report with stdout := printed ++ report.stdout }

/-- The program while it runs. -/
structure Host where
  /-- The console. -/
  console : Console
  /-- What was printed of it. -/
  screen : Screen

namespace Host

/-! ## Lines of input -/

/-- The pieces of the input up to and including each line feed, and what comes after the last one
unless it is empty. -/
def rawLines : List UInt8 → List (List UInt8)
  | [] => []
  | byte :: rest =>
    if byte = 10 then [byte] :: rawLines rest
    else
      match rawLines rest with
      | [] => [[byte]]
      | line :: lines => (byte :: line) :: lines

/-- A line without the line feed that ends it, and without a carriage return before that. -/
def stripEnding (line : List UInt8) : List UInt8 :=
  match line.reverse with
  | 10 :: 13 :: front => front.reverse
  | 10 :: front => front.reverse
  | _ => line

/-- The lines of the input as bytes. -/
def lines (input : List UInt8) : List (List UInt8) :=
  (rawLines input).map stripEnding

/-- A line as a text, none if it is not UTF-8. -/
def decode? (line : List UInt8) : Option String :=
  String.fromUTF8? ⟨line.toArray⟩

/-! ## Starting -/

/-- The log of the program, which comes back to the console and goes nowhere else. -/
def forwarder : Forwarder := ⟨.upTo .info, some .off⟩

/-- The configuration of a set-up. -/
def configure : Setup → Logged (Except Error Config)
  | .unconfigured => pure (.ok .default)
  | .fromFile path file => do
    Logged.emit (.info ("Loading config from " ++ path))
    Config.load path file

/-- The record of a start. -/
def startRecord (config : Config) : Record :=
  .info ("Starting devcon (history " ++ toString config.historyCapacity ++
    ", completion after " ++ toString config.minChars ++ " chars)")

/-- Shows what waits and prints the screen. -/
def refresh (host : Host) : String × Host :=
  let (printed, screen) := host.screen.flush host.console.session
  (printed, { host with screen })

/-- The program when it is ready for its first line, and what it printed until then. -/
def start (setup : Setup) : Except Error (String × Host) :=
  let configured := configure setup
  match configured.value with
  | .error error => .error error
  | .ok config => do
    let registered := Registry.empty.registerAll Builtin.all
    let records := configured.records ++ [startRecord config] ++ registered.records
    let inbox := Inbox.empty.sendAll (forwarder.messages records)
    let console ← (Console.start config registered.value inbox (some forwarder)).value
    let shown := (console.step (.key .backquote)).value
    return Host.refresh ⟨shown, .blank⟩

/-! ## Running -/

/-- What a line asks of the console: the keys of its script, or a warning if it has none. -/
def stepsOfLine (line : String) : List Step :=
  match KeyScript.keys line with
  | .ok keys => keys.map Step.key
  | .error unknown => [.log (.warn unknown.message)]

/-- One line of input: its steps, then what waits is shown and the screen printed. -/
def line (host : Host) (line : String) : String × Host :=
  let console := (host.console.run (stepsOfLine line ++ [.poll])).value
  Host.refresh { host with console }

/-- Whether a command asked to quit. -/
def isDone (host : Host) : Bool := host.console.session.quitRequested

/-- The program on the lines that are left: it stops when a command asks to quit, and fails on a
line that is not UTF-8. -/
def feed (host : Host) : List (List UInt8) → Report
  | [] => {}
  | raw :: rest =>
    match decode? raw with
    | none => .failed Config.notText none
    | some line =>
      let (printed, next) := host.line line
      if next.isDone then { stdout := printed } else (feed next rest).after printed

/-- **The whole program.** -/
def run (setup : Setup) (input : List UInt8) : Report :=
  match start setup with
  | .error error => .failed error.message error.cause?
  | .ok (printed, host) => (host.feed (lines input)).after printed

end Host

end CommandConsole
