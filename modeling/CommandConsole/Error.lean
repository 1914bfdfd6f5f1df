/-!
# Errors

Everything that can go wrong in the console, as causes. The wording of each cause is
`Error.message`, and nowhere else.

The first four causes are outcomes of a dispatch: the session shows them to the operator and goes
on. The others are failures of the set-up.
-/

namespace CommandConsole

/-- What went wrong. -/
inductive Error where
  /-- A blank line, or a token that no command is bound to. -/
  | notRecognized
  /-- A command got the wrong number of arguments. -/
  | parametersAmount
  /-- A command could not read an argument. -/
  | typeNotSupported
  /-- A command broke down while it ran. -/
  | commandPanicked (message : String)
  /-- The configuration holds a value that is not allowed. -/
  | config (reason : String)
  /-- The system refused a file. -/
  | io (cause : String)
  /-- A configuration document could not be read as one. -/
  | document (reason : String)
  deriving Repr, DecidableEq

namespace Error

/-- The wording of an error. -/
def message : Error → String
  | notRecognized => "Command not recognized"
  | parametersAmount => "Wrong amount of parameters"
  | typeNotSupported => "Type of command not supported"
  | commandPanicked message => "command panicked: " ++ message
  | config reason => "config error: " ++ reason
  | io cause => "I/O error: " ++ cause
  | document reason => "TOML parse error: " ++ reason

/-- Whether the error is an outcome of a dispatch, which the operator sees and the session
survives. -/
def isDispatchOutcome : Error → Bool
  | notRecognized | parametersAmount | typeNotSupported | commandPanicked _ => true
  | config _ | io _ | document _ => false

/-- The text of the error underneath, where there is one. -/
def cause? : Error → Option String
  | io cause => some cause
  | document reason => some reason
  | _ => none

end Error

end CommandConsole
