import CommandConsole.Config.Document
import CommandConsole.Log.Logged

/-!
# Configuration files

What is found under the path of a configuration, and the configuration that is loaded from it. A
file that was read and accepted is recorded; a failure is not.
-/

namespace CommandConsole.Config

open Log

/-- What is found under a path. -/
inductive File where
  /-- Nothing that can be read, with what the system says about it. -/
  | refused (cause : String)
  /-- A file with these bytes. -/
  | bytes (content : ByteArray)

/-- A path where nothing is. -/
def File.missing : File := .refused "No such file or directory (os error 2)"

/-- A path where a directory is. -/
def File.directory : File := .refused "Is a directory (os error 21)"

/-- What is said of bytes that are not a text. -/
def notText : String := "stream did not contain valid UTF-8"

/-- The text of a file. -/
def File.text : File → Except Error String
  | refused cause => .error (.io cause)
  | bytes content =>
    match String.fromUTF8? content with
    | some text => .ok text
    | none => .error (.io notText)

/-- Loads the configuration found under a path. -/
def load (path : String) (file : File) : Logged (Except Error Config) :=
  match file.text >>= ofToml with
  | .error error => pure (.error error)
  | .ok config => do
    Logged.emit (.debug ("Loaded console config from " ++ path))
    return .ok config

end CommandConsole.Config
