import CommandConsole.Host

/-!
# The command line

The host program on a real terminal. The path of the configuration is the first argument, else the
variable `DEVCON_CONFIG`; standard input is read to its end line by line, and the screen is printed
after every line.
-/

namespace CommandConsole.Main

/-- The variable that names the configuration. -/
def pathVariable : String := "DEVCON_CONFIG"

/-- Looks at what is found under a path. -/
def readFile (path : String) : IO Config.File := do
  try
    return .bytes (← IO.FS.readBinFile path)
  catch error =>
    match error with
    | .noFileOrDirectory .. => return .missing
    | .inappropriateType .. => return .directory
    | _ => return .refused (toString error)

/-- The set-up that arguments and environment ask for. -/
def readSetup (args : List String) : IO Setup := do
  let path ← match args with
    | path :: _ => pure (some path)
    | [] => IO.getEnv pathVariable
  match path with
  | some path => return .fromFile path (← readFile path)
  | none => return .unconfigured

/-- Reads bytes up to the next line feed, none at the end of the input. -/
partial def readLine (input : IO.FS.Stream) (read : List UInt8) : IO (List UInt8) := do
  let next ← input.read 1
  match next.toList with
  | [] => return read.reverse
  | byte :: _ => if byte = 10 then return (byte :: read).reverse else readLine input (byte :: read)

/-- Prints a report apart from its exit code, which is the answer. -/
def finish (report : Report) : IO UInt32 := do
  IO.print report.stdout
  IO.eprint report.stderr
  return report.exitCode.toUInt32

/-- Feeds the lines of the input to the program, one at a time. -/
partial def loop (host : Host) (input : IO.FS.Stream) : IO UInt32 := do
  let raw ← readLine input []
  if raw.isEmpty then finish {}
  else
    match Host.decode? (Host.stripEnding raw) with
    | none => finish (.failed Config.notText none)
    | some line =>
      let (printed, next) := host.line line
      IO.print printed
      (← IO.getStdout).flush
      if next.isDone then finish {} else loop next input

end CommandConsole.Main

/-- Runs the host program. -/
def main (args : List String) : IO UInt32 := do
  match CommandConsole.Host.start (← CommandConsole.Main.readSetup args) with
  | .error error => CommandConsole.Main.finish (.failed error.message error.cause?)
  | .ok (printed, host) =>
    IO.print printed
    (← IO.getStdout).flush
    CommandConsole.Main.loop host (← IO.getStdin)
