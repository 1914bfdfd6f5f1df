import CommandConsole.Registry

/-!
# The built-in commands

`quit` asks the application to stop; `help` lists the commands in columns or shows the manual page
of one of them.

The column of descriptions starts at the same place in every row: tokens are padded with spaces to
the largest UTF-8 length among them, which no token's number of characters exceeds.

* `helpTable`: the text of the list.
* `length_pad`: a padded token is as wide as asked for, or as the token.
-/

namespace CommandConsole.Builtin

open Log

/-- `quit`, which takes no arguments. -/
def quit : Command where
  name := "Quit"
  token := "quit"
  description := "Quits the application"
  help := "Use with no arguments to force quit the game."
  run args :=
    .done <| .finished <| if args.isEmpty then .ok .quit else .error .parametersAmount

/-- A text filled up with spaces to the given number of characters, longer texts unchanged. -/
def pad (width : Nat) (text : String) : String :=
  text ++ String.ofList (List.replicate (width - text.length) ' ')

/-- The largest UTF-8 length of the tokens of a listing. -/
def columnWidth (rows : List (String × String)) : Nat :=
  (rows.map fun row => row.1.utf8ByteSize).foldl max 0

/-- The widest column that can be laid out. -/
def maxColumnWidth : Nat := 65535

/-- One row of the list: a token in its column, then its description. -/
def helpRow (width : Nat) (row : String × String) : String :=
  "\n  " ++ pad width row.1 ++ "  " ++ row.2

/-- The list of all commands: how many there are, then a row for each. -/
def helpTable (rows : List (String × String)) : String :=
  "Commands (" ++ toString rows.length ++ "):" ++
    String.join (rows.map (helpRow (columnWidth rows)))

/-- The manual page of one command. -/
def helpPage (manual : Manual) : String :=
  manual.name ++ " (" ++ manual.token ++ ")\n  " ++ manual.description ++ "\n  " ++ manual.help

/-- What `help` replies without arguments; a column wider than the widest breaks it down. -/
def helpAll (rows : List (String × String)) : Reply :=
  if columnWidth rows ≤ maxColumnWidth then .finished (.ok (.text (helpTable rows)))
  else .panicked (some "Formatting argument out of range")

/-- What `help` replies to a token, given the manual page that is looked up under it. -/
def helpOne : Option Manual → Reply
  | some manual => .finished (.ok (.text (helpPage manual)))
  | none => .finished (.error .notRecognized)

/-- `help`, which takes a token or nothing. -/
def help : Command where
  name := "Help"
  token := "help"
  description := "Lists commands or shows help for one"
  help := "Use with no arguments to list every command, or 'help <command>' for details."
  run
    | [] => .ask .listing fun rows => .done (helpAll rows)
    | [token] => .ask (.lookup token) fun manual? => .done (helpOne manual?)
    | _ => .done (.finished (.error .parametersAmount))

/-- The built-in commands in the order of their registration. -/
def all : List Command := [quit, help]

/-- A padded text is as wide as asked for, or as the text. -/
theorem length_pad (width : Nat) (text : String) :
    (pad width text).length = max width text.length := by
  simp [pad]
  omega

end CommandConsole.Builtin
