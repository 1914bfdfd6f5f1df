import CommandConsole.Registry

/-!
# Scripted commands

Commands whose behaviour is given as data: they answer with a fixed text, fail or break down on
purpose, read a number, ask the registry, or dispatch their own arguments. They stand in for the
commands of an application wherever a console is set up from a description.

* `Behaviour.run`: what each behaviour does.
* `parseLevel?`: the numbers that `teleport` accepts.
-/

namespace CommandConsole.Scripted

open Log

/-- What a scripted command does. -/
inductive Behaviour where
  /-- Shows the arguments, joined with vertical bars. -/
  | echo
  /-- Shows a fixed text. -/
  | say (text : String)
  /-- Shows nothing. -/
  | silent
  /-- Asks to quit. -/
  | quit
  /-- Fails with an error. -/
  | fail (error : Error)
  /-- Breaks down with a fixed message. -/
  | panic (message : String)
  /-- Breaks down with a message that counts the arguments. -/
  | panicCounting (message : String)
  /-- Breaks down without a message. -/
  | panicMute
  /-- Reads its only argument as the number of a level. -/
  | teleport
  /-- Shows how many commands are registered. -/
  | count
  /-- Shows the registered tokens in the order of registration. -/
  | tokens
  /-- Dispatches the arguments as a line of their own. -/
  | redispatch
  deriving Repr, DecidableEq

/-- The largest level, which is the largest word of 32 bits. -/
def maxLevel : Nat := 4294967295

/-- The value of a run of ASCII digits, none if there is another character. -/
def digitsValue? (digits : List Char) : Option Nat :=
  digits.foldl (fun value c => value.bind fun n =>
    if c.isDigit then some (10 * n + (c.toNat - '0'.toNat)) else none) (some 0)

/-- The level that a text names: at least one ASCII digit, after at most one plus sign, and no
larger than `maxLevel`. -/
def parseLevel? (text : String) : Option Nat :=
  let digits := match text.toList with
    | '+' :: rest => rest
    | chars => chars
  if digits.isEmpty then none
  else (digitsValue? digits).filter (· ≤ maxLevel)

/-- What a behaviour does on some arguments. -/
def Behaviour.run (behaviour : Behaviour) (args : List String) : Program :=
  match behaviour with
  | echo => .done (.finished (.ok (.text ("|".intercalate args))))
  | say text => .done (.finished (.ok (.text text)))
  | silent => .done (.finished (.ok .silent))
  | quit => .done (.finished (.ok .quit))
  | fail error => .done (.finished (.error error))
  | panic message => .done (.panicked (some message))
  | panicCounting message =>
    .done (.panicked (some (message ++ " (" ++ toString args.length ++ " args)")))
  | panicMute => .done (.panicked none)
  | teleport => .done <| .finished <|
    match args with
    | [arg] =>
      match parseLevel? arg with
      | some level => .ok (.text ("Teleported to level " ++ toString level))
      | none => .error .typeNotSupported
    | _ => .error .parametersAmount
  | count => .ask .size fun size => .done (.finished (.ok (.text (toString size))))
  | tokens => .ask .tokens fun tokens => .done (.finished (.ok (.text (",".intercalate tokens))))
  | redispatch => .ask (.dispatch (Invocation.join args)) fun outcome => .done (.finished outcome)

/-- The command with the given manual page and behaviour. -/
def command (manual : Manual) (behaviour : Behaviour) : Command where
  toManual := manual
  run := behaviour.run

end CommandConsole.Scripted
