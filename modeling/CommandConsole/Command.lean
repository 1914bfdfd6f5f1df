import CommandConsole.Error
import CommandConsole.Invocation
import CommandConsole.Log.Logged

/-!
# Commands

A command is a manual page together with what it does. On the arguments of an invocation it is a
program, which replies, or writes a record, or asks something of the registry it was found in and
goes on with the answer. All that a registry offers can be asked: how many commands there are and
how they are listed, what a token is bound to and what that command replies to some arguments, and
what a line comes to, whichever line it is.

What an environment answers is left open here. An answer may also never come, as a line that is
dispatched may dispatch itself; then the program has no reply either.

* `Program.run`: what a program comes to in an environment.
* `Program.run_mono`: more answers never change a reply.
* `Reply.settle`: a command that breaks down replies `panicked`, and this turns it into an error,
  so no breakdown leaves the command.
-/

namespace CommandConsole

open Log

/-- What a command leaves for the operator when it succeeds. -/
inductive Output where
  /-- A text to show. -/
  | text (content : String)
  /-- Nothing to show. -/
  | silent
  /-- The wish to quit the application. -/
  | quit
  deriving Repr, DecidableEq

/-- What comes of a dispatched line. -/
abbrev Outcome := Except Error Output

/-- How a command ends. -/
inductive Reply where
  /-- With a result, good or bad. -/
  | finished (outcome : Outcome)
  /-- By breaking down, with a message if what it threw was a text. -/
  | panicked (message : Option String)

/-- The outcome of a reply: a breakdown is an error that carries its message. -/
def Reply.settle : Reply → Outcome
  | finished outcome => outcome
  | panicked message => .error (.commandPanicked (message.getD "unknown panic"))

/-- The manual page of a command. -/
structure Manual where
  /-- The name for people. -/
  name : String
  /-- What the operator types. -/
  token : String
  /-- What the command is for, in one line. -/
  description : String
  /-- How to use it. -/
  help : String
  deriving Repr, DecidableEq, Inhabited

/-- What a running command may ask of the registry it was found in. -/
inductive Query where
  /-- How many commands there are. -/
  | size
  /-- Their tokens, in the order of registration. -/
  | tokens
  /-- Their tokens and descriptions, in the order of the tokens. -/
  | listing
  /-- The command that a token is bound to, to read its manual page. -/
  | lookup (token : String)
  /-- The command that a token is bound to, to run it on some arguments. -/
  | invoke (token : String) (args : List String)
  /-- What a line comes to. -/
  | dispatch (line : String)

/-- What an answer to a query is; there is none for a token that is not bound. A command that was
looked up replies to whoever runs it, so nothing settles its reply. -/
abbrev Query.Answer : Query → Type
  | size => Nat
  | tokens => List String
  | listing => List (String × String)
  | lookup _ => Option Manual
  | invoke _ _ => Option Reply
  | dispatch _ => Outcome

/-- The answers to all queries, each with the records that it leaves; none where no answer ever
comes. -/
abbrev Environment := (query : Query) → Option (Logged query.Answer)

/-- What a command does on some arguments. -/
inductive Program where
  /-- Replies. -/
  | done (reply : Reply)
  /-- Writes a record and goes on. -/
  | emit (record : Record) (next : Program)
  /-- Asks, and goes on with the answer. -/
  | ask (query : Query) (next : query.Answer → Program)

namespace Program

/-- What a program comes to in an environment; none if an answer that it waits for never comes. -/
def run (environment : Environment) : Program → Option (Logged Reply)
  | done reply => some (pure reply)
  | emit record next =>
    (next.run environment).map fun rest => Logged.emit record >>= fun _ => rest
  | ask query next =>
    (environment query).bind fun answer =>
      ((next answer.value).run environment).map fun rest => answer >>= fun _ => rest

/-- **More answers never change a reply.** -/
theorem run_mono {small large : Environment}
    (h : ∀ query answer, small query = some answer → large query = some answer)
    (program : Program) {reply : Logged Reply} (hreply : program.run small = some reply) :
    program.run large = some reply := by
  induction program generalizing reply with
  | done _ => exact hreply
  | emit record next ih =>
    rw [run] at hreply
    obtain ⟨rest, hrest, rfl⟩ := Option.map_eq_some_iff.mp hreply
    rw [run, ih hrest, Option.map_some]
  | ask query next ih =>
    rw [run] at hreply
    obtain ⟨answer, hanswer, hnext⟩ := Option.bind_eq_some_iff.mp hreply
    obtain ⟨rest, hrest, rfl⟩ := Option.map_eq_some_iff.mp hnext
    rw [run, h _ _ hanswer, Option.bind_some, ih _ hrest, Option.map_some]

end Program

/-- A manual page and what the command does on the arguments it is given. -/
structure Command extends Manual where
  /-- What the command does. -/
  run : (args : List String) → Program

end CommandConsole
