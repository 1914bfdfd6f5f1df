import CommandConsole.Command

/-!
# The registry

A registry holds commands under pairwise different tokens, in the order of their registration. A
token is bound once and for all: registering it again changes nothing.

* `Registry.register` adds a command unless its token is taken, and records which of the two
  happened.
* `Registry.lookup` finds the command of a token, which has to match exactly.
* `Registry.listing` is the enumeration by token.
* `Registry.reply?` is what a command replies in this registry; it runs the command against
  `Registry.answer`, which runs commands in turn.
* `Registry.dispatch` reads a line, finds its command and runs it; **a command that breaks down
  comes back as an error.**

A command may run commands and dispatch lines without end, so `Registry.reply?` is a least fixed
point: it is none for a command that never comes back. `Registry.dispatch?` says so of a line, and
`Registry.dispatch` has `Registry.unanswered` in its place.
-/

namespace CommandConsole

open Log

/-- Commands under pairwise different tokens, the first registered first. -/
structure Registry where
  /-- The commands. -/
  commands : List Command
  /-- No token is bound twice. -/
  distinct : (commands.map fun command => command.token).Nodup

namespace Registry

/-- A registry without commands. -/
def empty : Registry := ⟨[], List.nodup_nil⟩

/-- The tokens in the order of registration. -/
def tokens (registry : Registry) : List String :=
  registry.commands.map fun command => command.token

/-- How many commands there are. -/
def size (registry : Registry) : Nat :=
  registry.commands.length

/-- Whether there are no commands. -/
def isEmpty (registry : Registry) : Bool :=
  registry.commands.isEmpty

/-- The command that a token is bound to. -/
def lookup (registry : Registry) (token : String) : Option Command :=
  registry.commands.find? fun command => command.token == token

/-- Whether a token is bound. -/
def contains (registry : Registry) (token : String) : Bool :=
  (registry.lookup token).isSome

/-- Tokens and descriptions, in the order of the tokens. -/
def listing (registry : Registry) : List (String × String) :=
  (registry.commands.map fun command => (command.token, command.description)).mergeSort
    fun a b => decide (a.1 ≤ b.1)

theorem nodup_append_token {registry : Registry} {command : Command}
    (h : command.token ∉ registry.tokens) :
    ((registry.commands ++ [command]).map fun command => command.token).Nodup := by
  rw [List.map_append, List.nodup_append]
  refine ⟨registry.distinct, by simp, ?_⟩
  intro a ha b hb e
  simp only [List.map_cons, List.map_nil, List.mem_singleton] at hb
  exact h (by rw [← hb, ← e]; exact ha)

/-- Adds a command at the end, unless its token is bound already; the answer says whether it was
added. -/
def register (registry : Registry) (command : Command) : Logged (Bool × Registry) :=
  if h : command.token ∈ registry.tokens then do
    Logged.emit (.debug ("Command '" ++ command.token ++ "' already registered, keeping the first"))
    return (false, registry)
  else do
    Logged.emit (.info (command.name ++ " command has been added to the console."))
    return (true, ⟨registry.commands ++ [command], nodup_append_token h⟩)

/-- Registers commands one after the other. -/
def registerAll (registry : Registry) (commands : List Command) : Logged Registry :=
  commands.foldlM (fun registry command => Prod.snd <$> registry.register command) registry

/-- What a line runs: the command that its token is bound to, and the invocation that it runs on.
None for a blank line and for an unknown token. -/
def resolve? (registry : Registry) (line : String) : Option (Command × Invocation) :=
  (Invocation.ofLine? line).bind fun call => (registry.lookup call.token).map (·, call)

/-- The record of a dispatch. -/
def dispatchRecord (call : Invocation) : Record :=
  .debug ("Dispatching '" ++ call.token ++ "' with " ++ toString call.args.length ++ " arg(s)")

/-- What is handed back for the reply of a command to an invocation. -/
def report (call : Invocation) (reply : Logged Reply) : Logged Outcome :=
  Logged.emit (dispatchRecord call) >>= fun _ => Reply.settle <$> reply

section Replies

variable (registry : Registry) (replies : Command → List String → Option (Logged Reply))

/-- What a line comes to if these are the replies of the commands. A line that runs nothing is not
recognized, and leaves no record. -/
def dispatchBy (line : String) : Option (Logged Outcome) :=
  match registry.resolve? line with
  | none => some (pure (.error .notRecognized))
  | some (command, call) => (replies command call.args).map (report call)

/-- What a running command is answered if these are the replies of the commands. -/
def answer : Environment
  | .size => some (pure registry.size)
  | .tokens => some (pure registry.tokens)
  | .listing => some (pure registry.listing)
  | .lookup token => some (pure ((registry.lookup token).map Command.toManual))
  | .invoke token args =>
    match registry.lookup token with
    | none => some (pure none)
    | some command => (replies command args).map (some <$> ·)
  | .dispatch line => registry.dispatchBy replies line

end Replies

/-- **An answer is known, or it is made of the reply of one command.** -/
theorem answer_cases (registry : Registry) (query : Query) :
    (∃ answer, ∀ replies, registry.answer replies query = some answer) ∨
      ∃ command args view, ∀ replies,
        registry.answer replies query = (replies command args).map view := by
  cases query with
  | size | tokens | listing | lookup _ => exact .inl ⟨_, fun _ => rfl⟩
  | invoke token args =>
    cases hfound : registry.lookup token with
    | none => exact .inl ⟨_, fun replies => by rw [answer, hfound]⟩
    | some command => exact .inr ⟨command, args, _, fun replies => by rw [answer, hfound]⟩
  | dispatch line =>
    cases hresolves : registry.resolve? line with
    | none => exact .inl ⟨_, fun replies => by rw [answer, dispatchBy, hresolves]⟩
    | some found =>
      exact .inr ⟨found.1, found.2.args, _, fun replies => by rw [answer, dispatchBy, hresolves]⟩

/-- **More replies never change an answer.** -/
theorem answer_mono (registry : Registry)
    {few many : Command → List String → Option (Logged Reply)}
    (h : ∀ command args reply, few command args = some reply → many command args = some reply)
    (query : Query) {answer : Logged query.Answer}
    (hsome : registry.answer few query = some answer) :
    registry.answer many query = some answer := by
  rcases registry.answer_cases query with ⟨known, hknown⟩ | ⟨command, args, view, hview⟩
  · rw [hknown] at hsome ⊢
    exact hsome
  · rw [hview] at hsome ⊢
    obtain ⟨reply, hreply, rfl⟩ := Option.map_eq_some_iff.mp hsome
    exact congrArg (Option.map view) (h command args reply hreply)

/-- What a command replies when it runs on some arguments, where the registry answers whatever it
asks, with the replies of the same commands; none if it never comes back. -/
def reply? (registry : Registry) (command : Command) (args : List String) :
    Option (Logged Reply) :=
  (command.run args).run (registry.answer (registry |>.reply?))
partial_fixpoint monotonicity by
  intro few many hle command args
  -- Below another approximation is one that is none wherever the two differ.
  have hmore : ∀ command args reply,
      few command args = some reply → many command args = some reply := by
    intro command args reply hreply
    have hbelow := hle command args
    generalize few command args = first at hbelow hreply
    generalize many command args = second at hbelow ⊢
    cases hbelow with
    | bot => cases hreply
    | refl => exact hreply
  dsimp only
  have hrun : ∀ reply, (command.run args).run (registry.answer few) = some reply →
      (command.run args).run (registry.answer many) = some reply :=
    fun _ => Program.run_mono (fun query _ => registry.answer_mono hmore query) _
  generalize (command.run args).run (registry.answer few) = first at hrun ⊢
  generalize (command.run args).run (registry.answer many) = second at hrun ⊢
  cases first with
  | none => constructor
  | some reply =>
    rw [hrun reply rfl]
    constructor

/-- Reads a line, finds the command of its token and runs it on the arguments. None if the command
never comes back, as one that dispatches the line itself again. -/
def dispatch? (registry : Registry) (line : String) : Option (Logged Outcome) :=
  registry.dispatchBy registry.reply? line

/-- What stands for the outcome where a command never comes back, so that there is one for every
line. Nothing goes on from such a line, so what follows it in a console stands for nothing. -/
def unanswered : Logged Outcome :=
  pure (.error (.commandPanicked "unknown panic"))

/-- What a line comes to when it is dispatched; `unanswered` if it is dispatched for ever. -/
def dispatch (registry : Registry) (line : String) : Logged Outcome :=
  (registry.dispatch? line).getD unanswered

/-- A command at work on an invocation. -/
def execute (registry : Registry) (command : Command) (call : Invocation) : Logged Outcome :=
  ((registry.reply? command call.args).map (report call)).getD unanswered

/-! ## What each operation comes to -/

@[simp]
theorem tokens_empty : empty.tokens = [] := rfl

/-- Registering a token again changes nothing. -/
theorem value_register_of_mem {registry : Registry} {command : Command}
    (h : command.token ∈ registry.tokens) :
    (registry.register command).value = (false, registry) := by
  simp [register, h]

/-- Registering a new token adds the command at the end. -/
theorem value_register_of_not_mem {registry : Registry} {command : Command}
    (h : command.token ∉ registry.tokens) :
    (registry.register command).value =
      (true, ⟨registry.commands ++ [command], nodup_append_token h⟩) := by
  simp [register, h]

/-- The command found under a token has that token. -/
theorem token_of_lookup {registry : Registry} {token : String} {command : Command}
    (h : registry.lookup token = some command) : command.token = token := by
  simpa using List.find?_some h

/-- A token is bound exactly when a command is found under it. -/
theorem contains_iff_mem_tokens (registry : Registry) (token : String) :
    registry.contains token = true ↔ token ∈ registry.tokens := by
  simp only [contains, lookup, List.find?_isSome, tokens, List.mem_map, beq_iff_eq]

theorem resolve?_eq_some_iff {registry : Registry} {line : String} {command : Command}
    {call : Invocation} :
    registry.resolve? line = some (command, call) ↔
      Invocation.ofLine? line = some call ∧ registry.lookup call.token = some command := by
  unfold resolve?
  simp only [Option.bind_eq_some_iff, Option.map_eq_some_iff, Prod.mk.injEq]
  constructor
  · rintro ⟨found, hcall, other, hfound, rfl, rfl⟩
    exact ⟨hcall, hfound⟩
  · rintro ⟨hcall, hfound⟩
    exact ⟨call, hcall, command, hfound, rfl, rfl⟩

/-- A line that resolves to nothing is not recognized. -/
theorem dispatch?_of_unresolved {registry : Registry} {line : String}
    (h : registry.resolve? line = none) :
    registry.dispatch? line = some (pure (.error .notRecognized)) := by
  rw [dispatch?, dispatchBy, h]

/-- A line that resolves to a command comes to what is reported of its reply. -/
theorem dispatch?_of_resolve? {registry : Registry} {line : String} {command : Command}
    {call : Invocation} (h : registry.resolve? line = some (command, call)) :
    registry.dispatch? line = (registry.reply? command call.args).map (report call) := by
  rw [dispatch?, dispatchBy, h]

/-- **Dispatching is running what the line resolves to.** -/
theorem dispatch_eq (registry : Registry) (line : String) :
    registry.dispatch line =
      match registry.resolve? line with
      | none => pure (.error .notRecognized)
      | some (command, call) => registry.execute command call := by
  cases hresolves : registry.resolve? line with
  | none => rw [dispatch, dispatch?_of_unresolved hresolves, Option.getD_some]
  | some found =>
    obtain ⟨command, call⟩ := found
    rw [dispatch, dispatch?_of_resolve? hresolves]
    rfl

/-- A blank line is not recognized. -/
theorem dispatch_of_blank {registry : Registry} {line : String}
    (h : Invocation.ofLine? line = none) :
    registry.dispatch line = pure (.error .notRecognized) := by
  rw [dispatch_eq, resolve?, h, Option.bind_none]

/-- A token without a command is not recognized. -/
theorem dispatch_of_unknown {registry : Registry} {line : String} {call : Invocation}
    (hcall : Invocation.ofLine? line = some call) (hnone : registry.lookup call.token = none) :
    registry.dispatch line = pure (.error .notRecognized) := by
  rw [dispatch_eq, resolve?, hcall, Option.bind_some, hnone, Option.map_none]

/-- A command that is found runs on the arguments of the line. -/
theorem dispatch_of_command {registry : Registry} {line : String} {call : Invocation}
    {command : Command} (hcall : Invocation.ofLine? line = some call)
    (hfound : registry.lookup call.token = some command) :
    registry.dispatch line = registry.execute command call := by
  rw [dispatch_eq, resolve?_eq_some_iff.mpr ⟨hcall, hfound⟩]

end Registry

end CommandConsole
