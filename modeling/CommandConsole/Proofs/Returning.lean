import CommandConsole.Command.Builtin

/-!
# Commands that come back

A command may run commands and dispatch lines while it runs, and these may do so again. What it
replies, `Registry.reply?`, knows of no limit to that. `replyWithin` does: it gives up on whatever
runs inside so many other commands. The limit does not show in what comes back: a reply within some
depth is the reply, and a command that comes back does so within some depth, because a program asks
finitely often before it replies. So whatever two registries have in common at every depth, they
have in common.

Results:
* `Program.run_congr`, `Program.value_run_congr`, `Program.isSome_run`: what a program comes to
  depends on nothing but the answers that it may ask for.
* `Program.exists_run`: a reply takes no more than one environment of an ascending series.
* `Registry.dispatch?_eq_none_iff`, `Registry.dispatch?_of_reply?`: what becomes of a reply.
* `Registry.reply?_eq_some_iff`, `Registry.dispatch?_eq_some_iff`: **a command comes back exactly if
  it does within some depth.**
* `Registry.map_reply?_congr`: from every depth to no limit.
* `Registry.reply?_of_endless`: a command that never comes back.
* `Builtin.reply?_quit`, `Builtin.reply?_help`: the built-in commands come back.
-/

namespace CommandConsole

open Log

/-! ## What a program may ask -/

namespace Program

variable {allowed : Query → Prop} {a b : Environment} {program : Program}

/-- The program asks for nothing but what is allowed, whatever it is answered. -/
def Asks (allowed : Query → Prop) : Program → Prop
  | done _ => True
  | emit _ next => next.Asks allowed
  | ask query next => allowed query ∧ ∀ answer, (next answer).Asks allowed

/-- The same answers give the same reply. -/
theorem run_congr (h : program.Asks allowed) (hsame : ∀ query, allowed query → a query = b query) :
    program.run a = program.run b := by
  induction program with
  | done _ => rfl
  | emit record next ih => rw [run, run, ih h]
  | ask query next ih =>
    rw [run, run, hsame query h.1]
    exact congrArg (Option.bind _) (funext fun answer => by rw [ih _ (h.2 _)])

theorem map_value_run_emit (environment : Environment) (record : Record) (next : Program) :
    ((emit record next).run environment).map Logged.value =
      (next.run environment).map Logged.value := by
  rw [run, Option.map_map]
  rfl

/-- How a program goes on depends on the value of an answer. -/
theorem map_value_run_ask (environment : Environment) (query : Query)
    (next : query.Answer → Program) :
    ((ask query next).run environment).map Logged.value =
      ((environment query).map Logged.value).bind fun answer =>
        ((next answer).run environment).map Logged.value := by
  rw [run, Option.map_bind, Option.bind_map]
  refine congrArg (Option.bind _) (funext fun answer => ?_)
  rw [Function.comp_apply, Option.map_map]
  rfl

/-- The same answers but for their records give the same reply but for its records. -/
theorem value_run_congr (h : program.Asks allowed)
    (hsame : ∀ query, allowed query →
      (a query).map Logged.value = (b query).map Logged.value) :
    (program.run a).map Logged.value = (program.run b).map Logged.value := by
  induction program with
  | done _ => rfl
  | emit record next ih => rw [map_value_run_emit, map_value_run_emit, ih h]
  | ask query next ih =>
    rw [map_value_run_ask, map_value_run_ask, hsame query h.1]
    exact congrArg (Option.bind _) (funext fun answer => ih _ (h.2 answer))

/-- A program that is answered comes back. -/
theorem isSome_run (h : program.Asks allowed)
    (hanswers : ∀ query, allowed query → (a query).isSome = true) :
    (program.run a).isSome = true := by
  induction program with
  | done _ => rfl
  | emit record next ih => rw [run, Option.isSome_map, ih h]
  | ask query next ih =>
    obtain ⟨answer, hanswer⟩ := Option.isSome_iff_exists.mp (hanswers query h.1)
    rw [run, hanswer, Option.bind_some, Option.isSome_map, ih _ (h.2 _)]

/-- **A reply takes no more than one environment of an ascending series:** a program asks finitely
often before it replies. -/
theorem exists_run {limit : Environment} {series : Nat → Environment}
    (hseries : ∀ {n m}, n ≤ m → ∀ query answer, series n query = some answer →
      series m query = some answer)
    (hlimit : ∀ query answer, limit query = some answer → ∃ n, series n query = some answer)
    (program : Program) {reply : Logged Reply} (h : program.run limit = some reply) :
    ∃ n, program.run (series n) = some reply := by
  induction program generalizing reply with
  | done _ => exact ⟨0, h⟩
  | emit record next ih =>
    rw [run] at h
    obtain ⟨rest, hrest, rfl⟩ := Option.map_eq_some_iff.mp h
    obtain ⟨n, hn⟩ := ih hrest
    exact ⟨n, by rw [run, hn, Option.map_some]⟩
  | ask query next ih =>
    rw [run] at h
    obtain ⟨answer, hanswer, hnext⟩ := Option.bind_eq_some_iff.mp h
    obtain ⟨rest, hrest, rfl⟩ := Option.map_eq_some_iff.mp hnext
    obtain ⟨n, hn⟩ := hlimit query answer hanswer
    obtain ⟨m, hm⟩ := ih _ hrest
    -- The later of the two answers the query and all that follows.
    refine ⟨max n m, ?_⟩
    rw [run, hseries (Nat.le_max_left n m) _ _ hn, Option.bind_some,
      run_mono (hseries (Nat.le_max_right n m)) _ hm, Option.map_some]

end Program

namespace Registry

variable {registry : Registry} {command : Command} {args : List String} {call : Invocation}
  {line : String} {depth : Nat}

/-! ## One dispatch -/

/-- A command that asks for nothing comes back. -/
theorem reply?_of_done {reply : Reply} (h : command.run args = .done reply) :
    registry.reply? command args = some (pure reply) := by
  rw [reply?, h, Program.run]

/-- A line that resolves to nothing is not recognized. -/
theorem dispatch_of_unresolved (h : registry.resolve? line = none) :
    registry.dispatch line = pure (.error .notRecognized) := by
  rw [dispatch_eq, h]

/-- A command that comes back is reported. -/
theorem execute_of_reply? {reply : Logged Reply}
    (h : registry.reply? command call.args = some reply) :
    registry.execute command call = report call reply := by
  rw [execute, h, Option.map_some, Option.getD_some]

/-- A line is dispatched for ever exactly if its command never comes back. -/
theorem dispatch?_eq_none_iff (h : registry.resolve? line = some (command, call)) :
    registry.dispatch? line = none ↔ registry.reply? command call.args = none := by
  rw [dispatch?_of_resolve? h, Option.map_eq_none_iff]

/-- What a line comes to if its command comes back. -/
theorem dispatch?_of_reply? (h : registry.resolve? line = some (command, call))
    {reply : Logged Reply} (hreply : registry.reply? command call.args = some reply) :
    registry.dispatch? line = some (report call reply) := by
  rw [dispatch?_of_resolve? h, hreply, Option.map_some]

/-- What is known to come of a line is what comes of it. -/
theorem dispatch_of_dispatch? {outcome : Logged Outcome}
    (h : registry.dispatch? line = some outcome) : registry.dispatch line = outcome := by
  rw [dispatch, h, Option.getD_some]

/-- **The record of a dispatch comes first**, and then those of the command. -/
theorem records_report (call : Invocation) (reply : Logged Reply) :
    (report call reply).records = dispatchRecord call :: reply.records := by
  rw [report, Logged.records_bind, Logged.records_map]
  rfl

theorem mem_of_lookup {token : String} (h : registry.lookup token = some command) :
    command ∈ registry.commands :=
  List.mem_of_find?_eq_some h

theorem mem_of_resolve? (h : registry.resolve? line = some (command, call)) :
    command ∈ registry.commands :=
  mem_of_lookup (resolve?_eq_some_iff.mp h).2

/-- What a line comes to, but for the records. -/
theorem map_value_dispatchBy (registry : Registry)
    (replies : Command → List String → Option (Logged Reply)) (line : String) :
    (registry.dispatchBy replies line).map Logged.value =
      match registry.resolve? line with
      | none => some (.error .notRecognized)
      | some (command, call) =>
        ((replies command call.args).map Logged.value).map Reply.settle := by
  unfold dispatchBy
  cases registry.resolve? line with
  | none => rfl
  | some found =>
    simp only [Option.map_map]
    rfl

/-- Lines that come to the same but for their records, or are both dispatched for ever, have one
outcome. -/
theorem value_dispatch_congr {other : Registry} {line' : String}
    (h : (registry.dispatch? line).map Logged.value = (other.dispatch? line').map Logged.value) :
    (registry.dispatch line).value = (other.dispatch line').value := by
  unfold dispatch
  rw [← Option.getD_map Logged.value, ← Option.getD_map Logged.value, h]

/-! ## Limited depth -/

/-- What a command replies if nothing comes back that runs inside `depth` other commands. -/
def replyWithin (registry : Registry) : Nat → Command → List String → Option (Logged Reply)
  | 0, _, _ => none
  | depth + 1, command, args =>
    (command.run args).run (registry.answer (replyWithin registry depth))

/-- What a line comes to if nothing comes back that runs inside `depth` other commands. -/
def dispatchWithin (registry : Registry) (depth : Nat) (line : String) : Option (Logged Outcome) :=
  registry.dispatchBy (registry.replyWithin depth) line

theorem replyWithin_succ {reply : Logged Reply}
    (h : registry.replyWithin depth command args = some reply) :
    registry.replyWithin (depth + 1) command args = some reply := by
  induction depth generalizing command args reply with
  | zero => cases h
  | succ depth ih =>
    rw [replyWithin] at h ⊢
    exact Program.run_mono (fun query _ => registry.answer_mono (fun _ _ _ => ih) query) _ h

/-- **A reply within some depth is the reply within any larger one.** -/
theorem replyWithin_le {deeper : Nat} (hle : depth ≤ deeper) {reply : Logged Reply}
    (h : registry.replyWithin depth command args = some reply) :
    registry.replyWithin deeper command args = some reply := by
  induction hle with
  | refl => exact h
  | step _ ih => exact replyWithin_succ ih

/-- **A reply within some depth is the reply.** -/
theorem reply?_of_replyWithin {reply : Logged Reply}
    (h : registry.replyWithin depth command args = some reply) :
    registry.reply? command args = some reply := by
  induction depth generalizing command args reply with
  | zero => cases h
  | succ depth ih =>
    rw [reply?]
    rw [replyWithin] at h
    exact Program.run_mono (fun query _ => registry.answer_mono (fun _ _ _ => ih) query) _ h

/-- Replies that each come within some depth give an answer within some depth. -/
theorem exists_answer {replies : Command → List String → Option (Logged Reply)}
    (h : ∀ command args reply, replies command args = some reply →
      ∃ depth, registry.replyWithin depth command args = some reply)
    (query : Query) {answer : Logged query.Answer}
    (hsome : registry.answer replies query = some answer) :
    ∃ depth, registry.answer (registry.replyWithin depth) query = some answer := by
  rcases registry.answer_cases query with ⟨known, hknown⟩ | ⟨command, args, view, hview⟩
  · rw [hknown] at hsome
    exact ⟨0, by rw [hknown, hsome]⟩
  · rw [hview] at hsome
    obtain ⟨reply, hreply, rfl⟩ := Option.map_eq_some_iff.mp hsome
    obtain ⟨depth, hdepth⟩ := h command args reply hreply
    exact ⟨depth, by rw [hview, hdepth, Option.map_some]⟩

/-- **A command that comes back does so within some depth.** -/
theorem reply?_eq_some_iff {reply : Logged Reply} :
    registry.reply? command args = some reply ↔
      ∃ depth, registry.replyWithin depth command args = some reply := by
  constructor
  · refine reply?.partial_correctness registry
      (fun command args reply => ∃ depth, registry.replyWithin depth command args = some reply)
      ?_ command args reply
    intro replies ih command args reply hreply
    let series := fun depth => registry.answer (registry.replyWithin depth)
    have hseries : ∀ {n m}, n ≤ m → ∀ query answer, series n query = some answer →
        series m query = some answer :=
      fun hle query _ => registry.answer_mono (fun _ _ _ => replyWithin_le hle) query
    obtain ⟨depth, hdepth⟩ :=
      Program.exists_run hseries (fun query _ => exists_answer ih query) _ hreply
    exact ⟨depth + 1, hdepth⟩
  · exact fun ⟨_, h⟩ => reply?_of_replyWithin h

/-- **A line that comes to something does so within some depth.** -/
theorem dispatch?_eq_some_iff {outcome : Logged Outcome} :
    registry.dispatch? line = some outcome ↔
      ∃ depth, registry.dispatchWithin depth line = some outcome := by
  -- A line comes to what a command that dispatches it is answered.
  constructor
  · exact exists_answer (fun _ _ _ => reply?_eq_some_iff.mp) (.dispatch line)
  · exact fun ⟨_, h⟩ =>
      registry.answer_mono (fun _ _ _ => reply?_of_replyWithin) (.dispatch line) h

theorem map_reply?_eq_some_iff {α : Type} (view : Logged Reply → α) {seen : α} :
    (registry.reply? command args).map view = some seen ↔
      ∃ depth, (registry.replyWithin depth command args).map view = some seen := by
  simp only [Option.map_eq_some_iff, reply?_eq_some_iff]
  constructor
  · rintro ⟨reply, ⟨depth, hreply⟩, hseen⟩
    exact ⟨depth, reply, hreply, hseen⟩
  · rintro ⟨depth, reply, hreply, hseen⟩
    exact ⟨reply, ⟨depth, hreply⟩, hseen⟩

/-- **What replies have in common within every depth, they have in common.** -/
theorem map_reply?_congr {α : Type} (view : Logged Reply → α) {other : Registry}
    {command' : Command} {args' : List String}
    (h : ∀ depth, (registry.replyWithin depth command args).map view =
      (other.replyWithin depth command' args').map view) :
    (registry.reply? command args).map view = (other.reply? command' args').map view := by
  refine Option.ext fun seen => ?_
  rw [map_reply?_eq_some_iff, map_reply?_eq_some_iff]
  exact exists_congr fun depth => by rw [h depth]

/-- A command that first of all dispatches its own line comes back within no depth. -/
theorem replyWithin_of_endless {next : Outcome → Program}
    (h : registry.resolve? line = some (command, call))
    (hrun : command.run call.args = .ask (.dispatch line) next) (depth : Nat) :
    registry.replyWithin depth command call.args = none := by
  induction depth with
  | zero => rfl
  | succ depth ih =>
    have hanswer : registry.answer (registry.replyWithin depth) (.dispatch line) = none := by
      rw [answer, dispatchBy, h]
      exact Option.map_eq_none_iff.mpr ih
    rw [replyWithin, hrun, Program.run, hanswer, Option.bind_none]

/-- **A command that first of all dispatches its own line never comes back.** -/
theorem reply?_of_endless {next : Outcome → Program}
    (h : registry.resolve? line = some (command, call))
    (hrun : command.run call.args = .ask (.dispatch line) next) :
    registry.reply? command call.args = none := by
  refine Option.eq_none_iff_forall_ne_some.mpr fun reply hreply => ?_
  obtain ⟨depth, hdepth⟩ := reply?_eq_some_iff.mp hreply
  rw [replyWithin_of_endless h hrun] at hdepth
  cases hdepth

end Registry

/-! ## The built-in commands -/

namespace Builtin

/-- `quit` comes back whatever its arguments are, and leaves no record. -/
theorem reply?_quit (registry : Registry) (args : List String) :
    registry.reply? quit args = some (pure (.finished
      (if args.isEmpty then .ok .quit else .error .parametersAmount))) :=
  Registry.reply?_of_done rfl

/-- `help` comes back whatever its arguments are, and leaves no record. -/
theorem reply?_help (registry : Registry) (args : List String) :
    registry.reply? help args = some (pure (match args with
      | [] => helpAll registry.listing
      | [token] => helpOne ((registry.lookup token).map Command.toManual)
      | _ => .finished (.error .parametersAmount))) := by
  rw [Registry.reply?]
  match args with
  | [] | [_] | _ :: _ :: _ => rfl

end Builtin

end CommandConsole
