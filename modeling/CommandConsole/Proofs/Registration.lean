import CommandConsole.Command.Scripted
import CommandConsole.Completion
import CommandConsole.Proofs.Indexed

/-!
# What registrations bind

A token is bound by the first command that is registered under it, once and for all. `Binds` says
what a registry holds after a series of registrations; one more registration keeps it, and so does
every series of them.

A registry that grows keeps its commands in front, so whatever it answered it answers still:
`Extends` collects what that means for look-up, for dispatch and for completion.

Results:
* `Binds.register`, `Binds.registerAll`: the first command for each token, in order.
* `Binds.records_registerAll`: one record for each registration.
* `prefix_registerAll`, `extends_of_prefix`: growing changes no answer.
* `registration_binds_first`: **all of it, for every series of registrations.**
-/

namespace CommandConsole.Registry

open Log

/-! ## A series of registrations -/

/-- The record of a registration that comes after others. -/
def registrationRecord (earlier : List Command) (command : Command) : Record :=
  if command.token ∈ earlier.map fun command => command.token then
    .debug ("Command '" ++ command.token ++ "' already registered, keeping the first")
  else .info (command.name ++ " command has been added to the console.")

/-- What a registry binds after a series of registrations: to each token that came up the first
command with it, in the order in which they came up. -/
structure Binds (registry : Registry) (calls : List Command) : Prop where
  tokens : registry.tokens = (calls.map fun command => command.token).eraseDups
  lookup : ∀ token, registry.lookup token = calls.find? fun command => command.token == token

theorem binds_empty : empty.Binds [] :=
  ⟨rfl, fun _ => rfl⟩

variable {registry : Registry} {calls : List Command} {command : Command}

theorem Binds.mem_tokens_iff (h : registry.Binds calls) {token : String} :
    token ∈ registry.tokens ↔ token ∈ calls.map fun command => command.token := by
  rw [h.tokens, List.mem_eraseDups]

/-- A registration is accepted exactly if its token is new. -/
theorem Binds.accepts_iff (h : registry.Binds calls) (command : Command) :
    (registry.register command).value.1 = true ↔
      command.token ∉ calls.map fun command => command.token := by
  rw [← h.mem_tokens_iff]
  by_cases hmem : command.token ∈ registry.tokens
  · rw [value_register_of_mem hmem]
    exact iff_of_false Bool.false_ne_true (not_not_intro hmem)
  · rw [value_register_of_not_mem hmem]
    exact iff_of_true rfl hmem

theorem Binds.records_register (h : registry.Binds calls) (command : Command) :
    (registry.register command).records = [registrationRecord calls command] := by
  unfold register registrationRecord
  by_cases hmem : command.token ∈ registry.tokens
  · rw [dif_pos hmem, if_pos (h.mem_tokens_iff.mp hmem)]
    rfl
  · rw [dif_neg hmem, if_neg (mt h.mem_tokens_iff.mpr hmem)]
    rfl

theorem eraseDups_concat (tokens : List String) (token : String) :
    (tokens ++ [token]).eraseDups =
      if token ∈ tokens then tokens.eraseDups else tokens.eraseDups ++ [token] := by
  rw [List.eraseDups_append, List.cons_removeAll]
  by_cases hmem : token ∈ tokens
  · rw [if_neg (by simp [hmem]), if_pos hmem]
    exact List.append_nil _
  · rw [if_pos (by simp [hmem]), if_neg hmem]
    rfl

/-- **One registration more.** -/
theorem Binds.register (h : registry.Binds calls) (command : Command) :
    (registry.register command).value.2.Binds (calls ++ [command]) := by
  by_cases hmem : command.token ∈ registry.tokens
  · have hcalled := h.mem_tokens_iff.mp hmem
    rw [value_register_of_mem hmem]
    constructor
    · rw [List.map_append, List.map_singleton, eraseDups_concat, if_pos hcalled, h.tokens]
    · intro token
      rw [List.find?_append, ← h.lookup]
      by_cases htoken : command.token = token
      · obtain ⟨first, hfirst⟩ := Option.isSome_iff_exists.mp
          ((contains_iff_mem_tokens registry token).mpr (htoken ▸ hmem))
        rw [hfirst, Option.some_or]
      · have hother : [command].find? (fun command => command.token == token) = none :=
          List.find?_cons_of_neg (mt beq_iff_eq.mp htoken)
        rw [hother, Option.or_none]
  · have hnew := mt h.mem_tokens_iff.mpr hmem
    rw [value_register_of_not_mem hmem]
    constructor
    · rw [List.map_append, List.map_singleton, eraseDups_concat, if_neg hnew, ← h.tokens]
      exact List.map_append
    · intro token
      rw [List.find?_append, ← h.lookup]
      exact List.find?_append

theorem Binds.registerAll (h : registry.Binds calls) (commands : List Command) :
    (registry.registerAll commands).value.Binds (calls ++ commands) := by
  induction commands generalizing registry calls with
  | nil =>
    rw [List.append_nil]
    exact h
  | cons command commands ih =>
    have hrest := ih (h.register command)
    rw [List.append_assoc] at hrest
    rw [registerAll_cons]
    exact hrest

/-- **Each registration leaves one record**, which says whether it was accepted. -/
theorem Binds.records_registerAll (h : registry.Binds calls) (commands : List Command) :
    (registry.registerAll commands).records =
      commands.mapIdx fun i command => registrationRecord (calls ++ commands.take i) command := by
  induction commands generalizing registry calls with
  | nil => rfl
  | cons command commands ih =>
    rw [registerAll_cons, Logged.records_bind, h.records_register, ih (h.register command),
      List.mapIdx_cons]
    simp only [List.take_zero, List.append_nil, List.take_succ_cons, List.append_assoc,
      List.singleton_append]

/-! ## Growing -/

theorem prefix_register (registry : Registry) (command : Command) :
    registry.commands <+: (registry.register command).value.2.commands := by
  by_cases hmem : command.token ∈ registry.tokens
  · exact ⟨[], by rw [value_register_of_mem hmem, List.append_nil]⟩
  · exact ⟨[command], by rw [value_register_of_not_mem hmem]⟩

theorem prefix_registerAll (registry : Registry) (commands : List Command) :
    registry.commands <+: (registry.registerAll commands).value.commands := by
  induction commands generalizing registry with
  | nil => exact List.prefix_refl _
  | cons command commands ih =>
    rw [registerAll_cons]
    exact (registry.prefix_register command).trans (ih _)

/-- **A registry that grew:** whatever the smaller one answered, the larger one answers. -/
structure Extends (small large : Registry) : Prop where
  tokens : small.tokens <+: large.tokens
  lookup : ∀ token command, small.lookup token = some command → large.lookup token = some command
  /-- A line resolves to the same command and the same arguments. -/
  resolve : ∀ line command call, small.resolve? line = some (command, call) →
    large.resolve? line = some (command, call)
  /-- The same command runs on the same arguments. -/
  dispatch : ∀ line call command, Invocation.ofLine? line = some call →
    small.lookup call.token = some command →
      small.dispatch line = small.execute command call ∧
        large.dispatch line = large.execute command call
  suggest : ∀ minChars typed token,
    Completion.suggest minChars small.tokens typed = some token →
      Completion.suggest minChars large.tokens typed = some token

theorem extends_of_prefix {small large : Registry} (h : small.commands <+: large.commands) :
    small.Extends large := by
  have htokens : small.tokens <+: large.tokens := h.map _
  have hlookup : ∀ token command, small.lookup token = some command →
      large.lookup token = some command := fun _ _ hfound => h.find?_eq_some hfound
  constructor
  · exact htokens
  · exact hlookup
  · intro line command call hresolves
    obtain ⟨hcall, hfound⟩ := resolve?_eq_some_iff.mp hresolves
    exact resolve?_eq_some_iff.mpr ⟨hcall, hlookup _ _ hfound⟩
  · intro line call command hcall hfound
    exact ⟨dispatch_of_command hcall hfound, dispatch_of_command hcall (hlookup _ _ hfound)⟩
  · intro minChars typed token
    unfold Completion.suggest
    split
    · exact htokens.find?_eq_some
    · exact id

/-! ## From nothing -/

/-- **The first command that is registered under a token is bound to it, once and for all.** A
registration is accepted exactly if its token is new; it leaves one record; the tokens come in the
order in which they came up, and the index never points out of range. Growing changes no answer. -/
theorem registration_binds_first (commands : List Command) :
    let registered := Registry.empty.registerAll commands
    let indexed := Indexed.empty.registerAll commands
    (∀ command, (registered.value.register command).value.1 = true ↔
      command.token ∉ commands.map fun command => command.token) ∧
    registered.value.tokens = (commands.map fun command => command.token).eraseDups ∧
    registered.value.size = registered.value.tokens.length ∧
    (∀ token, registered.value.contains token = true ↔ token ∈ registered.value.tokens) ∧
    (∀ token, registered.value.lookup token =
      commands.find? fun command => command.token == token) ∧
    registered.records =
      commands.mapIdx (fun i command => registrationRecord (commands.take i) command) ∧
    indexed.records = registered.records ∧
    (∀ command, (indexed.value.register command).value.1 =
      (registered.value.register command).value.1) ∧
    (∀ token, indexed.value.contains token = registered.value.contains token ∧
      indexed.value.lookup? token = some (registered.value.lookup token)) ∧
    ∀ (registry : Registry) (further : List Command),
      registry.Extends (registry.registerAll further).value := by
  intro registered indexed
  have hbinds : registered.value.Binds commands := binds_empty.registerAll commands
  obtain ⟨hrecords, hindexed⟩ := Indexed.represents_empty.registerAll commands
  refine ⟨hbinds.accepts_iff, hbinds.tokens, (List.length_map _).symm, contains_iff_mem_tokens _,
    hbinds.lookup, binds_empty.records_registerAll commands, hrecords, ?_, ?_, ?_⟩
  · intro command
    exact (hindexed.register command).1
  · intro token
    exact ⟨hindexed.contains_eq token, hindexed.lookup?_eq token⟩
  · intro registry further
    exact extends_of_prefix (registry.prefix_registerAll further)

/-- Of two commands under one token the first is bound, and it stays when others come. -/
theorem registration_binds_first_taken :
    let greet := Scripted.command ⟨"Greet", "x", "", ""⟩ (.say "hi")
    let other := Scripted.command ⟨"Other", "x", "", ""⟩ (.panic "boom")
    let longer := Scripted.command ⟨"Longer", "xy", "", ""⟩ .silent
    let registered := empty.registerAll [greet, other]
    let grown := (registered.value.registerAll [other, longer]).value
    (registered.value.register other).value.1 ≠ true ∧
      (registered.value.register longer).value.1 = true ∧
      registered.value.lookup "x" = some greet ∧ grown.lookup "x" = some greet ∧
      grown.dispatch "x y" = grown.execute greet ⟨"x", ["y"]⟩ ∧
      Completion.suggest 1 registered.value.tokens "XY" = some "x" ∧
      Completion.suggest 1 grown.tokens "XY" = some "x" := by
  intro greet other longer registered grown
  obtain ⟨haccepts, -, -, -, hlookup, -, -, -, -, hextends⟩ :=
    registration_binds_first [greet, other]
  have hgrown := hextends registered.value [other, longer]
  have hfound : registered.value.lookup "x" = some greet := hlookup "x"
  have hcall : Invocation.ofLine? "x y" = some ⟨"x", ["y"]⟩ := by decide
  have hsuggest : Completion.suggest 1 registered.value.tokens "XY" = some "x" := by decide
  exact ⟨mt (haccepts other).mp (by decide), (haccepts longer).mpr (by decide), hfound,
    hgrown.lookup _ _ hfound, (hgrown.dispatch _ _ _ hcall hfound).2, hsuggest,
    hgrown.suggest _ _ _ hsuggest⟩

end CommandConsole.Registry
