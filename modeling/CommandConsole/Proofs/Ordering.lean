import CommandConsole.Command.Builtin
import CommandConsole.Command.Scripted
import CommandConsole.Proofs.Encoding
import CommandConsole.Proofs.Relaying

/-!
# The order of registration

The commands of an application may be registered in any order. As long as their tokens differ, all
of them are accepted, and the order shows in the enumeration of the tokens alone: a token is bound
to the same command, there are as many commands, and the listing is sorted by tokens, which leaves
one list if no token comes up twice. It makes no difference whether tokens are compared as
characters or as bytes.

So a command cannot tell the two registries apart unless it asks for that enumeration. As it may
run commands and dispatch lines itself, and any of them may do so again, this goes through whatever
runs inside it: `value_replyWithin_of_perm` is by induction on the depth.

Results:
* `Registry.commands_registerAll`: commands under different tokens are all accepted.
* `Registry.perm_listing`, `Registry.ascending_listing`, `Registry.eq_listing`: **the listing has
  one row for each command, and no other list of these rows is sorted.**
* `Registry.agree_answer`: what running commands are answered.
* `Registry.dispatch?_value_of_perm`: **every line comes to the same.**
* `Registry.order_shows_in_tokens_only`: all of it.
-/

namespace CommandConsole

open Log

/-- What the listing shows of a command. -/
def Command.row (command : Command) : String × String :=
  (command.token, command.description)

/-- The environments give the same answers, but for the order of the tokens and for the records. -/
structure Environment.AgreeButForOrder (a b : Environment) : Prop where
  tokens : ∃ enumerated enumerated', a .tokens = some (pure enumerated) ∧
    b .tokens = some (pure enumerated') ∧ enumerated.Perm enumerated'
  others : ∀ query, query ≠ .tokens → (a query).map Logged.value = (b query).map Logged.value

/-- The reply of the command depends on its arguments, on how many commands there are, on their
listing, on what it looks up, on what a command that it looks up replies to it and on what lines
come to, but not on the order of registration. -/
def Command.OrderBlind (command : Command) : Prop :=
  ∀ args (a b : Environment), a.AgreeButForOrder b →
    ((command.run args).run a).map Logged.value = ((command.run args).run b).map Logged.value

/-! ## Commands that do not ask for the order -/

/-- **A command that does not enumerate the tokens does not depend on their order**, whatever else
it asks. -/
theorem Command.orderBlind_of_asks {command : Command}
    (h : ∀ args, (command.run args).Asks (· ≠ .tokens)) : command.OrderBlind :=
  fun args _ _ hagree => Program.value_run_congr (h args) hagree.others

/-- `help` reads the listing and the manual pages, and nothing else. -/
theorem Builtin.orderBlind_help : help.OrderBlind := by
  refine Command.orderBlind_of_asks fun args => ?_
  match args with
  | [] | [_] => exact ⟨nofun, fun _ => trivial⟩
  | _ :: _ :: _ => trivial

/-- Of the scripted commands, one shows the order. -/
theorem Scripted.orderBlind_command (manual : Manual) {behaviour : Behaviour}
    (hne : behaviour ≠ .tokens) : (command manual behaviour).OrderBlind := by
  refine Command.orderBlind_of_asks fun args => ?_
  cases behaviour with
  | tokens => exact absurd rfl hne
  | count | redispatch => exact ⟨nofun, fun _ => trivial⟩
  | _ => trivial

namespace Registry

variable {registry a b : Registry} {commands : List Command} {command : Command} {token : String}
  {rows : List (String × String)}

/-! ## Different tokens -/

/-- **Commands under different tokens are all accepted**, in the order in which they come. -/
theorem commands_registerAll
    (h : (registry.tokens ++ commands.map fun command => command.token).Nodup) :
    (registry.registerAll commands).value.commands = registry.commands ++ commands := by
  induction commands generalizing registry with
  | nil => exact (List.append_nil _).symm
  | cons command commands ih =>
    have hnew : command.token ∉ registry.tokens := fun hmem =>
      (List.nodup_append.mp h).2.2 _ hmem _ (List.mem_cons_self ..) rfl
    have hgrown : (registry.register command).value.2.commands = registry.commands ++ [command] :=
      congrArg (fun answer => answer.2.commands) (value_register_of_not_mem hnew)
    have hrest : ((registry.register command).value.2.tokens ++
        commands.map fun command => command.token).Nodup := by
      rw [tokens, hgrown, List.map_append, List.append_assoc]
      exact h
    rw [registerAll_cons, Logged.value_bind, ih hrest, hgrown, List.append_assoc]
    rfl

theorem lookup_eq_some_iff :
    registry.lookup token = some command ↔ command ∈ registry.commands ∧ command.token = token := by
  constructor
  · exact fun h => ⟨mem_of_lookup h, token_of_lookup h⟩
  · rintro ⟨hmem, rfl⟩
    exact lookup_of_mem hmem

/-! ## The listing -/

/-- The listing has one row for each command. -/
theorem perm_listing (registry : Registry) :
    registry.listing.Perm (registry.commands.map Command.row) :=
  List.mergeSort_perm _ _

/-- The tokens of the listing are the tokens of the registry. -/
theorem perm_tokens (registry : Registry) :
    (registry.listing.map Prod.fst).Perm registry.tokens := by
  have hrows := registry.perm_listing.map Prod.fst
  rw [List.map_map] at hrows
  exact hrows

/-- Rows that are sorted by tokens are ascending if no token comes up twice. -/
theorem ascending_of_nodup (hdistinct : (rows.map Prod.fst).Nodup)
    (hsorted : rows.Pairwise fun row next => row.1 ≤ next.1) :
    rows.Pairwise fun row next => row.1 < next.1 := by
  refine hsorted.imp₂ (fun row next hle hne => ?_) (List.pairwise_map.mp hdistinct)
  exact lt_of_le_of_ne hle hne

/-- **The listing is ascending.** -/
theorem ascending_listing (registry : Registry) :
    registry.listing.Pairwise fun row next => row.1 < next.1 := by
  refine ascending_of_nodup (registry.perm_tokens.nodup_iff.mpr registry.distinct) ?_
  refine (List.pairwise_mergeSort ?_ ?_ _).imp of_decide_eq_true
  · intro row next other hle hle'
    exact decide_eq_true (le_trans (of_decide_eq_true hle) (of_decide_eq_true hle'))
  · intro row next
    rw [Bool.or_eq_true, decide_eq_true_iff, decide_eq_true_iff]
    exact le_total row.1 next.1

/-- **No other list of the same rows is sorted**, be it by characters or, what comes to the same, by
bytes. -/
theorem eq_listing (hperm : rows.Perm (registry.commands.map Command.row))
    (hsorted : rows.Pairwise fun row next => Text.bytes row.1 ≤ Text.bytes next.1) :
    rows = registry.listing := by
  have hlisted : rows.Perm registry.listing := hperm.trans registry.perm_listing.symm
  have hdistinct : (rows.map Prod.fst).Nodup :=
    ((hlisted.map Prod.fst).trans registry.perm_tokens).nodup_iff.mpr registry.distinct
  have hascending : rows.Pairwise fun row next => row.1 < next.1 :=
    ascending_of_nodup hdistinct (hsorted.imp Text.bytes_le_bytes_iff.mp)
  exact List.Perm.eq_of_pairwise (fun row next _ _ hlt hgt => absurd hlt (lt_asymm hgt)) hascending
    registry.ascending_listing hlisted

/-! ## Two orders -/

theorem lookup_of_perm (h : a.commands.Perm b.commands) : a.lookup = b.lookup := by
  funext token
  refine Option.ext fun command => ?_
  rw [lookup_eq_some_iff, lookup_eq_some_iff, h.mem_iff]

theorem resolve?_of_perm (h : a.commands.Perm b.commands) (line : String) :
    a.resolve? line = b.resolve? line := by
  unfold resolve?
  rw [lookup_of_perm h]

theorem listing_of_perm (h : a.commands.Perm b.commands) : a.listing = b.listing := by
  refine eq_listing (a.perm_listing.trans (h.map _)) (a.ascending_listing.imp fun hlt => ?_)
  exact Text.bytes_le_bytes_iff.mpr (le_of_lt hlt)

section Replies

variable {replies replies' : Command → List String → Option (Logged Reply)}
  (hsame : ∀ command ∈ a.commands, ∀ args,
    (replies command args).map Logged.value = (replies' command args).map Logged.value)

include hsame

/-- Lines come to the same if commands reply the same. -/
theorem dispatchBy_value_of_perm (h : a.commands.Perm b.commands) (line : String) :
    (a.dispatchBy replies line).map Logged.value =
      (b.dispatchBy replies' line).map Logged.value := by
  rw [map_value_dispatchBy, map_value_dispatchBy, ← resolve?_of_perm h]
  cases hresolves : a.resolve? line with
  | none => rfl
  | some found =>
    obtain ⟨command, call⟩ := found
    exact congrArg (Option.map _) (hsame command (mem_of_resolve? hresolves) call.args)

/-- **Running commands get the same answers**, but for the order, if commands reply the same. -/
theorem agree_answer (h : a.commands.Perm b.commands) :
    (a.answer replies).AgreeButForOrder (b.answer replies') where
  tokens := ⟨a.tokens, b.tokens, rfl, rfl, h.map _⟩
  others query hquery := by
    cases query with
    | tokens => exact absurd rfl hquery
    | size => exact congrArg some h.length_eq
    | listing => exact congrArg some (listing_of_perm h)
    | lookup token =>
      exact congrArg (fun lookup => some ((lookup token).map Command.toManual)) (lookup_of_perm h)
    | invoke token args =>
      rw [answer, answer, ← lookup_of_perm h]
      cases hfound : a.lookup token with
      | none => rfl
      | some command =>
        have hreply := congrArg (Option.map some) (hsame command (mem_of_lookup hfound) args)
        rw [Option.map_map, Option.map_map] at hreply ⊢
        exact hreply
    | dispatch line => exact dispatchBy_value_of_perm hsame h line

end Replies

/-- **Within every depth the commands reply the same.** -/
theorem value_replyWithin_of_perm (h : a.commands.Perm b.commands)
    (hblind : ∀ command ∈ a.commands, command.OrderBlind) (hmem : command ∈ a.commands)
    (args : List String) (depth : Nat) :
    (a.replyWithin depth command args).map Logged.value =
      (b.replyWithin depth command args).map Logged.value := by
  induction depth generalizing command args with
  | zero => rfl
  | succ depth ih =>
    exact hblind command hmem args _ _ (agree_answer (fun _ hmem args => ih hmem args) h)

/-- **Every line comes to the same**, or is dispatched for ever in both. -/
theorem dispatch?_value_of_perm (h : a.commands.Perm b.commands)
    (hblind : ∀ command ∈ a.commands, command.OrderBlind) (line : String) :
    (a.dispatch? line).map Logged.value = (b.dispatch? line).map Logged.value :=
  dispatchBy_value_of_perm (fun _ hmem args =>
    map_reply?_congr Logged.value (value_replyWithin_of_perm h hblind hmem args)) h line

/-- A line of `help` comes to the same, and with the same records, whatever the other commands
do. -/
theorem dispatch?_help_of_perm (h : a.commands.Perm b.commands) {line : String} {call : Invocation}
    (hresolves : a.resolve? line = some (Builtin.help, call)) :
    ∃ outcome, a.dispatch? line = some outcome ∧ b.dispatch? line = some outcome := by
  have hresolves' : b.resolve? line = some (Builtin.help, call) :=
    (resolve?_of_perm h line).symm.trans hresolves
  have hreply := Builtin.reply?_help a call.args
  have hsame : b.reply? Builtin.help call.args = a.reply? Builtin.help call.args := by
    rw [hreply, Builtin.reply?_help, listing_of_perm h, lookup_of_perm h]
  exact ⟨_, dispatch?_of_reply? hresolves hreply,
    dispatch?_of_reply? hresolves' (hsame.trans hreply)⟩

/-! ## All of it -/

/-- **The order in which commands are registered shows in the enumeration of tokens alone.** Take
commands under different tokens in two orders. Each registry enumerates the tokens in its own. But
they find the same command under every token and have as many commands and the same listing, with
one row for each command, ascending by tokens; no other list of these rows is sorted, by the bytes
of the tokens either. If no reply depends on the order, every line comes to the same in both, even
one that leads to further dispatches or runs commands that were looked up; where one of them is
dispatched for ever, so is the other. No reply of a command depends on the order that does not
enumerate the tokens, whatever else it asks. And every line of `help`, with no, one or more
arguments, comes to the same, whatever the other commands are. -/
theorem order_shows_in_tokens_only {commands commands' : List Command}
    (hdistinct : (commands.map fun command => command.token).Nodup)
    (hperm : commands.Perm commands') :
    let a := (empty.registerAll commands).value
    let b := (empty.registerAll commands').value
    (a.tokens = commands.map (fun command => command.token) ∧
      b.tokens = commands'.map (fun command => command.token)) ∧
    (∀ token, a.lookup token = b.lookup token ∧ a.contains token = b.contains token) ∧
    (a.size = b.size ∧ a.size = commands.length) ∧
    (a.listing = b.listing ∧
      a.listing.Perm (commands.map fun command => (command.token, command.description)) ∧
      (a.listing.Pairwise fun row next => row.1 < next.1) ∧
      ∀ rows : List (String × String),
        rows.Perm (commands'.map fun command => (command.token, command.description)) →
        (rows.Pairwise fun row next => Text.bytes row.1 ≤ Text.bytes next.1) →
          rows = a.listing) ∧
    ((∀ command ∈ commands, command.OrderBlind) → ∀ line,
      (a.dispatch? line).map Logged.value = (b.dispatch? line).map Logged.value ∧
        (a.dispatch line).value = (b.dispatch line).value) ∧
    (∀ command : Command, (∀ args, (command.run args).Asks (· ≠ .tokens)) → command.OrderBlind) ∧
    Builtin.help.OrderBlind ∧
    (Builtin.help ∈ commands → ∀ line call, Invocation.ofLine? line = some call →
      call.token = "help" → a.dispatch line = b.dispatch line ∧
        a.dispatch? line = some (a.dispatch line) ∧ b.dispatch? line = some (b.dispatch line)) := by
  intro a b
  have hcommands : a.commands = commands := commands_registerAll hdistinct
  have hcommands' : b.commands = commands' :=
    commands_registerAll ((hperm.map _).nodup_iff.mp hdistinct)
  have hboth : a.commands.Perm b.commands := hcommands ▸ hcommands' ▸ hperm
  have hlisting : a.listing = b.listing := listing_of_perm hboth
  have hlookup := lookup_of_perm hboth
  refine ⟨⟨congrArg _ hcommands, congrArg _ hcommands'⟩, fun token => ⟨congrFun hlookup token, ?_⟩,
    ⟨hboth.length_eq, congrArg _ hcommands⟩,
    ⟨hlisting, hcommands ▸ a.perm_listing, a.ascending_listing, fun rows hrows hsorted => ?_⟩,
    fun hblind line => ?_, fun command => Command.orderBlind_of_asks, Builtin.orderBlind_help, ?_⟩
  · rw [contains, contains, hlookup]
  · rw [hlisting]
    exact eq_listing (hcommands'.symm ▸ hrows) hsorted
  · have hsame := dispatch?_value_of_perm hboth (hcommands.symm ▸ hblind) line
    exact ⟨hsame, value_dispatch_congr hsame⟩
  · intro hhelp line call hcall htoken
    have hfound : a.lookup call.token = some Builtin.help :=
      htoken ▸ lookup_of_mem (hcommands.symm ▸ hhelp)
    obtain ⟨outcome, ha, hb⟩ :=
      dispatch?_help_of_perm hboth (resolve?_eq_some_iff.mpr ⟨hcall, hfound⟩)
    rw [ha, hb, dispatch_of_dispatch? ha, dispatch_of_dispatch? hb]
    exact ⟨rfl, rfl, rfl⟩

/-- Tokens of one, two and four bytes are listed in the order of their characters, whichever is
registered first. One command stands for a longer line, which is handed on and then runs a command
that another one looks up; this asks how many commands there are. -/
theorem order_shows_in_tokens_only_reversed :
    let again := Scripted.command ⟨"Again", "😀", "last", ""⟩ .redispatch
    let count := Scripted.command ⟨"Count", "é", "first", ""⟩ .count
    let caller : Command := ⟨⟨"Caller", "c", "runs", ""⟩, fun args => .invoking "é" args⟩
    let short : Command := ⟨⟨"Short", "a", "stands", ""⟩,
      fun _ => .ask (.dispatch "😀 😀 c") fun outcome => .done (.finished outcome)⟩
    let commands := [again, Builtin.help, count, caller, short]
    let a := (empty.registerAll commands).value
    let b := (empty.registerAll commands.reverse).value
    (commands.map fun command => command.token).Nodup ∧ commands.Perm commands.reverse ∧
      (∀ command ∈ commands, command.OrderBlind) ∧ Builtin.help ∈ commands ∧
      a.tokens = ["😀", "help", "é", "c", "a"] ∧ b.tokens = ["a", "c", "é", "help", "😀"] ∧
      a.lookup "é" = b.lookup "é" ∧ a.size = 5 ∧
      [("a", "stands"), ("c", "runs"), ("help", "Lists commands or shows help for one"),
        ("é", "first"), ("😀", "last")] = a.listing ∧
      (a.dispatch "a").value = .ok (.text "5") ∧ (b.dispatch "a").value = .ok (.text "5") ∧
      a.dispatch "help é" = b.dispatch "help é" := by
  intro again count caller short commands a b
  have hdistinct : (commands.map fun command => command.token).Nodup := by decide
  have hperm : commands.Perm commands.reverse := (List.reverse_perm commands).symm
  have hhelp : Builtin.help ∈ commands := List.mem_of_getElem? (i := 1) rfl
  obtain ⟨⟨htokens, htokens'⟩, hlookup, ⟨-, hsize⟩, ⟨-, -, -, hlisting⟩, hdispatch, hasks, hblind,
    hlines⟩ := order_shows_in_tokens_only hdistinct hperm
  have hcaller : caller.OrderBlind := hasks caller fun _ => ⟨nofun, fun _ => trivial⟩
  have hshort : short.OrderBlind := hasks short fun _ => ⟨nofun, fun _ => trivial⟩
  have hall : ∀ command ∈ commands, command.OrderBlind := by
    simp only [commands, List.forall_mem_cons]
    exact ⟨Scripted.orderBlind_command _ (by decide), hblind,
      Scripted.orderBlind_command _ (by decide), hcaller, hshort, nofun⟩
  have hwithin : (a.dispatchWithin 5 "a").map Logged.value = some (.ok (.text "5")) := by
    decide +kernel
  obtain ⟨outcome, hsome, hvalue⟩ := Option.map_eq_some_iff.mp hwithin
  have hfive : (a.dispatch "a").value = .ok (.text "5") := by
    rw [dispatch_of_dispatch? (dispatch?_eq_some_iff.mpr ⟨5, hsome⟩), hvalue]
  exact ⟨hdistinct, hperm, hall, hhelp, htokens, htokens', (hlookup "é").1, hsize,
    hlisting _ (by decide) (by decide), hfive, (hdispatch hall "a").2.symm.trans hfive,
    (hlines hhelp "help é" ⟨"help", ["é"]⟩ (by decide) rfl).1⟩

end Registry

end CommandConsole
