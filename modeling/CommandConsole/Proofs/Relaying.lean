import CommandConsole.Proofs.Reaching

/-!
# Commands that hand lines on

A command may dispatch its own arguments, joined by single spaces, and reply what comes of them.
Splitting a line loses nothing, so the line that such a command dispatches is the one that stood
behind its token, whatever that line is; and as a result is handed back as it is, even one that a
breakdown left, nobody can tell in front of how many tokens of such commands a line stood.

Nothing holds these commands back from handing lines to each other, or to themselves. It comes to
an end because the joined arguments are shorter than the line: whatever else is registered, a line
is handed on no more often than it has characters, and then dispatched by a command that does
something else. If no command dispatches a longer line than its joined arguments or runs one that
it looks up, there is nothing else that could go on for ever, and every line comes to something
within the depth that its length gives.

Results:
* `Invocation.ofLine?_relayed`: what a line with a token in front of it spells.
* `Registry.dispatch?_relayed`: **a line comes to the same behind any number of such tokens.**
* `Registry.exists_handsOn`: **lines are not handed on for ever.**
* `Registry.dispatchWithin_eq`: **dispatches inside each other come to an end** where commands
  dispatch no longer lines.
* `Registry.relaying_is_transparent`: all of it.
-/

namespace CommandConsole

open Log

/-- The command dispatches its joined arguments and replies what comes of them. -/
def Command.Relays (command : Command) : Prop :=
  ∀ args (environment : Environment),
    ((command.run args).run environment).map Logged.value =
      ((environment (.dispatch (Invocation.join args))).map Logged.value).map Reply.finished

theorem Scripted.relays_redispatch (manual : Manual) : (command manual .redispatch).Relays := by
  intro args environment
  show ((environment (.dispatch (Invocation.join args))).bind _).map _ = _
  cases environment (.dispatch (Invocation.join args)) with
  | none | some answer => rfl

/-- The query runs no command, and dispatches no line but of so many characters. -/
def Query.Within (reach : Nat) : Query → Prop
  | dispatch line => line.length ≤ reach
  | invoke _ _ => False
  | size | tokens | listing | lookup _ => True

/-- The command comes back if all that it is not answered is to run commands that it looks up and to
dispatch lines that are longer than its joined arguments. -/
def Command.Shrinks (command : Command) : Prop :=
  ∀ args (environment : Environment),
    (∀ query, query.Within (Invocation.join args).length → (environment query).isSome = true) →
      ((command.run args).run environment).isSome = true

theorem Command.Relays.shrinks {command : Command} (hrelays : command.Relays) :
    command.Shrinks := by
  intro args environment hanswers
  have hline := hanswers (.dispatch (Invocation.join args)) (Nat.le_refl _)
  rw [← Option.isSome_map (f := Logged.value), hrelays, Option.isSome_map, Option.isSome_map, hline]

/-- Scripted commands dispatch no line but their joined arguments. -/
theorem Scripted.shrinks (manual : Manual) (behaviour : Behaviour) :
    (command manual behaviour).Shrinks := by
  intro args environment hanswers
  refine Program.isSome_run ?_ hanswers
  cases behaviour with
  | redispatch => exact ⟨Nat.le_refl _, fun _ => trivial⟩
  | count | tokens => exact ⟨trivial, fun _ => trivial⟩
  | _ => trivial

namespace Invocation

variable {token line : String}

/-- A line with so many tokens in front of it, a space behind each. -/
def relayed (token : String) (times : Nat) (line : String) : String :=
  String.join (List.replicate times (token ++ " ")) ++ line

theorem relayed_zero (token line : String) : relayed token 0 line = line :=
  String.empty_append

theorem relayed_succ (token : String) (times : Nat) (line : String) :
    relayed token (times + 1) line = token ++ " " ++ relayed token times line := by
  rw [relayed, List.replicate_succ, String.join_cons, String.append_assoc]
  rfl

/-- A line with a token in front of it is the pieces of the line behind the token. -/
theorem join_cons_pieces (token line : String) :
    join (token :: pieces line) = token ++ " " ++ line := by
  cases hpieces : pieces line with
  | nil => exact absurd hpieces (pieces_ne_nil line)
  | cons first others =>
    apply String.toList_injective
    rw [toList_join_cons_cons, ← hpieces, join_pieces]
    simp

/-- **A line with a token in front of it names that token**, and its arguments are the pieces of the
line, none of them lost. -/
theorem ofLine?_relayed (hspace : ' ' ∉ token.toList)
    (hblank : ¬ ∀ c ∈ token.toList, Text.isBlank c = true) (line : String) :
    ofLine? (token ++ " " ++ line) = some ⟨token, pieces line⟩ := by
  refine ofLine?_eq_some_iff.mpr ⟨⟨?_, ?_⟩, join_cons_pieces token line⟩
  · exact List.forall_mem_cons.mpr ⟨hspace, fun piece => not_mem_of_mem_pieces⟩
  · exact fun h => hblank (h token (List.mem_cons_self ..))

end Invocation

namespace Registry

variable {registry : Registry} {command : Command} {call : Invocation} {line last : String}
  {times depth : Nat}

/-! ## Handing lines on -/

/-- A command that hands its arguments on adds nothing to what comes of them. -/
theorem dispatch?_of_relays (hrelays : command.Relays)
    (h : registry.resolve? line = some (command, call)) :
    (registry.dispatch? line).map Logged.value =
      (registry.dispatch? (Invocation.join call.args)).map Logged.value := by
  have hreply : (registry.reply? command call.args).map Logged.value =
      ((registry.dispatch? (Invocation.join call.args)).map Logged.value).map Reply.finished := by
    rw [reply?, hrelays]
    rfl
  rw [dispatch?, map_value_dispatchBy, h]
  dsimp only
  rw [hreply, Option.map_map]
  exact Option.map_id'

/-- **A line comes to the same behind any number of tokens of such a command.** -/
theorem dispatch?_relayed (hbound : command ∈ registry.commands) (hrelays : command.Relays)
    (hspace : ' ' ∉ command.token.toList)
    (hblank : ¬ ∀ c ∈ command.token.toList, Text.isBlank c = true) (times : Nat) (line : String) :
    (registry.dispatch? (Invocation.relayed command.token times line)).map Logged.value =
      (registry.dispatch? line).map Logged.value := by
  induction times with
  | zero => rw [Invocation.relayed_zero]
  | succ times ih =>
    let behind := Invocation.relayed command.token times line
    have hresolves : registry.resolve? (command.token ++ " " ++ behind) =
        some (command, ⟨command.token, Invocation.pieces behind⟩) :=
      resolve?_eq_some_iff.mpr
        ⟨Invocation.ofLine?_relayed hspace hblank behind, lookup_of_mem hbound⟩
    rw [Invocation.relayed_succ, dispatch?_of_relays hrelays hresolves, ← ih,
      Invocation.join_pieces]

/-! ## Coming to an end -/

/-- A line is handed on so many times, and then this is the line that is dispatched. -/
inductive HandsOn (registry : Registry) : Nat → String → String → Prop where
  /-- The line is not handed on. -/
  | here (line : String) : HandsOn registry 0 line line
  /-- The command of the line hands its joined arguments on. -/
  | next {times : Nat} {line last : String} {command : Command} {call : Invocation}
      (hresolves : registry.resolve? line = some (command, call)) (hrelays : command.Relays)
      (hrest : HandsOn registry times (Invocation.join call.args) last) :
      HandsOn registry (times + 1) line last

/-- A line loses a character each time it is handed on. -/
theorem HandsOn.add_length_le (h : registry.HandsOn times line last) :
    times + last.length ≤ line.length := by
  induction h with
  | here line => exact (Nat.zero_add _).le
  | next hresolves _ _ ih =>
    have hshorter := Invocation.arguments_shorter (resolve?_eq_some_iff.mp hresolves).1
    omega

/-- **A line comes to what the last one comes to.** -/
theorem HandsOn.dispatch? (h : registry.HandsOn times line last) :
    (registry.dispatch? line).map Logged.value = (registry.dispatch? last).map Logged.value := by
  induction h with
  | here line => rfl
  | next hresolves hrelays _ ih => exact (dispatch?_of_relays hrelays hresolves).trans ih

/-- **No line is handed on for ever**, whatever is registered. -/
theorem exists_handsOn (registry : Registry) (line : String) :
    ∃ times last, registry.HandsOn times line last ∧
      ∀ command call, registry.resolve? last = some (command, call) → ¬ command.Relays := by
  induction hlength : line.length using Nat.strong_induction_on generalizing line with
  | _ length ih =>
    by_cases hrelayed : ∃ command call, registry.resolve? line = some (command, call) ∧
        command.Relays
    · obtain ⟨command, call, hresolves, hrelays⟩ := hrelayed
      have hshorter := Invocation.arguments_shorter (resolve?_eq_some_iff.mp hresolves).1
      obtain ⟨times, last, hrest, hlast⟩ :=
        ih _ (hlength ▸ hshorter) (Invocation.join call.args) rfl
      exact ⟨times + 1, last, .next hresolves hrelays hrest, hlast⟩
    · exact ⟨0, line, .here line, fun command call hresolves hrelays =>
        hrelayed ⟨command, call, hresolves, hrelays⟩⟩

/-- A line comes to something within the depth that its length gives. -/
theorem isSome_dispatchWithin (hshrinks : ∀ command ∈ registry.commands, command.Shrinks)
    (h : line.length ≤ depth) : (registry.dispatchWithin depth line).isSome = true := by
  induction depth generalizing line with
  | zero =>
    cases hresolves : registry.resolve? line with
    | none => rw [dispatchWithin, dispatchBy, hresolves, Option.isSome_some]
    | some found =>
      have hfilled := Invocation.length_pos_of_ofLine? (resolve?_eq_some_iff.mp hresolves).1
      omega
  | succ depth ih =>
    rw [dispatchWithin, dispatchBy]
    cases hresolves : registry.resolve? line with
    | none => rfl
    | some found =>
      obtain ⟨command, call⟩ := found
      have hshorter := Invocation.arguments_shorter (resolve?_eq_some_iff.mp hresolves).1
      dsimp only
      rw [Option.isSome_map, replyWithin]
      refine hshrinks command (mem_of_resolve? hresolves) call.args _ fun query hwithin => ?_
      cases query with
      | size | tokens | listing | lookup _ => rfl
      | invoke _ _ => exact hwithin.elim
      | dispatch inner =>
        have hinner : inner.length ≤ (Invocation.join call.args).length := hwithin
        exact ih (by omega)

/-- **No line leads to more dispatches inside each other than it has characters**, where commands
dispatch no longer lines than their joined arguments. -/
theorem dispatchWithin_eq (hshrinks : ∀ command ∈ registry.commands, command.Shrinks)
    (h : line.length ≤ depth) :
    registry.dispatchWithin depth line = some (registry.dispatch line) ∧
      registry.dispatch? line = some (registry.dispatch line) := by
  obtain ⟨outcome, hwithin⟩ := Option.isSome_iff_exists.mp (isSome_dispatchWithin hshrinks h)
  have hsome : registry.dispatch? line = some outcome := dispatch?_eq_some_iff.mpr ⟨depth, hwithin⟩
  rw [hwithin, hsome, dispatch_of_dispatch? hsome]
  exact ⟨rfl, rfl⟩

/-! ## All of it -/

/-- **Nobody can tell how often a line was handed on.** Let a command that is registered dispatch
its joined arguments and reply what comes of them, and let its token have no space and not be blank.
Then any line, a blank one and one that names nothing or the same command again included, comes to
the same behind any number of its tokens as by itself; if the command that the line names breaks
down, this is the one error with its own message.

In every registry, whatever commands there are under whatever tokens, handing on comes to an end, as
joined arguments are shorter than their line: after no more times than a line has characters it has
become one that is not handed on, and what this comes to the line comes to. If moreover no command
needs an answer to a longer line than its joined arguments, or a command that it looks up, as none
does that hands its arguments on, then every line comes to something, with no more dispatches inside
each other than it has characters. -/
theorem relaying_is_transparent {registry : Registry} {command : Command}
    (hbound : command ∈ registry.commands) (hrelays : command.Relays)
    (hspace : ' ' ∉ command.token.toList)
    (hblank : ¬ ∀ c ∈ command.token.toList, Text.isBlank c = true) :
    (∀ times line,
      (registry.dispatch? (Invocation.relayed command.token times line)).map Logged.value =
          (registry.dispatch? line).map Logged.value ∧
        (registry.dispatch (Invocation.relayed command.token times line)).value =
          (registry.dispatch line).value) ∧
    (∀ times line inner call reply, registry.resolve? line = some (inner, call) →
      registry.reply? inner call.args = some reply →
      let outcome := (registry.dispatch (Invocation.relayed command.token times line)).value
      (∀ message, reply.value = .panicked (some message) →
        outcome = .error (.commandPanicked message)) ∧
      (reply.value = .panicked none → outcome = .error (.commandPanicked "unknown panic"))) ∧
    (∀ line call, Invocation.ofLine? line = some call →
      (Invocation.join call.args).length < line.length) ∧
    (∀ (other : Registry) (line : String), ∃ times last,
      other.HandsOn times line last ∧ times ≤ line.length ∧
        (∀ command call, other.resolve? last = some (command, call) → ¬ command.Relays) ∧
        (other.dispatch? line).map Logged.value = (other.dispatch? last).map Logged.value) ∧
    (∀ command : Command, command.Relays → command.Shrinks) ∧
    ∀ other : Registry, (∀ command ∈ other.commands, command.Shrinks) →
      ∀ (depth : Nat) (line : String), line.length ≤ depth →
        other.dispatchWithin depth line = some (other.dispatch line) ∧
          other.dispatch? line = some (other.dispatch line) := by
  have hsame := dispatch?_relayed hbound hrelays hspace hblank
  refine ⟨fun times line => ⟨hsame times line, value_dispatch_congr (hsame times line)⟩,
    fun times line inner call reply hresolves hreply => ?_,
    fun line call => Invocation.arguments_shorter, fun other line => ?_,
    fun command => Command.Relays.shrinks,
    fun other hshrinks depth line => other.dispatchWithin_eq hshrinks⟩
  · intro outcome
    have houtcome : outcome = reply.value.settle := by
      show (registry.dispatch _).value = _
      rw [value_dispatch_congr (hsame times line),
        dispatch_of_dispatch? (dispatch?_of_reply? hresolves hreply)]
      rfl
    rw [houtcome]
    exact reply.value.settle_cases.2
  · obtain ⟨times, last, hchain, hlast⟩ := exists_handsOn other line
    have htimes := hchain.add_length_le
    exact ⟨times, last, hchain, by omega, hlast, hchain.dispatch?⟩

/-- A breakdown behind three tokens is one error; a space behind the token hands on the empty line;
and two commands that hand lines to each other come to an end. -/
theorem relaying_is_transparent_thrice :
    let again := Scripted.command ⟨"Again", "r", "", ""⟩ .redispatch
    let once := Scripted.command ⟨"Once", "\t", "", ""⟩ .redispatch
    let shout := Scripted.command ⟨"Shout", "x", "", ""⟩ (.panicCounting "boom")
    let registry := (empty.registerAll [again, once, shout]).value
    again ∈ registry.commands ∧ again.Relays ∧ ' ' ∉ again.token.toList ∧
      (¬ ∀ c ∈ again.token.toList, Text.isBlank c = true) ∧
      (registry.dispatch "r r r x  a").value = .error (.commandPanicked "boom (2 args)") ∧
      (registry.dispatch "r ").value = (registry.dispatch "").value ∧
      (∀ command ∈ registry.commands, command.Shrinks) ∧
      registry.dispatchWithin 9 "r \t r x a" = some (registry.dispatch "r \t r x a") := by
  intro again once shout registry
  have hcommands : registry.commands = [again, once, shout] := rfl
  have hbound : again ∈ registry.commands := by
    simp [hcommands]
  have hspace : ' ' ∉ again.token.toList := by decide
  have hblank : ¬ ∀ c ∈ again.token.toList, Text.isBlank c = true :=
    fun h => absurd (h 'r' (by decide)) (by decide)
  have hshrinks : ∀ command ∈ registry.commands, command.Shrinks := by
    rw [hcommands, List.forall_mem_cons, List.forall_mem_cons, List.forall_mem_singleton]
    exact ⟨Scripted.shrinks _ _, Scripted.shrinks _ _, Scripted.shrinks _ _⟩
  obtain ⟨hsame, hpanics, -, -, -, hends⟩ := relaying_is_transparent hbound
    (Scripted.relays_redispatch _) hspace hblank
  have hresolves : registry.resolve? "x  a" = some (shout, ⟨"x", ["", "a"]⟩) := rfl
  exact ⟨hbound, Scripted.relays_redispatch _, hspace, hblank,
    (hpanics 3 "x  a" shout _ _ hresolves (reply?_of_done rfl)).1 _ rfl, (hsame 1 "").2, hshrinks,
    (hends registry hshrinks 9 _ (by decide)).1⟩

end Registry

end CommandConsole
