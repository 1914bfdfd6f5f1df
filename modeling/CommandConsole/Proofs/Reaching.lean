import CommandConsole.Command.Scripted
import CommandConsole.Proofs.Converging
import CommandConsole.Proofs.Dispatching
import CommandConsole.Proofs.Isolation
import CommandConsole.Proofs.Keeping

/-!
# Commands within reach

A registry takes any text for a token, but a line can only name a text without a space. So a command
under such a token is reached by some line, even if the token is blank or empty, as an argument
keeps the line from being blank; and no line resolves to a command under any other token.

A command may still be run by one that looks it up, whatever its token is. If no command does, then
no dispatch depends on a command that no line names, even though commands dispatch lines themselves:
whatever the command did instead, every line would come to the same.

Results:
* `Registry.exists_resolve?_iff`, `Registry.resolve?_token_iff`: which tokens some line names, and
  which name themselves.
* `Registry.dispatch?_withBody`: **a command that no line names and no command looks up has no part
  in any dispatch.**
* `Registry.dependsOn_of_resolve?`, `Registry.dependsOn_of_invoking`: a command that a line resolves
  to, or that this one looks up and runs, has a part in it.
* `Registry.reaches_unspaced`: **which commands an operator can run, by typing and by completing.**
-/

namespace CommandConsole

open Log

/-- The command does not run the one under a token: what that one replies, to whichever arguments,
makes no difference. -/
def Command.Spares (token : String) (command : Command) : Prop :=
  ∀ args (a b : Environment),
    (∀ query, (∀ others, query ≠ .invoke token others) → a query = b query) →
      (command.run args).run a = (command.run args).run b

/-- Scripted commands run no command that they look up. -/
theorem Scripted.spares (token : String) (manual : Manual) (behaviour : Behaviour) :
    (command manual behaviour).Spares token := by
  intro args a b hsame
  refine Program.run_congr ?_ hsame
  cases behaviour with
  | count | tokens | redispatch => exact ⟨nofun, fun _ => trivial⟩
  | _ => trivial

/-- Looks a token up, runs the command on some arguments and replies what it replies. -/
def Program.invoking (token : String) (args : List String) : Program :=
  .ask (.invoke token args) fun reply? => .done (reply?.getD (.finished (.error .notRecognized)))

/-- The command with another body if it has this token, else the command itself. -/
def Command.withBody (token : String) (body : List String → Program) (command : Command) :
    Command :=
  if command.token = token then { command with run := body } else command

/-- The manual page stays. -/
@[simp]
theorem Command.toManual_withBody (token : String) (body : List String → Program)
    (command : Command) : (command.withBody token body).toManual = command.toManual := by
  unfold withBody
  split <;> rfl

theorem Command.withBody_of_ne {token : String} {body : List String → Program} {command : Command}
    (h : command.token ≠ token) : command.withBody token body = command :=
  if_neg h

/-- Every outcome differs from that of some reply. -/
theorem Reply.exists_settle_ne (outcome : Outcome) : ∃ reply : Reply, reply.settle ≠ outcome := by
  by_cases h : outcome = .ok .silent
  · exact ⟨.finished (.ok .quit), by rw [h]; simp [settle]⟩
  · exact ⟨.finished (.ok .silent), fun heq => h heq.symm⟩

namespace Registry

variable {registry : Registry} {command callee : Command} {call : Invocation}
  {token line : String} {args others : List String} {body : List String → Program}

theorem lookup_of_mem (h : command ∈ registry.commands) :
    registry.lookup command.token = some command := by
  obtain ⟨position, hposition⟩ := List.mem_iff_getElem?.mp h
  exact lookup_of_getElem? hposition

/-! ## Another body -/

/-- The registry where the command under a token does something else. -/
def withBody (registry : Registry) (token : String) (body : List String → Program) : Registry where
  commands := registry.commands.map (Command.withBody token body)
  distinct := by
    rw [List.map_map]
    refine (congrArg List.Nodup (List.map_congr_left fun command _ => ?_)).mpr registry.distinct
    exact congrArg Manual.token (Command.toManual_withBody token body command)

theorem map_withBody {α : Type} (registry : Registry) (token : String)
    (body : List String → Program) (view : Manual → α) :
    (registry.withBody token body).commands.map (fun command => view command.toManual) =
      registry.commands.map fun command => view command.toManual := by
  unfold withBody
  rw [List.map_map]
  refine List.map_congr_left fun command _ => ?_
  exact congrArg view (Command.toManual_withBody token body command)

@[simp]
theorem size_withBody (registry : Registry) (token : String) (body : List String → Program) :
    (registry.withBody token body).size = registry.size :=
  List.length_map _

@[simp]
theorem tokens_withBody (registry : Registry) (token : String) (body : List String → Program) :
    (registry.withBody token body).tokens = registry.tokens :=
  map_withBody registry token body Manual.token

@[simp]
theorem listing_withBody (registry : Registry) (token : String) (body : List String → Program) :
    (registry.withBody token body).listing = registry.listing :=
  congrArg (List.mergeSort · _)
    (map_withBody registry token body fun manual => (manual.token, manual.description))

theorem lookup_withBody (registry : Registry) (token : String) (body : List String → Program)
    (other : String) :
    (registry.withBody token body).lookup other =
      (registry.lookup other).map (Command.withBody token body) := by
  have htoken : ∀ command : Command,
      ((command.withBody token body).token == other) = (command.token == other) :=
    fun command => congrArg (fun manual => manual.token == other)
      (Command.toManual_withBody token body command)
  unfold lookup withBody
  rw [List.find?_map]
  exact congrArg (fun p => (registry.commands.find? p).map _) (funext htoken)

/-- A command that is found under another token is found again. -/
theorem lookup_withBody_of_ne {other : String} (h : other ≠ token) :
    (registry.withBody token body).lookup other = registry.lookup other := by
  rw [lookup_withBody]
  cases hfound : registry.lookup other with
  | none => rfl
  | some command =>
    exact congrArg some (Command.withBody_of_ne (token_of_lookup hfound ▸ h))

theorem manual_withBody (registry : Registry) (token : String) (body : List String → Program)
    (other : String) :
    ((registry.withBody token body).lookup other).map Command.toManual =
      (registry.lookup other).map Command.toManual := by
  rw [lookup_withBody, Option.map_map]
  exact congrArg (Option.map · _) (funext (Command.toManual_withBody token body))

/-- What a line resolves to is the same command, with another body if it has the token. -/
theorem resolve?_withBody (token : String) (body : List String → Program)
    (h : registry.resolve? line = some (command, call)) :
    (registry.withBody token body).resolve? line = some (command.withBody token body, call) := by
  obtain ⟨hcall, hfound⟩ := resolve?_eq_some_iff.mp h
  refine resolve?_eq_some_iff.mpr ⟨hcall, ?_⟩
  rw [lookup_withBody, hfound, Option.map_some]

/-! ## Commands that no line names -/

section Unnamed

variable (hunnamed : ∀ line call, Invocation.ofLine? line = some call → call.token ≠ token)

include hunnamed

/-- Every line resolves to the same, as none of them names the token. -/
theorem resolve?_withBody_of_unnamed (line : String) :
    (registry.withBody token body).resolve? line = registry.resolve? line := by
  unfold resolve?
  cases hcall : Invocation.ofLine? line with
  | none => rfl
  | some call => rw [Option.bind_some, Option.bind_some, lookup_withBody_of_ne (hunnamed _ _ hcall)]

section Replies

variable {replies replies' : Command → List String → Option (Logged Reply)}
  (hsame : ∀ command ∈ registry.commands, command.token ≠ token →
    ∀ args, replies' command args = replies command args)

include hsame

/-- Every line comes to the same if the commands under other tokens reply the same. -/
theorem dispatchBy_withBody (line : String) :
    (registry.withBody token body).dispatchBy replies' line = registry.dispatchBy replies line := by
  unfold dispatchBy
  rw [resolve?_withBody_of_unnamed hunnamed]
  cases hresolves : registry.resolve? line with
  | none => rfl
  | some found =>
    obtain ⟨command, call⟩ := found
    obtain ⟨hcall, hfound⟩ := resolve?_eq_some_iff.mp hresolves
    have hother : command.token ≠ token := token_of_lookup hfound ▸ hunnamed line call hcall
    exact congrArg (Option.map _) (hsame command (mem_of_lookup hfound) hother call.args)

/-- **No answer tells what the command under the token does**, unless it is run. -/
theorem answer_withBody (query : Query) (hquery : ∀ others, query ≠ .invoke token others) :
    (registry.withBody token body).answer replies' query = registry.answer replies query := by
  cases query with
  | size => exact congrArg (fun size => some (pure size)) (registry.size_withBody token body)
  | tokens => exact congrArg (fun tokens => some (pure tokens)) (registry.tokens_withBody token body)
  | listing => exact congrArg (fun rows => some (pure rows)) (registry.listing_withBody token body)
  | lookup other =>
    exact congrArg (fun manual? => some (pure manual?)) (registry.manual_withBody token body other)
  | invoke other args =>
    have hother : other ≠ token := by
      rintro rfl
      exact hquery args rfl
    rw [answer, answer, lookup_withBody_of_ne hother]
    cases hfound : registry.lookup other with
    | none => rfl
    | some command =>
      exact congrArg (Option.map _)
        (hsame command (mem_of_lookup hfound) (token_of_lookup hfound ▸ hother) args)
  | dispatch line => exact dispatchBy_withBody hunnamed hsame line

end Replies

variable (hspared : ∀ other ∈ registry.commands, other.Spares token)

include hspared

/-- **Within every depth the commands under other tokens reply the same.** -/
theorem replyWithin_withBody (hmem : command ∈ registry.commands) (hother : command.token ≠ token)
    (args : List String) (depth : Nat) :
    (registry.withBody token body).replyWithin depth command args =
      registry.replyWithin depth command args := by
  induction depth generalizing command args with
  | zero => rfl
  | succ depth ih =>
    exact hspared command hmem args _ _
      (answer_withBody hunnamed fun _ hmem hother args => ih hmem hother args)

/-- **A command that no line names and no command runs has no part in any dispatch**, not even in
what other commands dispatch. -/
theorem dispatch?_withBody (line : String) :
    (registry.withBody token body).dispatch? line = registry.dispatch? line := by
  refine dispatchBy_withBody hunnamed (fun command hmem hother args => ?_) line
  have hreply : ((registry.withBody token body).reply? command args).map id =
      (registry.reply? command args).map id :=
    map_reply?_congr id fun depth => congrArg _
      (replyWithin_withBody hunnamed hspared hmem hother args depth)
  simpa only [Option.map_id, id_eq] using hreply

end Unnamed

/-- What the command under a token does makes a difference to what a line comes to. -/
def DependsOn (registry : Registry) (token line : String) : Prop :=
  ∃ body, (registry.withBody token body).dispatch? line ≠ registry.dispatch? line

theorem not_dependsOn (hunnamed : ∀ line call, Invocation.ofLine? line = some call →
    call.token ≠ token) (hspared : ∀ other ∈ registry.commands, other.Spares token) :
    ¬ registry.DependsOn token line :=
  fun ⟨_, hne⟩ => hne (dispatch?_withBody hunnamed hspared line)

theorem not_dependsOn_of_blank (h : Invocation.isBlankLine line = true) :
    ¬ registry.DependsOn token line := by
  rintro ⟨body, hne⟩
  have hnone : ∀ registry : Registry, registry.resolve? line = none := fun registry => by
    rw [resolve?, Invocation.ofLine?_eq_none_iff.mpr h, Option.bind_none]
  rw [dispatch?_of_unresolved (hnone _), dispatch?_of_unresolved (hnone _)] at hne
  exact hne rfl

/-- A line that reports whatever the command is made to reply depends on it. -/
theorem dependsOn_of_report
    (h : ∀ reply, (registry.withBody token fun _ => .done reply).dispatch? line =
      some (report call (pure reply))) : registry.DependsOn token line := by
  obtain ⟨reply, hreply⟩ := Reply.exists_settle_ne (registry.dispatch line).value
  refine ⟨fun _ => .done reply, fun heq => hreply ?_⟩
  rw [h reply] at heq
  rw [dispatch_of_dispatch? heq.symm]
  rfl

theorem reply?_withBody_done {reply : Reply} (h : command.token = token) (args : List String) :
    (registry.withBody token fun _ => .done reply).reply?
      (command.withBody token fun _ => .done reply) args = some (pure reply) :=
  reply?_of_done (congrArg (fun command : Command => command.run args) (if_pos h))

/-- A command that a line resolves to decides what comes of it. -/
theorem dependsOn_of_resolve? (h : registry.resolve? line = some (command, call)) :
    registry.DependsOn command.token line :=
  dependsOn_of_report fun _ =>
    dispatch?_of_reply? (resolve?_withBody _ _ h) (reply?_withBody_done rfl call.args)

/-- A command that is looked up and run replies what it would reply to a line. -/
theorem reply?_of_invoking (hrun : command.run args = .invoking token others)
    (hfound : registry.lookup token = some callee) :
    registry.reply? command args = registry.reply? callee others := by
  have hanswer : registry.answer registry.reply? (.invoke token others) =
      (registry.reply? callee others).map (some <$> ·) := by
    rw [answer, hfound]
  rw [reply?, hrun, Program.invoking, Program.run, hanswer]
  cases registry.reply? callee others with
  | none => rfl
  | some reply =>
    refine congrArg some (Logged.eq_of_value_of_records rfl ?_)
    show (some <$> reply).records ++ [] = reply.records
    rw [List.append_nil, Logged.records_map]

/-- **A command that another one looks up and runs has a part in what that one does**, even if no
line names it. -/
theorem dependsOn_of_invoking (h : registry.resolve? line = some (command, call))
    (hother : command.token ≠ token) (hrun : command.run call.args = .invoking token others)
    (hfound : registry.lookup token = some callee) : registry.DependsOn token line := by
  have hreport : ∀ reply, (registry.withBody token fun _ => .done reply).dispatch? line =
      some (report call (pure reply)) := by
    intro reply
    have hresolves := resolve?_withBody token (fun _ => .done reply) h
    rw [Command.withBody_of_ne hother] at hresolves
    have hlookup := lookup_withBody registry token (fun _ => .done reply) token
    rw [hfound, Option.map_some] at hlookup
    refine dispatch?_of_reply? hresolves ?_
    rw [reply?_of_invoking hrun hlookup]
    exact reply?_withBody_done (token_of_lookup hfound) others
  exact dependsOn_of_report hreport

/-! ## Which commands lines name -/

/-- No line names a token with a space. -/
theorem token_ne_of_space (h : ' ' ∈ token.toList) {line : String} {call : Invocation}
    (hcall : Invocation.ofLine? line = some call) : call.token ≠ token := by
  rintro rfl
  obtain ⟨hspellable, -⟩ := Invocation.ofLine?_eq_some_iff.mp hcall
  exact hspellable.unspaced _ (List.mem_cons_self ..) h

/-- A token without a space is named by the line where an argument follows it. -/
theorem resolve?_join_token (h : command ∈ registry.commands)
    (hspace : ' ' ∉ command.token.toList) :
    registry.resolve? (Invocation.join [command.token, "x"]) =
      some (command, ⟨command.token, ["x"]⟩) := by
  refine resolve?_eq_some_iff.mpr ⟨Invocation.ofLine?_eq_some_iff.mpr ⟨⟨?_, ?_⟩, rfl⟩,
    lookup_of_mem h⟩
  · have hargument : ∀ piece ∈ ["x"], ' ' ∉ piece.toList := by decide
    exact List.forall_mem_cons.mpr ⟨hspace, hargument⟩
  · intro hblank
    exact absurd (hblank "x" (by simp) 'x' (by decide)) (by decide)

/-- **Some line names a command exactly if its token has no space**, blank and empty tokens
included. -/
theorem exists_resolve?_iff (h : command ∈ registry.commands) :
    (∃ line call, registry.resolve? line = some (command, call)) ↔ ' ' ∉ command.token.toList := by
  constructor
  · rintro ⟨line, call, hresolves⟩ hspace
    obtain ⟨hcall, hfound⟩ := resolve?_eq_some_iff.mp hresolves
    exact token_ne_of_space hspace hcall (token_of_lookup hfound).symm
  · exact fun hspace => ⟨_, _, resolve?_join_token h hspace⟩

/-- A token that resolves to its command, on whichever arguments, has no space and is not blank. -/
theorem spelled_of_resolve?_token (h : registry.resolve? command.token = some (command, call)) :
    ' ' ∉ command.token.toList ∧ Invocation.isBlankLine command.token = false := by
  obtain ⟨hcall, hfound⟩ := resolve?_eq_some_iff.mp h
  exact ⟨fun hspace => token_ne_of_space hspace hcall (token_of_lookup hfound).symm,
    Invocation.isBlankLine_of_ofLine? hcall⟩

/-- **A token names its command by itself exactly if it has no space and is not blank.** -/
theorem resolve?_token_iff (h : command ∈ registry.commands) :
    registry.resolve? command.token = some (command, ⟨command.token, []⟩) ↔
      ' ' ∉ command.token.toList ∧ Invocation.isBlankLine command.token = false := by
  have hline : Invocation.line ⟨command.token, []⟩ = command.token :=
    String.toList_injective (by simp [Invocation.line, Invocation.toList_join])
  rw [resolve?_eq_some_iff, Invocation.ofLine?_eq_some_iff, Invocation.spellable_iff, hline]
  simp [lookup_of_mem h]

end Registry

/-! ## Submitting a completed token -/

/-- Where the submitted line comes to the same with other commands, submitting does. -/
theorem Session.act_submit_of_dispatch_eq {session : Session} {registry : Registry}
    (h : registry.dispatch session.field.text = session.registry.dispatch session.field.text) :
    { session with registry }.act .submit =
      (fun next : Session => { next with registry }) <$> session.act .submit := by
  by_cases hv : session.visible = true
  · have hother : { session with registry }.visible = true := hv
    rw [act_of_visible hv (by simp), act_of_visible hother (by simp)]
    show { session with registry }.submit = _ <$> session.submit
    by_cases htext : session.field.text = ""
    · have hempty : { session with registry }.field.text = "" := htext
      rw [submit_of_empty htext, submit_of_empty hempty]
      rfl
    · have hne : { session with registry }.field.text ≠ "" := htext
      ext1
      · rw [value_submit hne, Logged.value_map, value_submit htext]
        simp only [h]
      · rw [records_submit hne, Logged.records_map, records_submit htext]
        simp only [h]
  · rw [Bool.not_eq_true] at hv
    have hother : { session with registry }.visible = false := hv
    rw [act_of_hidden hv (by simp), act_of_hidden hother (by simp)]
    rfl

namespace Console

variable {console : Console}

/-- What submitting the input field of a console runs. -/
def runs? (console : Console) : Option (Command × Invocation) :=
  (console.submitted? (.act .submit)).bind console.session.registry.resolve?

/-- A visible console runs what its text resolves to; the empty text is blank. -/
theorem runs?_of_visible (hv : console.session.visible = true) :
    console.runs? = console.session.registry.resolve? console.session.field.text := by
  by_cases htext : console.session.field.text = ""
  · have hnone : console.submitted? (.act .submit) = none := if_neg fun h => h.2.2 htext
    rw [runs?, hnone, htext]
    rfl
  · have hsome : console.submitted? (.act .submit) = some console.session.field.text :=
      if_pos ⟨rfl, hv, htext⟩
    rw [runs?, hsome]
    rfl

theorem step_submit_withCommands {registry : Registry}
    (h : registry.dispatch console.session.field.text =
      console.session.registry.dispatch console.session.field.text) :
    (console.withCommands registry).step (.act .submit) =
      (fun next : Console => next.withCommands registry) <$> console.step (.act .submit) := by
  -- The session that acts has received what was queued, which leaves its field and its commands.
  have hreceived :
      registry.dispatch (console.session.receive console.inbox.queued).field.text =
        (console.session.receive console.inbox.queued).registry.dispatch
          (console.session.receive console.inbox.queued).field.text := h
  have hacted : (console.withCommands registry).poll.2.session.act .submit =
      (fun next : Session => { next with registry }) <$>
        (console.session.receive console.inbox.queued).act .submit :=
    Session.act_submit_of_dispatch_eq hreceived
  unfold step act
  dsimp only
  rw [hacted, Logged.records_map]
  ext1
  · rfl
  · rw [Logged.records_map]
    rfl

/-- A token that the text of a visible console is completed to is what a submission runs next. -/
theorem runs?_of_suggest {token : String} (hv : console.session.visible = true)
    (h : Completion.suggest console.session.config.minChars console.session.registry.tokens
      console.session.field.text = some token) :
    let completed := (console.step (.act .complete)).value
    completed.session.field.text = token ∧ completed.session.visible = true ∧
      completed.session.registry = console.session.registry ∧
        completed.runs? = console.session.registry.resolve? token := by
  intro completed
  obtain ⟨htext, hvisible⟩ := step_complete hv
  have hregistry : completed.session.registry = console.session.registry :=
    (setup_step console _).2.1
  have htoken : completed.session.field.text = token :=
    htext.trans (congrArg (Option.getD · _) h)
  refine ⟨htoken, hvisible, hregistry, ?_⟩
  rw [runs?_of_visible hvisible, hregistry, htoken]

/-- **Submitting a token that names its command records and shows what the command replies.** -/
theorem submission_of_resolve? {command : Command} {token : String} {reply : Logged Reply}
    (hv : console.session.visible = true) (htext : console.session.field.text = token)
    (h : console.session.registry.resolve? token = some (command, ⟨token, []⟩))
    (hreply : console.session.registry.reply? command [] = some reply) :
    let outcome := reply.value.settle
    let stored := console.session.history.store token
    let submission := console.step (.act .submit)
    submission.records = Registry.dispatchRecord ⟨token, []⟩ :: reply.records ++
        ((Session.recordFault outcome).records ++ stored.records) ∧
      submission.value.session.transcript.entries =
        console.session.transcript.entries ++ console.inbox.queued.map Entry.logged ++
          Session.submissionEntries token outcome stored.value.1 := by
  intro outcome stored submission
  have hne : token ≠ "" := by
    rintro rfl
    cases h
  have hsubmit : console.submitted? (.act .submit) = some token :=
    Session.submitted?_eq_some_iff.mpr ⟨rfl, hv, htext, hne⟩
  obtain ⟨hentries, hrecords, -⟩ := submission_step hsubmit
  rw [Registry.dispatch_of_dispatch? (Registry.dispatch?_of_reply? h hreply)] at hentries hrecords
  rw [Registry.records_report] at hrecords
  exact ⟨hrecords, hentries⟩

end Console

namespace Registry

/-- **Which commands an operator can run.** Dispatching a line runs the command that the line
resolves to, and nothing if there is none. Some line resolves to a command exactly if its token has
no space, and its token alone does, without arguments, exactly if it is not blank either; in both
cases the line depends on what the command does. A line that is blank never does, and if no command
runs this one by looking it up, then under a token with a space it makes no difference to any line,
whichever commands dispatch lines themselves, what the command would do.

So when the text of a visible console was completed to the token, submitting it runs the command
without arguments exactly if the token has no space and is not blank, and what it replies is what
is recorded and shown. Otherwise that does not run the command, on whichever arguments; and if no
command runs this one by looking it up, or the token is blank, then submitting would come to the
same whatever the command did. -/
theorem reaches_unspaced {registry : Registry} {command : Command}
    (hbound : command ∈ registry.commands) :
    let token := command.token
    let named := ' ' ∉ token.toList
    let blank := ∀ c ∈ token.toList, Text.isBlank c = true
    let alone := named ∧ ¬ blank
    let spared := ∀ other ∈ registry.commands, other.Spares token
    (∀ line, registry.dispatch? line =
      match registry.resolve? line with
      | none => some (pure (.error .notRecognized))
      | some (found, call) => (registry.reply? found call.args).map (report call)) ∧
    ((∃ line call, registry.resolve? line = some (command, call)) ↔ named) ∧
    (registry.resolve? token = some (command, ⟨token, []⟩) ↔ alone) ∧
    ((named → ∃ line, registry.DependsOn token line) ∧ (alone → registry.DependsOn token token)) ∧
    ((blank → ¬ registry.DependsOn token token) ∧
      (spared → ¬ named → ∀ line, ¬ registry.DependsOn token line)) ∧
    ∀ console : Console, console.session.registry = registry → console.session.visible = true →
      Completion.suggest console.session.config.minChars registry.tokens
        console.session.field.text = some token →
      let completed := (console.step (.act .complete)).value
      let submission := completed.step (.act .submit)
      completed.session.field.text = token ∧
      (completed.runs? = some (command, ⟨token, []⟩) ↔ alone) ∧
      (alone → ∀ reply, registry.reply? command [] = some reply →
        let outcome := reply.value.settle
        let stored := completed.session.history.store token
        submission.records = dispatchRecord ⟨token, []⟩ :: reply.records ++
          ((Session.recordFault outcome).records ++ stored.records) ∧
        submission.value.session.transcript.entries =
          completed.session.transcript.entries ++ completed.inbox.queued.map Entry.logged ++
            Session.submissionEntries token outcome stored.value.1) ∧
      (¬ alone → (∀ call, completed.runs? ≠ some (command, call)) ∧
        (spared ∨ blank → ∀ body,
          (completed.withCommands (registry.withBody token body)).step (.act .submit) =
            (fun next : Console => next.withCommands (registry.withBody token body)) <$>
              submission)) := by
  intro token named blank alone spared
  have hblank : blank ↔ Invocation.isBlankLine token = true := Invocation.isBlankLine_iff.symm
  have hresolve : registry.resolve? token = some (command, ⟨token, []⟩) ↔ alone := by
    rw [resolve?_token_iff hbound, ← Bool.not_eq_true, ← hblank]
  have hbare : blank → ¬ registry.DependsOn token token :=
    fun h => not_dependsOn_of_blank (hblank.mp h)
  have hnever : spared → ¬ named → ∀ line, ¬ registry.DependsOn token line :=
    fun hspared hspace _ =>
      not_dependsOn (fun _ _ hcall => token_ne_of_space (not_not.mp hspace) hcall) hspared
  refine ⟨fun line => rfl, exists_resolve?_iff hbound, hresolve, ⟨fun hspace => ?_, fun h => ?_⟩,
    ⟨hbare, hnever⟩, ?_⟩
  · exact ⟨_, dependsOn_of_resolve? (resolve?_join_token hbound hspace)⟩
  · exact dependsOn_of_resolve? (hresolve.mpr h)
  rintro console rfl hv hsuggest completed submission
  obtain ⟨htext, hvisible, hregistry, hruns⟩ := Console.runs?_of_suggest hv hsuggest
  refine ⟨htext, hruns ▸ hresolve, fun h reply hreply => ?_, fun h => ⟨fun call hcall => ?_, ?_⟩⟩
  · have hcompleted := hresolve.mpr h
    rw [← hregistry] at hcompleted hreply
    exact Console.submission_of_resolve? hvisible htext hcompleted hreply
  · rw [hruns] at hcall
    obtain ⟨hspace, hfilled⟩ := spelled_of_resolve?_token hcall
    exact h ⟨hspace, fun hbl => absurd (hblank.mp hbl) (hfilled ▸ Bool.false_ne_true)⟩
  · intro hapart body
    have hfree : ¬ console.session.registry.DependsOn token token := by
      by_cases hbl : blank
      · exact hbare hbl
      · exact hnever (hapart.resolve_right hbl) (fun hspace => h ⟨hspace, hbl⟩) token
    refine Console.step_submit_withCommands ?_
    rw [hregistry, htext]
    exact congrArg (Option.getD · unanswered) (not_not.mp fun hne => hfree ⟨body, hne⟩)

/-- A completed token with a space runs nothing, one with a tab alone runs only with an argument
behind it, and one that is a word runs its command. The first has no part in any dispatch until a
command is registered that looks it up. -/
theorem reaches_unspaced_completed :
    let save := Scripted.command ⟨"Save", "save all", "", ""⟩ .silent
    let blank := Scripted.command ⟨"Blank", "\t", "", ""⟩ .silent
    let again := Scripted.command ⟨"Again", "a", "", ""⟩ .redispatch
    let backup : Command := ⟨⟨"Backup", "b", "", ""⟩, fun _ => .invoking "save all" []⟩
    let registry := (empty.registerAll [save, blank, again]).value
    let larger := (registry.register backup).value.2
    let console := fun typed : String =>
      (⟨{ Session.fresh ⟨5, 1⟩ registry with visible := true, field := .ofText typed },
        .empty, none⟩ : Console)
    let completed := fun typed => ((console typed).step (.act .complete)).value
    save ∈ registry.commands ∧ blank ∈ registry.commands ∧ again ∈ registry.commands ∧
      (completed "S").session.field.text = "save all" ∧
      (∀ call, (completed "S").runs? ≠ some (save, call)) ∧
      (¬ ∃ line, registry.DependsOn "save all" line) ∧ larger.DependsOn "save all" "b" ∧
      (∃ line call, registry.resolve? line = some (blank, call)) ∧
      registry.resolve? "\t" ≠ some (blank, ⟨"\t", []⟩) ∧
      (completed "A").runs? = some (again, ⟨"a", []⟩) := by
  intro save blank again backup registry larger console completed
  have hcommands : registry.commands = [save, blank, again] := rfl
  have hsave : save ∈ registry.commands := List.mem_of_getElem? (i := 0) rfl
  have hblank : blank ∈ registry.commands := List.mem_of_getElem? (i := 1) rfl
  have hagain : again ∈ registry.commands := List.mem_of_getElem? (i := 2) rfl
  have hspared : ∀ other ∈ registry.commands, other.Spares save.token := by
    rw [hcommands, List.forall_mem_cons, List.forall_mem_cons, List.forall_mem_singleton]
    exact ⟨Scripted.spares _ _ _, Scripted.spares _ _ _, Scripted.spares _ _ _⟩
  have hbackup : larger.resolve? "b" = some (backup, ⟨"b", []⟩) := rfl
  obtain ⟨-, -, -, -, ⟨-, hnever⟩, hspaced⟩ := reaches_unspaced hsave
  obtain ⟨-, htab, hbare, -⟩ := reaches_unspaced hblank
  obtain ⟨-, -, -, -, -, hword⟩ := reaches_unspaced hagain
  obtain ⟨htext, -, -, hruns⟩ := hspaced (console "S") rfl rfl (by decide)
  obtain ⟨-, hcompleted, -⟩ := hword (console "A") rfl rfl (by decide)
  exact ⟨hsave, hblank, hagain, htext, (hruns fun h => h.1 (by decide)).1,
    fun ⟨line, h⟩ => hnever hspared (fun h => h (by decide)) line h,
    dependsOn_of_invoking hbackup (by decide) rfl rfl, htab.mpr (by decide),
    fun h => (hbare.mp h).2 (List.all_eq_true.mp (by decide)),
    hcompleted.mpr ⟨by decide, fun h => absurd (h 'a' (by decide)) (by decide)⟩⟩

end Registry

end CommandConsole
