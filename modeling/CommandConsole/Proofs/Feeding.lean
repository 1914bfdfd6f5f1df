import CommandConsole.Proofs.Converging
import CommandConsole.Proofs.Field
import CommandConsole.Proofs.Polling
import CommandConsole.Proofs.Scripting
import CommandConsole.Proofs.Streaming

/-!
# Lines that are typed

A line of input without names of keys is a text and one key behind it. For a visible console it
makes no difference whether the text is typed character by character, with a poll before each, or
put into the input field behind what is there: the caret stands at the end, typing records nothing,
and the first poll shows all that waits. A hidden console ignores every key of such a line.

Results:
* `stepsOfLine_entered`, `stepsOfLine_completed`: the keys of a line without names.
* `run_typing_act`: **typing a text and then acting is acting on the longer text.**
* `run_of_hidden`: a hidden console polls.
* `feeding_is_typing`: **what a line without names does to a console that was started.**
-/

namespace CommandConsole

open Log KeyScript

namespace Host

variable {line text : String}

theorem stepsOfLine_of_ok {keys : List Key} (h : KeyScript.keys line = .ok keys) :
    stepsOfLine line = keys.map Step.key := by
  rw [stepsOfLine, h]

/-- The keys that type a text, and one more. -/
theorem map_key_typing (text : String) (last : Key) :
    (text.toList.map Key.char ++ [last]).map Step.key = Step.typing text ++ [.act last.action] := by
  rw [List.map_append, List.map_map]
  rfl

/-- A line without names that does not ask for completion is typed and submitted. -/
theorem stepsOfLine_entered (h : ¬ Marked line) (htab : ¬ EndsInTab line) :
    stepsOfLine line = Step.typing line ++ [.act .submit] := by
  have hkeys : KeyScript.keys line = .ok (Script.entered line).keys := keys_entered h htab
  rw [stepsOfLine_of_ok hkeys]
  exact map_key_typing line .enter

/-- A line without names that asks for completion is typed up to there and completed. -/
theorem stepsOfLine_completed (h : ¬ Marked (text ++ "\\tab")) :
    stepsOfLine (text ++ "\\tab") = Step.typing text ++ [.act .complete] := by
  have hkeys : KeyScript.keys (text ++ "\\tab") = .ok (Script.completed text).keys :=
    keys_completed h
  rw [stepsOfLine_of_ok hkeys]
  exact map_key_typing text .tab

/-- A line without names types a text and does one thing more, which is not to show or hide. -/
theorem exists_stepsOfLine_eq (h : ¬ Marked line) :
    ∃ text action, stepsOfLine line = Step.typing text ++ [.act action] ∧
      action ≠ .toggleVisibility := by
  by_cases htab : EndsInTab line
  · obtain ⟨text, rfl⟩ := exists_completed_of_endsInTab htab
    exact ⟨text, .complete, stepsOfLine_completed h, Action.noConfusion⟩
  · exact ⟨line, .submit, stepsOfLine_entered h htab, Action.noConfusion⟩

end Host

namespace Console

variable {console : Console}

/-- **Typing a text and then acting is acting on the longer text**, with a poll for every character
or with one. -/
theorem run_typing_act (h : console.session.field.AtEnd) (hv : console.session.visible = true)
    (text : String) (action : Action) :
    console.run (Step.typing text ++ [.act action]) =
      (console.typed (console.session.field.text ++ text)).act action := by
  obtain ⟨chars, rfl⟩ : ∃ chars, text = String.ofList chars := ⟨text.toList, by simp⟩
  unfold Step.typing
  rw [String.toList_ofList]
  induction chars generalizing console with
  | nil =>
    have hsame : console.typed (console.session.field.text ++ String.ofList []) = console := by
      rw [String.ofList_nil, String.append_empty, typed_text h]
    rw [hsame]
    exact bind_pure (console.act action)
  | cons c chars ih =>
    let next := console.poll.2.typed (console.session.field.text.push c)
    have hstep : console.step (.act (.insert c)) = pure next := act_insert h hv c
    have htext : console.session.field.text.push c ++ String.ofList chars =
        console.session.field.text ++ String.ofList (c :: chars) := by
      apply String.toList_injective
      simp
    -- What waited was shown by the first character, or is shown by the action.
    have hpolled : (console.poll.2.typed (console.session.field.text ++
        String.ofList (c :: chars))).SameOncePolled
          (console.typed (console.session.field.text ++ String.ofList (c :: chars))) :=
      poll_of_empty rfl
    have hnext : next.session.field.AtEnd := rfl
    have hrest := ih hnext hv
    rw [List.map_cons, List.cons_append, run_cons, hstep, pure_bind, hrest, ← hpolled.act_eq,
      ← htext]
    rfl

/-- **A hidden console polls**, whatever else it is asked to do but to show itself. -/
theorem run_of_hidden (hv : console.session.visible = false) {actions : List Action}
    (hne : actions ≠ []) (h : ∀ action ∈ actions, action ≠ .toggleVisibility) :
    console.run (actions.map Step.act) = pure console.poll.2 := by
  induction actions generalizing console with
  | nil => exact absurd rfl hne
  | cons action actions ih =>
    obtain ⟨haction, hactions⟩ := List.forall_mem_cons.mp h
    have hstep : console.step (.act action) = pure console.poll.2 := act_of_hidden hv haction
    rw [List.map_cons, run_cons, hstep, pure_bind]
    cases actions with
    | nil => rfl
    | cons next actions =>
      have hpolled : console.poll.2.session.visible = false := hv
      rw [ih hpolled (List.cons_ne_nil _ _) hactions, poll_poll]

theorem run_typing_of_hidden (hv : console.session.visible = false) (text : String)
    {action : Action} (h : action ≠ .toggleVisibility) :
    console.run (Step.typing text ++ [.act action]) = pure console.poll.2 := by
  have hactions : Step.typing text ++ [.act action] =
      (text.toList.map Action.insert ++ [action]).map Step.act := by
    rw [List.map_append, List.map_map]
    rfl
  rw [hactions]
  refine run_of_hidden hv (by simp) fun other hmem => ?_
  rcases List.mem_append.mp hmem with hinsert | hlast
  · obtain ⟨c, -, rfl⟩ := List.mem_map.mp hinsert
    exact Action.noConfusion
  · rw [List.mem_singleton.mp hlast]
    exact h

/-- Typing does not show or hide a console. -/
theorem visible_run_typing_act (console : Console) (text : String) {action : Action}
    (h : action ≠ .toggleVisibility) :
    (console.run (Step.typing text ++ [.act action])).value.session.visible =
      console.session.visible := by
  have hcount : List.count (Step.act .toggleVisibility) (Step.typing text ++ [.act action]) = 0 :=
    List.count_eq_zero.mpr (by simp [Step.typing, h.symm])
  rw [visible_run, hcount]
  exact Bool.xor_false _

/-- Submitting nothing polls. -/
theorem act_submit_of_empty (h : console.session.field.text = "") :
    console.act .submit = pure console.poll.2 := by
  have hempty : (console.session.receive console.inbox.queued).field.text = "" := h
  refine act_of_quiet ?_
  by_cases hv : (console.session.receive console.inbox.queued).visible = true
  · rw [Session.act_of_visible hv (by simp)]
    exact Session.submit_of_empty hempty
  · exact Session.act_of_hidden (Bool.eq_false_iff.mpr hv) (by simp)

/-- Submitting a line dispatches it once, shows and stores it, and empties the input field. -/
theorem act_submit_of_ne_empty (hv : console.session.visible = true)
    (h : console.session.field.text ≠ "") :
    let line := console.session.field.text
    let dispatched := console.session.registry.dispatch line
    let stored := console.session.history.store line
    let shown := console.poll.2.session
    (console.act .submit).records = dispatched.records ++
        ((Session.recordFault dispatched.value).records ++ stored.records) ∧
      (console.act .submit).value.session = { shown with
        field := .empty
        history := stored.value.2
        transcript := shown.transcript.append
          (Session.submissionEntries line dispatched.value stored.value.1)
        quitRequested := shown.quitRequested || Session.asksToQuit dispatched.value } := by
  intro line dispatched stored shown
  have hne : shown.field.text ≠ "" := h
  have hnot : Action.submit ≠ .toggleVisibility := Action.noConfusion
  obtain ⟨hsession, hrecords⟩ := step_act_of_visible hv hnot
  exact ⟨hrecords.trans (Session.records_submit hne), hsession.trans (Session.value_submit hne)⟩

/-- Completing changes nothing but the text. -/
theorem act_complete (h : console.session.field.AtEnd) (hv : console.session.visible = true) :
    console.act .complete = pure (console.poll.2.typed
      (Completion.completed console.session.config.minChars console.session.registry.tokens
        console.session.field.text)) := by
  have hvisible : console.poll.2.session.visible = true := hv
  refine act_of_quiet ?_
  refine (Session.act_of_visible hvisible (by simp)).trans ?_
  show pure console.poll.2.session.complete = _
  unfold Session.complete Completion.completed
  simp only [session_poll, Session.config_receive, Session.registry_receive, Session.field_receive]
  cases Completion.suggest console.session.config.minChars console.session.registry.tokens
    console.session.field.text with
  | none =>
    have hsame : console.poll.2.typed console.session.field.text = console.poll.2 := typed_text h
    exact congrArg (fun same : Console => pure same.session) hsame.symm
  | some token => rfl

/-! ## From the start -/

variable {config : Config} {registry : Registry} {inbox : Inbox} {forwarder : Option Forwarder}

/-- **What a line without names does to a console, after any run from its start.** All of its
characters are typed, backquotes and control characters among them, and one key comes behind them.
If the line does not ask for completion, that key submits what was pending with the line behind it:
it is dispatched once, its outcome shown, and the line stored; or nothing happens if it is empty. If
the line asks for completion, what was pending with the text behind it is completed, and nothing
else changes. A hidden console shows what waits and ignores the line. No such line shows or hides
the console, and the host program polls once more behind it. -/
theorem feeding_is_typing (hstart : (start config registry inbox forwarder).value = .ok console)
    (steps : List Step) {line : String} (hline : ¬ Marked line) :
    let before := (console.run steps).value
    let pending := before.session.field.text
    let fed := before.run (Host.stepsOfLine line)
    (∃ keys, KeyScript.keys line = .ok keys ∧ Host.stepsOfLine line = keys.map Step.key) ∧
    (¬ EndsInTab line →
      Host.stepsOfLine line = Step.typing line ++ [.act .submit] ∧
      (before.session.visible = true →
        fed = (before.typed (pending ++ line)).act .submit ∧
        (pending ++ line = "" → fed = pure before.poll.2) ∧
        (pending ++ line ≠ "" →
          let dispatched := registry.dispatch (pending ++ line)
          let stored := before.session.history.store (pending ++ line)
          let shown := before.poll.2.session
          fed.records = dispatched.records ++
              ((Session.recordFault dispatched.value).records ++ stored.records) ∧
            fed.value.session = { shown with
              field := .empty
              history := stored.value.2
              transcript := shown.transcript.append
                (Session.submissionEntries (pending ++ line) dispatched.value stored.value.1)
              quitRequested := shown.quitRequested || Session.asksToQuit dispatched.value }))) ∧
    (∀ text, line = text ++ "\\tab" →
      Host.stepsOfLine line = Step.typing text ++ [.act .complete] ∧
      (before.session.visible = true →
        fed = (before.typed (pending ++ text)).act .complete ∧
        fed = pure (before.poll.2.typed
          (Completion.completed config.minChars registry.tokens (pending ++ text))))) ∧
    (before.session.visible = false →
      fed = pure before.poll.2 ∧ fed.value.session.field = before.session.field ∧
        fed.value.session.history = before.session.history ∧
        fed.value.session.quitRequested = before.session.quitRequested) ∧
    fed.value.session.visible = before.session.visible ∧
    ∀ screen, ((⟨before, screen⟩ : Host).line line).2.console = fed.value.poll.2 := by
  intro before pending fed
  have hat : before.session.field.AtEnd := (settled_run (settled_start hstart) steps).atEnd
  obtain ⟨-, rfl⟩ := start_eq_ok_iff.mp hstart
  obtain ⟨hconfig, hregistry, -⟩ :
      before.session.config = config ∧ before.session.registry = registry ∧
        before.forwarder = forwarder := setup_run _ steps
  have hsplit := Host.exists_stepsOfLine_eq hline
  refine ⟨⟨_, keys_of_not_marked hline, Host.stepsOfLine_of_ok (keys_of_not_marked hline)⟩,
    fun htab => ?_, fun text htext => ?_, fun hv => ?_, ?_, fun screen => ?_⟩
  · have hsteps := Host.stepsOfLine_entered hline htab
    refine ⟨hsteps, fun hv => ?_⟩
    let typed := before.typed (pending ++ line)
    have hfed : fed = typed.act .submit :=
      (congrArg before.run hsteps).trans (run_typing_act hat hv line .submit)
    refine ⟨hfed, fun hempty => ?_, fun hne => ?_⟩
    · obtain ⟨hpending, -⟩ := String.append_eq_empty_iff.mp hempty
      have htyped : typed = before :=
        (congrArg before.typed (hempty.trans hpending.symm)).trans (typed_text hat)
      rw [hfed, htyped]
      exact act_submit_of_empty hpending
    · rw [hfed, ← hregistry]
      exact act_submit_of_ne_empty hv hne
  · subst htext
    have hsteps := Host.stepsOfLine_completed hline
    refine ⟨hsteps, fun hv => ?_⟩
    have hfed : fed = (before.typed (pending ++ text)).act .complete :=
      (congrArg before.run hsteps).trans (run_typing_act hat hv text .complete)
    refine ⟨hfed, ?_⟩
    rw [hfed, ← hconfig, ← hregistry]
    exact act_complete rfl hv
  · obtain ⟨text, action, hsteps, haction⟩ := hsplit
    have hfed : fed = pure before.poll.2 :=
      (congrArg before.run hsteps).trans (run_typing_of_hidden hv text haction)
    rw [hfed]
    exact ⟨rfl, rfl, rfl, rfl⟩
  · obtain ⟨text, action, hsteps, haction⟩ := hsplit
    show (before.run _).value.session.visible = _
    rw [hsteps, visible_run_typing_act before text haction]
  · exact Host.console_line ⟨before, screen⟩ line

/-- A backquote and a bell are typed behind what is pending, and what is typed behind it can be
completed with it; an empty line polls, and so does a line for a hidden console. -/
theorem feeding_is_typing_controls :
    let registry := (Registry.empty.registerAll Builtin.all).value
    ∃ console, (start .default registry ⟨[⟨.error, "late"⟩]⟩ none).value = .ok console ∧
      let shown := (console.run [.act .toggleVisibility]).value
      let pending := (console.run [.act .toggleVisibility, .act (.insert 'q')]).value
      let controls := "`\x07"
      ¬ Marked controls ∧ ¬ EndsInTab controls ∧ ¬ Marked "ui\\tab" ∧ ¬ Marked "" ∧
        console.session.visible = false ∧ pending.session.visible = true ∧
        Host.stepsOfLine controls = Step.typing controls ++ [.act .submit] ∧
        pending.run (Host.stepsOfLine controls) = (pending.typed "q`\x07").act .submit ∧
        (pending.run (Host.stepsOfLine controls)).value.session.visible = true ∧
        (pending.run (Host.stepsOfLine controls)).records = [] ∧
        pending.run (Host.stepsOfLine "ui\\tab") = pure (pending.poll.2.typed "quit") ∧
        shown.run (Host.stepsOfLine "") = pure shown.poll.2 ∧
        console.run (Host.stepsOfLine controls) = pure console.poll.2 := by
  intro registry
  have hstart := start_of_valid (show Config.default.validate = .ok () from rfl) registry
    ⟨[⟨.error, "late"⟩]⟩ none
  have hcontrols : ¬ Marked "`\x07" := by decide
  have hcompleted : ¬ Marked "ui\\tab" := by decide
  have hblank : ¬ Marked "" := by decide
  have hentered : ¬ EndsInTab "`\x07" := by decide
  have hquit : Completion.completed Config.default.minChars registry.tokens "qui" = "quit" := by
    decide +kernel
  obtain ⟨-, -, -, hhidden, -⟩ := feeding_is_typing hstart [] hcontrols
  obtain ⟨-, hempty, -⟩ := feeding_is_typing hstart [.act .toggleVisibility] hblank
  obtain ⟨-, hsubmit, -, -, hvisible, -⟩ :=
    feeding_is_typing hstart [.act .toggleVisibility, .act (.insert 'q')] hcontrols
  obtain ⟨-, -, htab, -⟩ :=
    feeding_is_typing hstart [.act .toggleVisibility, .act (.insert 'q')] hcompleted
  obtain ⟨hsteps, hfed⟩ := hsubmit hentered
  obtain ⟨htyped, -, hstored⟩ := hfed rfl
  obtain ⟨-, hcomplete⟩ := htab "ui" rfl
  refine ⟨_, hstart, hcontrols, hentered, hcompleted, hblank, rfl, rfl, hsteps, htyped,
    hvisible.trans rfl, ?_, ?_, ((hempty (by decide)).2 rfl).2.1 rfl, (hhidden rfl).1⟩
  · exact (hstored (by decide)).1.trans (by decide +kernel)
  · exact (hcomplete rfl).2.trans (congrArg (fun text => pure (Console.typed _ text)) hquit)

end Console

end CommandConsole
