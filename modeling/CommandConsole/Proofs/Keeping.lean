import CommandConsole.Proofs.Run
import CommandConsole.Proofs.Walking

/-!
# What the history of a console keeps

A step uses the history in three ways: it stores the line that it submits, it recalls a line for a
visible console, or it leaves the history alone. `Console.history_cases` is that inversion, and what
can change when is read off it.

The transcript echoes every submitted line as it is, so the stored lines are the last of the echoed
ones. As nothing but a recall moves the cursor between two submissions, the first recall after a
submission brings back the submitted line, whatever was typed meanwhile.

Results:
* `Console.history_cases`: what a step does to the history.
* `Console.slots_step`, `Console.history_step_of_still`: what a step leaves alone.
* `Console.echoes_run`: **the echoed lines are the submitted ones.**
* `Console.history_run_of_idle`, `Console.recall_submission`: the first recall after a submission.
* `Console.submission_step`: what a submission comes to.
* `Console.keeps_submissions`: **the history of a console along any run from its start.**
-/

namespace CommandConsole

open Log

/-- The action that recalls a line. -/
def History.Recall.action : History.Recall → Action
  | older => .recallOlder
  | newer => .recallNewer

/-! ## Echoes -/

/-- The line that an entry echoes, if it is an echo. -/
def Entry.echo? : Entry → Option String
  | echoed line => some line
  | _ => none

/-- The lines that were echoed, in order. -/
def Transcript.echoes (transcript : Transcript) : List String :=
  transcript.entries.filterMap Entry.echo?

theorem filterMap_echo_logged (messages : List Message) :
    (messages.map Entry.logged).filterMap Entry.echo? = [] := by
  induction messages with
  | nil => rfl
  | cons message messages ih => exact ih

theorem filterMap_echo_submissionEntries (line : String) (outcome : Outcome)
    (result : StoreResult) :
    (Session.submissionEntries line outcome result).filterMap Entry.echo? = [line] := by
  unfold Session.submissionEntries
  split <;> rfl

namespace Console

variable {console : Console}

/-- **A step echoes the line that it submits, as it is, and nothing else.** -/
theorem echoes_step (console : Console) (step : Step) :
    (console.step step).value.session.transcript.echoes =
      console.session.transcript.echoes ++ (console.submitted? step).toList := by
  have hshown : (console.shown step).filterMap Entry.echo? = (console.submitted? step).toList := by
    cases step with
    | act action =>
      simp only [shown, Session.shown, submitted?]
      cases console.session.submitted? action with
      | none => rfl
      | some line => exact filterMap_echo_submissionEntries line _ _
    | poll | send | log => rfl
  unfold Transcript.echoes
  rw [entries_step, List.filterMap_append, List.filterMap_append, filterMap_echo_logged, hshown,
    List.append_nil]

theorem echoes_run (console : Console) (steps : List Step) :
    (console.run steps).value.session.transcript.echoes =
      console.session.transcript.echoes ++ console.submissions steps :=
  (run_collect (P := fun lines next => next.session.transcript.echoes =
      console.session.transcript.echoes ++ lines)
    (fun lines next step h => by rw [echoes_step, h, List.append_assoc])
    (List.append_nil _).symm steps)

/-- No empty line is submitted. -/
theorem submissions_ne_empty (console : Console) (steps : List Step) :
    ∀ line ∈ console.submissions steps, line ≠ "" := by
  have hnone : ∀ line ∈ ([] : List String), line ≠ "" := by simp
  refine run_collect (P := fun lines _ => ∀ line ∈ lines, line ≠ "")
    (fun lines next step h line hmem => ?_) hnone steps
  rcases List.mem_append.mp hmem with hold | hnew
  · exact h line hold
  · cases step with
    | act action =>
      exact (Session.submitted?_eq_some_iff.mp (Option.mem_toList.mp hnew)).2.2.2
    | poll | send | log => cases hnew

/-! ## One step -/

/-- **What a step does to the history:** it stores the submitted line, it recalls a line for a
visible console, or it does nothing. -/
theorem history_cases (console : Console) (step : Step) :
    (∃ line, console.submitted? step = some line ∧
      (console.step step).value.session.history =
        (console.session.history.store line).value.2) ∨
    (∃ move : History.Recall, console.submitted? step = none ∧
      console.session.visible = true ∧ step = .act move.action ∧
        (console.step step).value.session.history = (console.session.history.recalled move).2) ∨
    (console.submitted? step = none ∧
      (console.step step).value.session.history = console.session.history) := by
  cases step with
  | act action =>
    -- The messages that are shown first concern neither the history nor what an action does to it.
    have hhistory : (console.step (.act action)).value.session.history =
        console.session.history.run (console.session.historySteps action) :=
      Session.history_act (console.session.receive console.inbox.queued) action
    rw [submitted?, hhistory]
    cases hs : console.session.submitted? action with
    | some line =>
      obtain ⟨rfl, -⟩ := Session.submitted?_eq_some_iff.mp hs
      refine .inl ⟨line, rfl, ?_⟩
      rw [Session.historySteps, hs]
      rfl
    | none =>
      refine .inr ?_
      by_cases hv : console.session.visible = true
      · cases action with
        | recallOlder =>
          refine .inl ⟨.older, rfl, hv, rfl, ?_⟩
          rw [Session.historySteps, if_pos hv]
          rfl
        | recallNewer =>
          refine .inl ⟨.newer, rfl, hv, rfl, ?_⟩
          rw [Session.historySteps, if_pos hv]
          rfl
        | submit =>
          refine .inr ⟨rfl, ?_⟩
          rw [Session.historySteps, hs]
          rfl
        | toggleVisibility | complete | insert | deleteBack => exact .inr ⟨rfl, rfl⟩
      · rw [Bool.not_eq_true] at hv
        refine .inr ⟨rfl, ?_⟩
        rw [Session.historySteps_of_hidden hv]
        rfl
  | poll | send | log => exact .inr (.inr ⟨rfl, rfl⟩)

/-- **Only submissions write slots.** -/
theorem slots_step {step : Step} (h : console.submitted? step = none) :
    (console.step step).value.session.history.slots = console.session.history.slots ∧
      (console.step step).value.session.history.next = console.session.history.next := by
  rcases history_cases console step with ⟨line, hs, -⟩ | ⟨move, -, -, -, hr⟩ | ⟨-, hk⟩
  · rw [h] at hs
    cases hs
  · obtain ⟨cursor, hcursor⟩ := History.exists_recalled_eq console.session.history move
    rw [hr, hcursor]
    exact ⟨rfl, rfl⟩
  · rw [hk]
    exact ⟨rfl, rfl⟩

/-- **Only submissions and the recalls of a visible console move the cursor.** -/
theorem history_step_of_still {step : Step} (h : console.submitted? step = none)
    (hr : console.session.visible = true →
      step ≠ .act .recallOlder ∧ step ≠ .act .recallNewer) :
    (console.step step).value.session.history = console.session.history := by
  rcases history_cases console step with ⟨line, hs, -⟩ | ⟨move, -, hv, rfl, -⟩ | ⟨-, hk⟩
  · rw [h] at hs
    cases hs
  · obtain ⟨holder, hnewer⟩ := hr hv
    cases move with
    | older => exact absurd rfl holder
    | newer => exact absurd rfl hnewer
  · exact hk

/-! ## Between a submission and a recall -/

/-- A step that neither submits nor recalls, visible or not. -/
def Idle (step : Step) : Prop :=
  step ≠ .act .submit ∧ step ≠ .act .recallOlder ∧ step ≠ .act .recallNewer

theorem Idle.submitted?_eq {step : Step} (h : Idle step) : console.submitted? step = none := by
  cases step with
  | act action => exact Session.submitted?_of_ne fun ha => h.1 (congrArg Step.act ha)
  | poll | send | log => rfl

/-- **Typing, completing, hiding, polling and messages leave the history alone.** -/
theorem history_run_of_idle {steps : List Step} (h : ∀ step ∈ steps, Idle step) :
    (console.run steps).value.session.history = console.session.history := by
  induction steps generalizing console with
  | nil => rfl
  | cons step steps ih =>
    obtain ⟨hstep, hrest⟩ := List.forall_mem_cons.mp h
    exact (ih hrest).trans (history_step_of_still hstep.submitted?_eq fun _ => hstep.2)

/-- A visible console recalls what its history shows, over whatever was typed. -/
theorem session_recallOlder {line : String} (hv : console.session.visible = true)
    (h : console.session.history.older.1 = some line) :
    (console.step (.act .recallOlder)).value.session =
      { console.session.receive console.inbox.queued with
        history := console.session.history.older.2
        field := .ofText line } := by
  rw [(step_act_of_visible hv (by simp)).1, Session.actVisible, Logged.value_pure,
    Session.recallOlder]
  simp only [Session.history_receive, h, Option.getD_some]

theorem history_step_of_submitted {step : Step} {line : String}
    (h : console.submitted? step = some line) :
    (console.step step).value.session.history = (console.session.history.store line).value.2 := by
  rcases history_cases console step with ⟨other, hs, hh⟩ | ⟨-, hs, -⟩ | ⟨hs, -⟩
  · rw [h, Option.some.injEq] at hs
    rw [hs, hh]
  · rw [h] at hs
    cases hs
  · rw [h] at hs
    cases hs

/-- **The first recall behind a submission brings back its line.** The history has kept the line,
and nothing in between moves the cursor. -/
theorem recall_submission {line : String}
    (hsubmit : console.submitted? (.act .submit) = some line)
    (hkept : (console.session.history.store line).value.1 = .stored)
    {between : List Step} (hidle : ∀ step ∈ between, Idle step)
    (hv : ((console.step (.act .submit)).value.run between).value.session.visible = true) :
    let draft := ((console.step (.act .submit)).value.run between).value
    let recalled := (draft.step (.act .recallOlder)).value
    recalled.session.field = .ofText line ∧ recalled.submitted? (.act .submit) = some line := by
  intro draft recalled
  have hhistory : draft.session.history = (console.session.history.store line).value.2 :=
    (history_run_of_idle hidle).trans (history_step_of_submitted hsubmit)
  have holder : draft.session.history.older.1 = some line := by
    rw [hhistory]
    exact History.older_of_stored hkept
  have hrecalled : recalled.session = _ := session_recallOlder hv holder
  have hne : line ≠ "" := (Session.submitted?_eq_some_iff.mp hsubmit).2.2.2
  rw [submitted?, hrecalled]
  exact ⟨rfl, Session.submitted?_eq_some_iff.mpr ⟨rfl, hv, rfl, hne⟩⟩

/-- **What submitting a line comes to:** the line is echoed as it is, dispatched once, and
stored. -/
theorem submission_step {line : String} (h : console.submitted? (.act .submit) = some line) :
    let outcome := (console.session.registry.dispatch line).value
    let stored := (console.session.history.store line).value
    (console.step (.act .submit)).value.session.transcript.entries =
        console.session.transcript.entries ++ console.inbox.queued.map Entry.logged ++
          Session.submissionEntries line outcome stored.1 ∧
      (console.step (.act .submit)).records =
        (console.session.registry.dispatch line).records ++
          ((Session.recordFault outcome).records ++
            (console.session.history.store line).records) ∧
      (console.step (.act .submit)).value.session.history = stored.2 := by
  intro outcome stored
  refine ⟨?_, ?_, history_step_of_submitted h⟩
  · rw [entries_step, shown, Session.shown, show console.session.submitted? .submit = _ from h]
    rfl
  · obtain ⟨-, hv, rfl, hne⟩ := Session.submitted?_eq_some_iff.mp h
    rw [(step_act_of_visible hv (by simp)).2]
    exact Session.records_submit hne

/-! ## From the start -/

variable {config : Config} {registry : Registry} {inbox : Inbox} {forwarder : Option Forwarder}

/-- **The history of a console along any run from its start.** Only a submission writes slots, and
only a submission or a recall of a visible console moves the cursor. The size is the configured one.
What is stored are the last of the submitted lines, which are the echoed ones and never empty. And
behind a submission that the history kept, whatever else happens but submissions and recalls, the
first recall brings the line back, and submitting that does the same once more. -/
theorem keeps_submissions
    (hstart : (start config registry inbox forwarder).value = .ok console) (steps : List Step) :
    let before := (console.run steps).value
    let lines := console.submissions steps
    let history := before.session.history
    (∀ step, before.submitted? step = none →
      (before.step step).value.session.history.slots = history.slots ∧
        (before.step step).value.session.history.next = history.next) ∧
    (∀ step, before.submitted? step = none →
      (before.session.visible = true → step ≠ .act .recallOlder ∧ step ≠ .act .recallNewer) →
        (before.step step).value.session.history = history) ∧
    before.session.config = config ∧ config.historyEnabled = history.isEnabled ∧
    history.capacity = config.historyCapacity ∧
    before.session.transcript.echoes = lines ∧ (∀ line ∈ lines, line ≠ "") ∧
    (0 < config.historyCapacity →
      history.stored = lines.drop (lines.length - lines.length % config.historyCapacity) ∧
      ∀ line, before.submitted? (.act .submit) = some line →
        (history.store line).value.1 ≠ .cleared →
        ∀ between, (∀ step ∈ between, Idle step) →
          let draft := ((before.step (.act .submit)).value.run between).value
          draft.session.visible = true →
          let recalled := (draft.step (.act .recallOlder)).value
          let again := recalled.step (.act .submit)
          let outcome := (registry.dispatch line).value
          let stored := recalled.session.history.store line
          recalled.session.field.text = line ∧ recalled.session.field.caret = line.length ∧
            again.value.session.transcript.entries =
              recalled.session.transcript.entries ++ recalled.inbox.queued.map Entry.logged ++
                Session.submissionEntries line outcome stored.value.1 ∧
            again.records = (registry.dispatch line).records ++
              ((Session.recordFault outcome).records ++ stored.records) ∧
            again.value.session.history = stored.value.2) := by
  intro before lines history
  have hholds : History.Holds config.historyCapacity lines history :=
    holds_run (holds_start hstart) steps
  obtain ⟨-, rfl⟩ := start_eq_ok_iff.mp hstart
  have hsetup : before.session.config = config ∧ before.session.registry = registry ∧
      before.forwarder = forwarder := setup_run _ steps
  refine ⟨fun step => slots_step, fun step => history_step_of_still, hsetup.1, ?_,
    hholds.capacity_eq, echoes_run _ steps, submissions_ne_empty _ steps, fun hpos => ⟨?_, ?_⟩⟩
  · rw [History.isEnabled, Config.historyEnabled, ← hholds.capacity_eq, History.capacity]
    cases history.slots <;> rfl
  · rw [hholds.stored_eq, History.recent, if_neg (Nat.ne_of_gt hpos)]
  · intro line hsubmit hkept between hidle draft hv recalled again outcome stored
    have hstored : (history.store line).value.1 = .stored := by
      rw [hholds.result_store, History.resultAfter, if_neg (Nat.ne_of_gt hpos)] at hkept ⊢
      split
      · next hd => exact absurd (if_pos hd) hkept
      · rfl
    obtain ⟨hfield, hagain⟩ := recall_submission hsubmit hstored hidle hv
    obtain ⟨hentries, hrecords, hhistory⟩ := submission_step hagain
    -- The commands are still those that the console was opened with.
    have hregistry : recalled.session.registry = registry :=
      calc recalled.session.registry
        _ = draft.session.registry := (setup_step draft _).2.1
        _ = (before.step (.act .submit)).value.session.registry := (setup_run _ between).2.1
        _ = before.session.registry := (setup_step before _).2.1
        _ = registry := hsetup.2.1
    rw [hregistry] at hentries hrecords
    exact ⟨congrArg InputField.text hfield, congrArg InputField.caret hfield, hentries, hrecords,
      hhistory⟩

/-- A line comes back over a draft that was typed after the console had been hidden, while a hidden
console recalls nothing. -/
theorem keeps_submissions_over_draft :
    ∃ console, (start .default .empty ⟨[]⟩ none).value = .ok console ∧
      console.submitted? (.act .recallOlder) = none ∧
      (console.session.visible = true →
        Step.act .recallOlder ≠ .act .recallOlder ∧ Step.act .recallOlder ≠ .act .recallNewer) ∧
      (console.step (.act .recallOlder)).value.session.history = console.session.history ∧
      let before := (console.run [.act .toggleVisibility, .act (.insert 'é')]).value
      let between : List Step := [.act (.insert 'x'), .act .toggleVisibility, .poll,
        .act .toggleVisibility, .act (.insert 'y')]
      let draft := ((before.step (.act .submit)).value.run between).value
      0 < Config.default.historyCapacity ∧ before.submitted? (.act .submit) = some "é" ∧
        (before.session.history.store "é").value.1 ≠ .cleared ∧
        (∀ step ∈ between, Idle step) ∧ draft.session.visible = true ∧
        draft.session.field.text = "y" ∧
        let recalled := (draft.step (.act .recallOlder)).value
        recalled.session.field.text = "é" ∧ recalled.session.field.caret = 1 ∧
        (recalled.step (.act .submit)).value.session.history =
          (recalled.session.history.store "é").value.2 := by
  have hstart := start_of_valid (show Config.default.validate = .ok () from rfl) .empty ⟨[]⟩ none
  obtain ⟨-, hstill, -⟩ := keeps_submissions hstart []
  obtain ⟨-, -, -, -, -, -, -, hkeeps⟩ :=
    keeps_submissions hstart [.act .toggleVisibility, .act (.insert 'é')]
  obtain ⟨-, hrecall⟩ := hkeeps (by decide)
  obtain ⟨htext, hcaret, -, -, hagain⟩ := hrecall "é" rfl (by decide)
    [.act (.insert 'x'), .act .toggleVisibility, .poll, .act .toggleVisibility, .act (.insert 'y')]
    (by simp [Idle]) rfl
  exact ⟨_, hstart, rfl, fun hv => absurd hv Bool.false_ne_true,
    hstill _ rfl fun hv => absurd hv Bool.false_ne_true, by decide, rfl, by decide,
    by simp [Idle], rfl, rfl, htext, hcaret, hagain⟩

end Console

end CommandConsole
