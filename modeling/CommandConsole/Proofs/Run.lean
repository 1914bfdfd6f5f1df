import CommandConsole.Console
import CommandConsole.Proofs.Slots
import CommandConsole.Proofs.Trace

/-!
# Runs of a console

What one step can do, and how runs add up. `Session.act_cases` is the inversion of an action: it
shows or hides the console, submits a line, or changes the input field and the history at most.
Every other fact about a step is read off it.

`Console.collect` lists what the steps of a run yield, each in the state that it starts in, so the
counts of a run are facts about one step.

Results:
* `Session.act_cases`, `Session.history_act`, `Session.entries_act`: one action.
* `Console.run_collect`, `Console.run_keeps`: runs.
* `Console.holds_run`: the history of a console holds what is left of the submitted lines.
* `Console.start_eq_ok_iff`: what a fresh console is.
-/

namespace CommandConsole

open Log

/-- What can become of an input field at once: it keeps its text, gets another with the caret behind
it, or is edited at the caret. -/
inductive InputField.Edited (field : InputField) : InputField → Prop where
  | kept : Edited field field
  | replaced (text : String) : Edited field (.ofText text)
  | inserted (c : Char) : Edited field (field.insert c)
  | deleted : Edited field field.deleteBack

theorem forwarded_nil (forwarder : Option Forwarder) : forwarded forwarder [] = [] := by
  cases forwarder <;> rfl

theorem forwarded_append (forwarder : Option Forwarder) (first second : List Record) :
    forwarded forwarder (first ++ second) =
      forwarded forwarder first ++ forwarded forwarder second := by
  cases forwarder with
  | none => rfl
  | some forwarder => exact forwarder.messages_append first second

namespace Session

/-- The line that an action submits, if it submits one: a visible session submits what is in its
input field unless that is empty. -/
def submitted? (session : Session) (action : Action) : Option String :=
  if action = .submit ∧ session.visible = true ∧ session.field.text ≠ "" then
    some session.field.text
  else none

/-- How an action uses the history. -/
def historySteps (session : Session) (action : Action) : List History.Step :=
  match action with
  | .submit => (session.submitted? .submit).toList.map .store
  | .recallOlder => if session.visible then [.older] else []
  | .recallNewer => if session.visible then [.newer] else []
  | _ => []

/-- What an action adds to the transcript. -/
def shown (session : Session) (action : Action) : List Entry :=
  match session.submitted? action with
  | none => []
  | some line =>
    submissionEntries line (session.registry.dispatch line).value
      (session.history.store line).value.1

variable {session : Session} {action : Action} {line : String}

theorem submitted?_eq_some_iff :
    session.submitted? action = some line ↔
      action = .submit ∧ session.visible = true ∧ session.field.text = line ∧ line ≠ "" := by
  unfold submitted?
  split
  · next h =>
    rw [Option.some.injEq]
    constructor
    · rintro rfl
      exact ⟨h.1, h.2.1, rfl, h.2.2⟩
    · exact fun hl => hl.2.2.1
  · next h =>
    constructor
    · intro hl
      cases hl
    · rintro ⟨ha, hv, rfl, hne⟩
      exact absurd ⟨ha, hv, hne⟩ h

theorem submitted?_of_ne (h : action ≠ .submit) : session.submitted? action = none :=
  if_neg fun hs => h hs.1

theorem submitted?_of_hidden (h : session.visible = false) : session.submitted? action = none :=
  if_neg fun hs => by rw [h] at hs; exact absurd hs.2.1 Bool.false_ne_true

theorem historySteps_of_hidden (h : session.visible = false) :
    session.historySteps action = [] := by
  cases action <;> simp [historySteps, submitted?_of_hidden h, h]

/-- A newer line replaces the text, if there is one, and moves the cursor. -/
theorem recallNewer_eq (session : Session) :
    ∃ field, session.field.Edited field ∧
      session.recallNewer = { session with field, history := session.history.newer.2 } := by
  unfold recallNewer
  split
  · next line history h => exact ⟨_, .replaced line, by rw [h]⟩
  · next history h => exact ⟨_, .kept, by rw [h]⟩

theorem complete_eq (session : Session) :
    ∃ field, session.field.Edited field ∧ session.complete = { session with field } := by
  unfold complete
  split
  · next token _ => exact ⟨_, .replaced token, rfl⟩
  · exact ⟨_, .kept, rfl⟩

/-- **What an action can do.** It shows or hides the console; or it submits the line in the input
field; or it changes nothing but the field and the history, and records nothing. A hidden field
stays what it is. -/
theorem act_cases (session : Session) (action : Action) :
    (action = .toggleVisibility ∧ session.act action = session.toggleVisibility) ∨
    (∃ line, session.submitted? action = some line ∧ session.act action = session.submit) ∨
    (action ≠ .toggleVisibility ∧ session.submitted? action = none ∧
      ∃ field, session.field.Edited field ∧ (session.visible = false → field = session.field) ∧
        session.act action = pure { session with
          field, history := session.history.run (session.historySteps action) }) := by
  by_cases ha : action = .toggleVisibility
  · subst ha
    exact .inl ⟨rfl, act_toggleVisibility session⟩
  by_cases hv : session.visible = true
  · have hshown : ∀ field, session.visible = false → field = session.field := fun _ hh => by
      rw [hv] at hh
      exact absurd hh.symm Bool.false_ne_true
    rw [act_of_visible hv ha]
    cases action with
    | toggleVisibility => exact absurd rfl ha
    | submit =>
      by_cases ht : session.field.text = ""
      · have hnone : session.submitted? .submit = none := if_neg fun h => h.2.2 ht
        refine .inr (.inr ⟨ha, hnone, session.field, .kept, hshown _, ?_⟩)
        rw [historySteps, hnone]
        exact submit_of_empty ht
      · exact .inr (.inl ⟨session.field.text, if_pos ⟨rfl, hv, ht⟩, rfl⟩)
    | recallOlder =>
      have hedit : session.field.Edited
          (.ofText (session.history.older.1.getD session.field.text)) := .replaced _
      refine .inr (.inr ⟨ha, submitted?_of_ne (by simp), _, hedit, hshown _, ?_⟩)
      rw [historySteps, if_pos hv]
      rfl
    | recallNewer =>
      obtain ⟨field, hedit, heq⟩ := recallNewer_eq session
      refine .inr (.inr ⟨ha, submitted?_of_ne (by simp), field, hedit, hshown _, ?_⟩)
      rw [historySteps, if_pos hv]
      exact congrArg pure heq
    | complete =>
      obtain ⟨field, hedit, heq⟩ := complete_eq session
      exact .inr (.inr ⟨ha, submitted?_of_ne (by simp), field, hedit, hshown _, congrArg pure heq⟩)
    | insert c =>
      exact .inr (.inr ⟨ha, submitted?_of_ne (by simp), _, .inserted c, hshown _, rfl⟩)
    | deleteBack =>
      exact .inr (.inr ⟨ha, submitted?_of_ne (by simp), _, .deleted, hshown _, rfl⟩)
  · rw [Bool.not_eq_true] at hv
    refine .inr (.inr ⟨ha, submitted?_of_hidden hv, session.field, .kept, fun _ => rfl, ?_⟩)
    rw [act_of_hidden hv ha, historySteps_of_hidden hv]
    rfl

theorem setup_act (session : Session) (action : Action) :
    (session.act action).value.config = session.config ∧
      (session.act action).value.registry = session.registry := by
  rcases act_cases session action with ⟨-, h⟩ | ⟨line, hl, h⟩ | ⟨-, -, field, -, -, h⟩
  · rw [h, value_toggleVisibility]
    exact ⟨rfl, rfl⟩
  · obtain ⟨-, -, rfl, hne⟩ := submitted?_eq_some_iff.mp hl
    rw [h, value_submit hne]
    exact ⟨rfl, rfl⟩
  · rw [h]
    exact ⟨rfl, rfl⟩

/-- An action uses the history for the line that it submits and for the line that it recalls. -/
theorem history_act (session : Session) (action : Action) :
    (session.act action).value.history = session.history.run (session.historySteps action) := by
  rcases act_cases session action with ⟨rfl, h⟩ | ⟨line, hl, h⟩ | ⟨-, -, field, -, -, h⟩
  · rw [h, value_toggleVisibility]; rfl
  · obtain ⟨rfl, -, rfl, hne⟩ := submitted?_eq_some_iff.mp hl
    rw [h, value_submit hne, historySteps, hl]; rfl
  · rw [h]; rfl

/-- **An action adds to the transcript what came of the line that it submits.** -/
theorem entries_act (session : Session) (action : Action) :
    (session.act action).value.transcript.entries =
      session.transcript.entries ++ session.shown action := by
  rcases act_cases session action with ⟨rfl, h⟩ | ⟨line, hl, h⟩ | ⟨-, hl, field, -, -, h⟩
  · rw [h, value_toggleVisibility, shown, submitted?_of_ne (by simp), List.append_nil]
  · obtain ⟨-, -, rfl, hne⟩ := submitted?_eq_some_iff.mp hl
    rw [h, value_submit hne, shown, hl]; rfl
  · rw [h, shown, hl, List.append_nil]; rfl

/-- Only showing and hiding changes whether the console is shown. -/
theorem visible_act (session : Session) (action : Action) :
    (session.act action).value.visible =
      if action = .toggleVisibility then !session.visible else session.visible := by
  rcases act_cases session action with ⟨rfl, h⟩ | ⟨line, hl, h⟩ | ⟨hne, -, field, -, -, h⟩
  · rw [h, value_toggleVisibility, if_pos rfl]
  · obtain ⟨rfl, -, rfl, hne⟩ := submitted?_eq_some_iff.mp hl
    rw [h, value_submit hne]; rfl
  · rw [h, if_neg hne]; rfl

/-- A session submits one line where it stores one. -/
theorem storedLines_historySteps (session : Session) (action : Action) :
    History.storedLines (session.historySteps action) = (session.submitted? action).toList := by
  by_cases hs : action = .submit
  · subst hs
    rw [historySteps]
    cases session.submitted? .submit <;> rfl
  · rw [submitted?_of_ne hs]
    cases action with
    | submit => exact absurd rfl hs
    | recallOlder => rw [historySteps]; split <;> rfl
    | recallNewer => rw [historySteps]; split <;> rfl
    | _ => rfl

theorem receive_receive (session : Session) (first second : List Message) :
    (session.receive first).receive second = session.receive (first ++ second) := by
  refine congrArg (fun entries => { session with transcript := ⟨entries⟩ }) ?_
  rw [List.map_append]
  exact List.append_assoc _ _ _

end Session

namespace Console

variable {α : Type} {console : Console}

/-! ## Polling and observing -/

/-- Where nothing waits, polling does nothing. -/
theorem poll_of_empty (h : console.inbox.queued = []) : console.poll.2 = console := by
  obtain ⟨session, ⟨queued⟩, forwarder⟩ := console
  cases h
  refine congrArg (Console.mk · Inbox.empty forwarder) ?_
  exact congrArg (fun entries => { session with transcript := ⟨entries⟩ }) (List.append_nil _)

theorem observe_nil (console : Console) : console.observe [] = console := by
  refine congrArg (fun queued => { console with inbox := ⟨queued⟩ }) ?_
  rw [forwarded_nil]
  exact List.append_nil _

theorem observe_observe (console : Console) (first second : List Record) :
    (console.observe first).observe second = console.observe (first ++ second) := by
  refine congrArg (fun queued => { console with inbox := ⟨queued⟩ }) ?_
  rw [forwarded_append, ← List.append_assoc]
  rfl

/-! ## One step -/

/-- The line that a step submits, if it submits one. -/
def submitted? (console : Console) : Step → Option String
  | .act action => console.session.submitted? action
  | _ => none

/-- The messages that a step takes out of the inbox. -/
def drained (console : Console) : Step → List Message
  | .act _ | .poll => console.inbox.queued
  | .send _ | .log _ => []

/-- What a step adds to the transcript behind the messages that waited. -/
def shown (console : Console) : Step → List Entry
  | .act action => console.session.shown action
  | _ => []

theorem setup_step (console : Console) (step : Step) :
    (console.step step).value.session.config = console.session.config ∧
      (console.step step).value.session.registry = console.session.registry ∧
        (console.step step).value.forwarder = console.forwarder := by
  cases step with
  | act action =>
    obtain ⟨hconfig, hregistry⟩ := Session.setup_act
      (console.session.receive console.inbox.queued) action
    exact ⟨hconfig, hregistry, rfl⟩
  | poll => exact ⟨rfl, rfl, rfl⟩
  | send message => exact ⟨rfl, rfl, rfl⟩
  | log record => exact ⟨rfl, rfl, rfl⟩

/-- A visible console does what the action asks for, once the messages that waited are shown. -/
theorem step_act_of_visible {action : Action} (hv : console.session.visible = true)
    (ha : action ≠ .toggleVisibility) :
    (console.step (.act action)).value.session =
        ((console.session.receive console.inbox.queued).actVisible action).value ∧
      (console.step (.act action)).records =
        ((console.session.receive console.inbox.queued).actVisible action).records := by
  have hreceived : (console.session.receive console.inbox.queued).visible = true := hv
  have hact := Session.act_of_visible hreceived ha
  exact ⟨congrArg Logged.value hact, congrArg Logged.records hact⟩

/-- **A step adds the messages that it takes out of the inbox to the transcript, and then what came
of the line that it submits.** -/
theorem entries_step (console : Console) (step : Step) :
    (console.step step).value.session.transcript.entries =
      console.session.transcript.entries ++ (console.drained step).map Entry.logged ++
        console.shown step := by
  cases step with
  | act action => exact Session.entries_act (console.session.receive console.inbox.queued) action
  | poll => exact (List.append_nil _).symm
  | send message => exact ((List.append_nil _).trans (List.append_nil _)).symm
  | log record => exact ((List.append_nil _).trans (List.append_nil _)).symm

/-! ## Runs -/

/-- What the steps of a run yield, each in the state that it starts in. -/
def collect (yield : Console → Step → List α) (console : Console) (steps : List Step) : List α :=
  Trace.collect (fun console step => (console.step step).value) yield console steps

/-- The lines that a run submits, in order. -/
def submissions (console : Console) (steps : List Step) : List String :=
  console.collect (fun console step => (console.submitted? step).toList) steps

theorem value_run (console : Console) (steps : List Step) :
    (console.run steps).value =
      steps.foldl (fun console step => (console.step step).value) console := by
  induction steps generalizing console with
  | nil => rfl
  | cons step steps ih => exact ih (console.step step).value

/-- **What every step carries from a list to the list with its yield, a run carries to the list with
all that was collected.** -/
theorem run_collect {P : List α → Console → Prop} {yield : Console → Step → List α}
    (hstep : ∀ xs console step, P xs console →
      P (xs ++ yield console step) (console.step step).value)
    {xs : List α} (h : P xs console) (steps : List Step) :
    P (xs ++ console.collect yield steps) (console.run steps).value := by
  rw [value_run]
  exact Trace.foldl_collect hstep h steps

/-- A property that every step keeps is kept by every run. -/
theorem run_keeps {P : Console → Prop} (hstep : ∀ console step, P console →
    P (console.step step).value) (h : P console) (steps : List Step) :
    P (console.run steps).value := by
  rw [value_run]
  exact Trace.foldl_keeps hstep h steps

/-- A run leaves the settings, the commands and the forwarder alone. -/
theorem setup_run (console : Console) (steps : List Step) :
    (console.run steps).value.session.config = console.session.config ∧
      (console.run steps).value.session.registry = console.session.registry ∧
        (console.run steps).value.forwarder = console.forwarder := by
  refine run_keeps (P := fun next => next.session.config = console.session.config ∧
    next.session.registry = console.session.registry ∧ next.forwarder = console.forwarder)
    ?_ ⟨rfl, rfl, rfl⟩ steps
  rintro next step ⟨hc, hr, hf⟩
  obtain ⟨hc', hr', hf'⟩ := setup_step next step
  exact ⟨hc'.trans hc, hr'.trans hr, hf'.trans hf⟩

/-! ## The history -/

/-- A step stores the line that it submits. -/
theorem holds_step {capacity : Nat} {lines : List String} {console : Console}
    (h : History.Holds capacity lines console.session.history) (step : Step) :
    History.Holds capacity (lines ++ (console.submitted? step).toList)
      (console.step step).value.session.history := by
  cases step with
  | act action =>
    have hrun := h.run (console.session.historySteps action)
    rw [Session.storedLines_historySteps] at hrun
    rw [show (console.step (.act action)).value.session.history =
      console.session.history.run (console.session.historySteps action) from
        Session.history_act (console.session.receive console.inbox.queued) action]
    exact hrun
  | poll => exact (List.append_nil lines).symm ▸ h
  | send message => exact (List.append_nil lines).symm ▸ h
  | log record => exact (List.append_nil lines).symm ▸ h

/-- **The history of a console holds what is left of the lines that were submitted.** -/
theorem holds_run {capacity : Nat} {lines : List String} {console : Console}
    (h : History.Holds capacity lines console.session.history) (steps : List Step) :
    History.Holds capacity (lines ++ console.submissions steps)
      (console.run steps).value.session.history :=
  run_collect (P := fun lines next => History.Holds capacity lines next.session.history)
    (fun _ _ step h => holds_step h step) h steps

/-! ## Fresh consoles -/

variable {config : Config} {registry : Registry} {inbox : Inbox} {forwarder : Option Forwarder}

/-- What opening a console leaves in the inbox: what waited, then what the log of the opening sent
there. -/
def opening (config : Config) (registry : Registry) (inbox : Inbox)
    (forwarder : Option Forwarder) : List Message :=
  inbox.queued ++ forwarded forwarder (Session.start config registry).records

theorem value_start_of_ok (h : config.validate = .ok ()) :
    (Session.start config registry).value = .ok (.fresh config registry) := by
  rw [Session.start, h]
  by_cases he : config.historyEnabled = true
  · simp [he]
  · simp [he]

theorem value_start_of_error {error : Error} (h : config.validate = .error error) :
    (Session.start config registry).value = .error error := by
  rw [Session.start, h]
  rfl

/-- A console opens with a fresh session exactly if its settings are allowed. -/
theorem start_eq_ok_iff :
    (start config registry inbox forwarder).value = .ok console ↔
      config.validate = .ok () ∧
        console =
          ⟨.fresh config registry, ⟨opening config registry inbox forwarder⟩, forwarder⟩ := by
  rw [start]
  cases hc : config.validate with
  | error error =>
    simp only [value_start_of_error hc, Except.map, reduceCtorEq, false_and]
  | ok _ =>
    simp only [value_start_of_ok hc, Except.map, Except.ok.injEq, true_and]
    exact eq_comm

theorem start_eq_error_iff {error : Error} :
    (start config registry inbox forwarder).value = .error error ↔
      config.validate = .error error := by
  rw [start]
  cases hc : config.validate with
  | error _ => simp only [value_start_of_error hc, Except.map, Except.error.injEq]
  | ok _ => simp only [value_start_of_ok hc, Except.map, reduceCtorEq]

theorem start_of_valid (h : config.validate = .ok ()) (registry : Registry) (inbox : Inbox)
    (forwarder : Option Forwarder) :
    (start config registry inbox forwarder).value =
      .ok ⟨.fresh config registry, ⟨opening config registry inbox forwarder⟩, forwarder⟩ :=
  start_eq_ok_iff.mpr ⟨h, rfl⟩

theorem entries_start (h : (start config registry inbox forwarder).value = .ok console) :
    console.session.transcript.entries = [] := by
  obtain ⟨-, rfl⟩ := start_eq_ok_iff.mp h
  rfl

theorem holds_start (h : (start config registry inbox forwarder).value = .ok console) :
    History.Holds config.historyCapacity [] console.session.history := by
  obtain ⟨-, rfl⟩ := start_eq_ok_iff.mp h
  exact History.Holds.ofCapacity _

end Console

end CommandConsole
