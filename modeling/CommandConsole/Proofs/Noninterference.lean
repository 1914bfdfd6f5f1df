import CommandConsole.Proofs.Alike
import Mathlib.Data.List.Forall2

/-!
# What the log cannot influence

The log comes to a console through its inbox and goes to its transcript. An action reads neither, so
a console without its log (`Session.unlogged`) is a session that goes through the actions alone,
whatever was sent, polled and recorded between them.

Results:
* `Session.unlogged_act`: an action does the same to a session without its log.
* `Console.unlogged_step`: nothing but an action changes a session apart from its log.
* `Console.entries_unlogged_run`: without its log, a transcript holds what submissions showed.
* `Console.collect_unlogged`: what a run yields is what its actions yield without the log.
* `Console.afterEach_unlogged`: **a console without its log is a session that only acts.**
* `Console.log_never_interferes`: **two runs of the same actions differ in their logs alone.**
-/

namespace CommandConsole

open Log

/-! ## Forgetting the log -/

namespace Transcript

/-- What was shown without what came from the log. -/
def unlogged (transcript : Transcript) : Transcript :=
  ⟨transcript.entries.filter fun entry => !entry.isLogged⟩

theorem entries_unlogged_append (transcript : Transcript) (entries : List Entry) :
    (transcript.append entries).unlogged.entries =
      transcript.unlogged.entries ++ entries.filter fun entry => !entry.isLogged :=
  List.filter_append ..

theorem filter_logged (messages : List Message) :
    (messages.map Entry.logged).filter (fun entry => !entry.isLogged) = [] := by
  rw [List.filter_eq_nil_iff]
  intro entry hentry
  obtain ⟨message, -, rfl⟩ := List.mem_map.mp hentry
  exact Bool.false_ne_true

end Transcript

namespace Session

variable {a b : Session}

/-- A session that has no log in its transcript. -/
def unlogged (session : Session) : Session :=
  { session with transcript := session.transcript.unlogged }

theorem Alike.unlogged (session : Session) : session.Alike session.unlogged :=
  ⟨rfl, rfl, rfl, rfl, rfl⟩

/-- Sessions that are alike can differ in three things. -/
theorem Alike.eq (h : a.Alike b) (hregistry : a.registry = b.registry)
    (hshown : a.transcript.entries = b.transcript.entries)
    (hquit : a.quitRequested = b.quitRequested) : a = b := by
  obtain ⟨config, registry, history, ⟨entries⟩, field, visible, quit⟩ := a
  obtain ⟨hconfig, -, hhistory, hfield, hvisible⟩ := h
  cases hconfig
  cases hregistry
  cases hhistory
  cases hshown
  cases hfield
  cases hvisible
  cases hquit
  rfl

theorem unlogged_receive (session : Session) (messages : List Message) :
    (session.receive messages).unlogged = session.unlogged := by
  refine congrArg (fun entries => { session with transcript := ⟨entries⟩ }) ?_
  rw [entries_receive, List.filter_append, Transcript.filter_logged, List.append_nil]

/-- Nothing that an action shows comes from the log. -/
theorem filter_shown (session : Session) (action : Action) :
    (session.shown action).filter (fun entry => !entry.isLogged) = session.shown action := by
  unfold shown
  cases session.submitted? action with
  | none => rfl
  | some line =>
    simp only [submissionEntries]
    split <;> rfl

theorem entries_unlogged_act (session : Session) (action : Action) :
    (session.act action).value.transcript.unlogged.entries =
      session.transcript.unlogged.entries ++ session.shown action := by
  have hfilter := session.transcript.entries_unlogged_append (session.shown action)
  rw [filter_shown] at hfilter
  unfold Transcript.unlogged
  rw [entries_act]
  exact hfilter

/-- **An action does the same to a session without its log.** -/
theorem unlogged_act (session : Session) (action : Action) :
    (session.act action).value.unlogged = (session.unlogged.act action).value := by
  have halike := (Alike.unlogged session).act action
  obtain ⟨-, hregistry⟩ := setup_act session action
  obtain ⟨-, hregistry'⟩ := setup_act session.unlogged action
  refine Alike.eq ⟨halike.config, halike.tokens, halike.history, halike.field, halike.visible⟩
    ?_ ?_ ?_
  · rw [hregistry']
    exact hregistry
  · rw [entries_act]
    exact entries_unlogged_act session action
  · rw [quitRequested_act]
    exact quitRequested_act session action

/-- The sessions behind each of a series of actions. -/
def afterEach (session : Session) (actions : List Action) : List Session :=
  Trace.collect (fun session action => (session.act action).value)
    (fun session action => [(session.act action).value]) session actions

/-- Two sessions that differ at most in what the log showed. -/
structure SameButLog (a b : Session) : Prop where
  text : a.field.text = b.field.text
  caret : a.field.caret = b.field.caret
  visible : a.visible = b.visible
  quitRequested : a.quitRequested = b.quitRequested
  slots : a.history.slots = b.history.slots
  next : a.history.next = b.history.next
  cursor : a.history.cursor = b.history.cursor
  shown : a.transcript.unlogged.entries = b.transcript.unlogged.entries

theorem sameButLog_of_unlogged_eq (h : a.unlogged = b.unlogged) : a.SameButLog b where
  text := congrArg (fun session => session.field.text) h
  caret := congrArg (fun session => session.field.caret) h
  visible := congrArg (fun session => session.visible) h
  quitRequested := congrArg (fun session => session.quitRequested) h
  slots := congrArg (fun session => session.history.slots) h
  next := congrArg (fun session => session.history.next) h
  cursor := congrArg (fun session => session.history.cursor) h
  shown := congrArg (fun session => session.transcript.entries) h

end Session

/-! ## Runs -/

/-- The action of a step, if it is one. -/
def Step.action? : Step → Option Action
  | .act action => some action
  | .poll | .send _ | .log _ => none

/-- The actions among a series of steps. -/
def actions (steps : List Step) : List Action :=
  steps.filterMap Step.action?

namespace Console

/-- The session behind an action. -/
def afterAction (console : Console) : Step → List Session
  | .act action => [(console.act action).value.session]
  | _ => []

/-- The sessions behind each action of a run. -/
def afterEach (console : Console) (steps : List Step) : List Session :=
  console.collect afterAction steps

theorem unlogged_step_act (console : Console) (action : Action) :
    (console.step (.act action)).value.session.unlogged =
      (console.session.unlogged.act action).value := by
  have hact := Session.unlogged_act (console.session.receive console.inbox.queued) action
  rw [Session.unlogged_receive] at hact
  exact hact

/-- **Nothing but an action changes a session apart from its log.** -/
theorem unlogged_step (console : Console) {step : Step} (h : step.action? = none) :
    (console.step step).value.session.unlogged = console.session.unlogged := by
  cases step with
  | act action => cases h
  | poll => exact Session.unlogged_receive console.session console.inbox.queued
  | send message => rfl
  | log record => rfl

/-- **Without its log, a transcript holds what the submissions of the run showed.** -/
theorem entries_unlogged_run (console : Console) (steps : List Step) :
    (console.run steps).value.session.transcript.unlogged.entries =
      console.session.transcript.unlogged.entries ++ console.collect shown steps := by
  refine run_collect (P := fun entries next => next.session.transcript.unlogged.entries = entries)
    ?_ rfl steps
  rintro entries next step rfl
  have hunlogged : ∀ session : Session,
      session.unlogged.transcript.entries = session.transcript.unlogged.entries := fun _ => rfl
  cases step with
  | act action =>
    have hact := Session.entries_unlogged_act (next.session.receive next.inbox.queued) action
    rw [← hunlogged (next.session.receive _), Session.unlogged_receive] at hact
    exact hact
  | poll | send | log =>
    rw [← hunlogged, unlogged_step next rfl]
    exact (List.append_nil _).symm

/-- **A console without its log is a session that only acts:** what a run yields at its actions, and
without looking at the log, is what that session yields. -/
theorem collect_unlogged {α β : Type} {yield : Console → Step → List α}
    {yield' : Session → Action → List β} {q : α → β}
    (hquiet : ∀ console step, step.action? = none → yield console step = [])
    (hact : ∀ console action,
      (yield console (.act action)).map q = yield' console.session.unlogged action)
    (console : Console) (steps : List Step) :
    (console.collect yield steps).map q =
      Trace.collect (fun session action => (session.act action).value) yield'
        console.session.unlogged (actions steps) := by
  refine Trace.map_collect (p := fun console => console.session.unlogged)
    (fun console step h => ⟨unlogged_step console h, hquiet console step h⟩)
    (fun console step action h => ?_) steps
  cases step with
  | act action =>
    cases h
    exact ⟨unlogged_step_act console action, hact console action⟩
  | poll | send | log => cases h

theorem afterEach_unlogged (console : Console) (steps : List Step) :
    (console.afterEach steps).map Session.unlogged =
      console.session.unlogged.afterEach (actions steps) := by
  refine collect_unlogged (fun console step h => ?_) (fun console action => ?_) console steps
  · cases step with
    | act action => cases h
    | poll | send | log => rfl
  · exact congrArg (fun session => [session]) (unlogged_step_act console action)

/-- **Two runs of the same actions differ in their logs alone**, behind each of the actions. -/
theorem forall₂_afterEach {a b : Console} (h : a.session.unlogged = b.session.unlogged)
    {steps steps' : List Step} (hactions : actions steps = actions steps') :
    List.Forall₂ Session.SameButLog (a.afterEach steps) (b.afterEach steps') := by
  have hsame : (a.afterEach steps).map Session.unlogged =
      (b.afterEach steps').map Session.unlogged := by
    rw [afterEach_unlogged, afterEach_unlogged, h, hactions]
  rw [← List.forall₂_eq_eq_eq, List.forall₂_map_left_iff, List.forall₂_map_right_iff] at hsame
  exact hsame.imp fun _ _ => Session.sameButLog_of_unlogged_eq

theorem collect_shown (console : Console) (steps : List Step) :
    console.collect shown steps =
      Trace.collect (fun session action => (session.act action).value) Session.shown
        console.session.unlogged (actions steps) := by
  rw [← List.map_id (console.collect shown steps)]
  refine collect_unlogged (fun console step h => ?_) (fun _ _ => List.map_id _) console steps
  cases step with
  | act action => cases h
  | poll | send | log => rfl

/-! ## From the start -/

/-- **The log never interferes.** Two consoles with the same settings and commands may differ in
what waited when they were opened, in their forwarders, and in everything that is sent, recorded and
polled between the actions. Either both are refused with the same error, or, behind each action of
the same series, both have the same input, visibility, request to quit and history, and the same
transcript apart from what came from the log, which is what their submissions showed. -/
theorem log_never_interferes (config : Config) (registry : Registry) (inbox₁ inbox₂ : Inbox)
    (forwarder₁ forwarder₂ : Option Forwarder) :
    (∀ error, (start config registry inbox₁ forwarder₁).value = .error error ↔
      (start config registry inbox₂ forwarder₂).value = .error error) ∧
    ∀ console₁ console₂, (start config registry inbox₁ forwarder₁).value = .ok console₁ →
      (start config registry inbox₂ forwarder₂).value = .ok console₂ →
      (∀ steps, (console₁.run steps).value.session.transcript.unlogged.entries =
        console₁.collect shown steps) ∧
      ∀ steps₁ steps₂, actions steps₁ = actions steps₂ →
        List.Forall₂ Session.SameButLog (console₁.afterEach steps₁) (console₂.afterEach steps₂) ∧
          console₁.collect shown steps₁ = console₂.collect shown steps₂ := by
  refine ⟨fun error => by rw [start_eq_error_iff, start_eq_error_iff], ?_⟩
  intro console₁ console₂ hstart₁ hstart₂
  obtain ⟨-, rfl⟩ := start_eq_ok_iff.mp hstart₁
  obtain ⟨-, rfl⟩ := start_eq_ok_iff.mp hstart₂
  refine ⟨fun steps => entries_unlogged_run _ steps, fun steps₁ steps₂ hactions => ⟨?_, ?_⟩⟩
  · refine forall₂_afterEach ?_ hactions
    rfl
  · rw [collect_shown, collect_shown, hactions]

/-- A console that hears everything and is talked to shows the same answer as a silent one. -/
theorem log_never_interferes_loud :
    let typed : List Action := [.toggleVisibility, .insert 'x', .submit]
    let silent : List Step := typed.map .act
    let loud : List Step := [.act .toggleVisibility, .send ⟨.error, "late"⟩, .poll,
      .act (.insert 'x'), .log (.warn "heard"), .act .submit, .poll]
    actions silent = actions loud ∧
    ∃ console₁ console₂, (start .default .empty .empty none).value = .ok console₁ ∧
      (start .default .empty ⟨[⟨.info, "early"⟩]⟩ (some ⟨.upTo .trace, none⟩)).value =
        .ok console₂ ∧
      List.Forall₂ Session.SameButLog (console₁.afterEach silent) (console₂.afterEach loud) ∧
      (console₁.afterEach silent).length = 3 ∧
      (console₂.run loud).value.session.transcript.size = 7 ∧
      console₁.collect shown silent = console₂.collect shown loud := by
  intro typed silent loud
  have hvalid : Config.default.validate = .ok () := rfl
  have hstart₁ := start_of_valid hvalid .empty .empty none
  have hstart₂ := start_of_valid hvalid .empty ⟨[⟨.info, "early"⟩]⟩ (some ⟨.upTo .trace, none⟩)
  obtain ⟨-, hruns⟩ := log_never_interferes .default .empty .empty ⟨[⟨.info, "early"⟩]⟩ none
    (some ⟨.upTo .trace, none⟩)
  obtain ⟨-, htwo⟩ := hruns _ _ hstart₁ hstart₂
  obtain ⟨hsame, hshown⟩ := htwo silent loud rfl
  refine ⟨rfl, _, _, hstart₁, hstart₂, hsame, rfl, ?_, hshown⟩
  decide +kernel

end Console

end CommandConsole
