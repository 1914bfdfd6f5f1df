import CommandConsole.Proofs.Run

/-!
# Sessions that act alike

What an action reads of a session: the settings, the tokens of the commands, the history, the input
field and whether the console is shown. It reads neither the transcript nor whether a command asked
to quit, and of the commands themselves only the outcome of a submitted line, which goes to these
two alone. `Session.Alike` compares two sessions on what is read, and every action keeps it.

Results:
* `Session.Alike.act`: **sessions that are alike stay alike**, whatever their commands do.
* `Session.Alike.submitted?_eq`: they submit the same lines.
* `Session.quitRequested_act`: only the outcome of a submitted line asks to quit.
-/

namespace CommandConsole

open Log

namespace Session

/-- Two sessions that an action cannot tell apart, but for what their commands do. -/
structure Alike (a b : Session) : Prop where
  config : a.config = b.config
  tokens : a.registry.tokens = b.registry.tokens
  history : a.history = b.history
  field : a.field = b.field
  visible : a.visible = b.visible

namespace Alike

variable {a b : Session}

theorem submitted?_eq (h : a.Alike b) (action : Action) :
    a.submitted? action = b.submitted? action := by
  unfold submitted?
  rw [h.visible, h.field]

theorem historySteps_eq (h : a.Alike b) (action : Action) :
    a.historySteps action = b.historySteps action := by
  cases action with
  | submit => rw [historySteps, historySteps, h.submitted?_eq]
  | recallOlder | recallNewer =>
    unfold historySteps
    rw [h.visible]
  | _ => rfl

/-- Sessions that are alike complete to the same token. -/
theorem field_complete (h : a.Alike b) : a.complete.field = b.complete.field := by
  unfold complete
  rw [h.config, h.tokens, h.field]
  split
  · rfl
  · exact h.field

theorem field_recallNewer (h : a.Alike b) : a.recallNewer.field = b.recallNewer.field := by
  unfold recallNewer
  rw [h.history]
  split
  · rfl
  · exact h.field

theorem field_submit (h : a.Alike b) : a.submit.value.field = b.submit.value.field := by
  by_cases ht : a.field.text = ""
  · have ht' : b.field.text = "" := h.field ▸ ht
    rw [submit_of_empty ht, submit_of_empty ht']
    exact h.field
  · have ht' : b.field.text ≠ "" := h.field ▸ ht
    rw [value_submit ht, value_submit ht']

theorem field_act (h : a.Alike b) (action : Action) :
    (a.act action).value.field = (b.act action).value.field := by
  by_cases ha : action = .toggleVisibility
  · rw [ha, act_toggleVisibility, act_toggleVisibility, value_toggleVisibility,
      value_toggleVisibility, h.visible, h.field]
  by_cases hv : a.visible = true
  · have hv' : b.visible = true := h.visible ▸ hv
    rw [act_of_visible hv ha, act_of_visible hv' ha]
    cases action with
    | toggleVisibility => exact absurd rfl ha
    | submit => exact h.field_submit
    | recallOlder =>
      have holder : a.recallOlder.field = b.recallOlder.field := by
        unfold recallOlder
        rw [h.history, h.field]
      exact holder
    | recallNewer => exact h.field_recallNewer
    | complete => exact h.field_complete
    | insert c => exact congrArg (InputField.insert · c) h.field
    | deleteBack => exact congrArg InputField.deleteBack h.field
  · rw [Bool.not_eq_true] at hv
    have hv' : b.visible = false := h.visible ▸ hv
    rw [act_of_hidden hv ha, act_of_hidden hv' ha]
    exact h.field

/-- **Sessions that are alike stay alike**, whatever their commands do. -/
theorem act (h : a.Alike b) (action : Action) :
    (a.act action).value.Alike (b.act action).value := by
  obtain ⟨hconfig, hregistry⟩ := setup_act a action
  obtain ⟨hconfig', hregistry'⟩ := setup_act b action
  refine ⟨?_, ?_, ?_, h.field_act action, ?_⟩
  · rw [hconfig, hconfig', h.config]
  · rw [hregistry, hregistry', h.tokens]
  · rw [history_act, history_act, h.history, h.historySteps_eq]
  · rw [visible_act, visible_act, h.visible]

end Alike

/-- **Only the outcome of a submitted line asks to quit**, and nothing takes the request back. -/
theorem quitRequested_act (session : Session) (action : Action) :
    (session.act action).value.quitRequested =
      (session.quitRequested || (session.submitted? action).any fun line =>
        asksToQuit (session.registry.dispatch line).value) := by
  rcases act_cases session action with ⟨rfl, h⟩ | ⟨line, hl, h⟩ | ⟨-, hl, field, -, -, h⟩
  · rw [h, value_toggleVisibility, submitted?_of_ne (by simp)]
    exact (Bool.or_false _).symm
  · obtain ⟨-, -, rfl, hne⟩ := submitted?_eq_some_iff.mp hl
    rw [h, value_submit hne, hl]
    rfl
  · rw [h, hl]
    exact (Bool.or_false _).symm

end Session

end CommandConsole
