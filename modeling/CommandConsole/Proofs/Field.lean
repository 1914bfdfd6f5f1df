import CommandConsole.Proofs.Run

/-!
# The input field of a running console

The caret of a reachable console stands at the end of the text, and a hidden console has nothing
in its input field. Both are one invariant, `Session.Settled`, and every action keeps it: whatever
replaces the text puts the caret behind it, and an insertion or a deletion at the end stays there.

Results:
* `Session.Settled.act`, `Console.settled_run`: the invariant.
* `Console.visible_run`: a console is visible after an odd number of changes.
* `Text.isValid_byteOffset`, `Text.byteOffset_lt`: the offset of a character is a boundary of the
  text, and inside it.
* `Console.act_insert`, `Console.act_deleteBack`, `Console.act_deleteBack_insert`: editing while
  visible. `Console.act_of_hidden`: nothing but polling while hidden.
* `Console.editing_from_start`: **all of it for every console that was started.**
-/

namespace CommandConsole

open Log

/-! ## Carets at the end -/

namespace InputField

variable {field next : InputField}

/-- The caret stands behind the last character. -/
def AtEnd (field : InputField) : Prop :=
  field.caret = field.text.length

theorem AtEnd.eq_ofText (h : field.AtEnd) : field = ofText field.text := by
  obtain ⟨text, caret⟩ := field
  exact congrArg (InputField.mk text) h

/-- An edit at the end ends at the end. -/
theorem AtEnd.edited (h : field.AtEnd) (hedit : field.Edited next) : next.AtEnd := by
  cases hedit with
  | kept => exact h
  | replaced text => rfl
  | inserted c =>
    rw [h.eq_ofText, insert_ofText]
    rfl
  | deleted =>
    rw [h.eq_ofText, deleteBack_ofText]
    rfl

end InputField

namespace Session

/-- The caret stands at the end, and a hidden session has an empty input field. -/
structure Settled (session : Session) : Prop where
  atEnd : session.field.AtEnd
  hidden : session.visible = false → session.field = .empty

/-- **Every action keeps the caret at the end and a hidden input field empty.** -/
theorem Settled.act {session : Session} (h : session.Settled) (action : Action) :
    (session.act action).value.Settled := by
  rcases act_cases session action with
    ⟨rfl, ha⟩ | ⟨line, hl, ha⟩ | ⟨-, -, field, hedit, hhidden, ha⟩
  · rw [ha, value_toggleVisibility]
    by_cases hv : session.visible = true
    · rw [if_pos hv]
      exact ⟨rfl, fun _ => rfl⟩
    · rw [if_neg hv]
      rw [Bool.not_eq_true] at hv
      refine ⟨h.atEnd, fun hh => ?_⟩
      exact h.hidden hv
  · obtain ⟨-, -, rfl, hne⟩ := submitted?_eq_some_iff.mp hl
    rw [ha, value_submit hne]
    exact ⟨rfl, fun _ => rfl⟩
  · rw [ha]
    exact ⟨h.atEnd.edited hedit, fun hh => (hhidden hh).trans (h.hidden hh)⟩

end Session

/-! ## Character boundaries -/

namespace Text

/-- **The offset of a character, or of the end, is a character boundary.** -/
theorem isValid_byteOffset {text : String} {n : Nat} (h : n ≤ text.length) :
    (⟨byteOffset text n⟩ : String.Pos.Raw).IsValid text := by
  obtain ⟨front, back, rfl, rfl, -, -⟩ := exists_cut h
  rw [byteOffset_append]
  exact isValid_utf8ByteSize front back

theorem byteOffset_lt {text : String} {n : Nat} (h : n < text.length) :
    byteOffset text n < text.utf8ByteSize := by
  obtain ⟨front, c, back, rfl, rfl, -, -⟩ := exists_cut_around h
  have hpos := c.utf8Size_pos
  rw [byteOffset_append, String.utf8ByteSize_append, String.utf8ByteSize_append,
    String.utf8ByteSize_singleton]
  omega

end Text

namespace Console

variable {console : Console}

/-! ## The invariant of a run -/

theorem settled_step (h : console.session.Settled) (step : Step) :
    (console.step step).value.session.Settled := by
  have hreceive : (console.session.receive console.inbox.queued).Settled := ⟨h.atEnd, h.hidden⟩
  cases step with
  | act action => exact hreceive.act action
  | poll => exact hreceive
  | send message => exact h
  | log record => exact h

theorem settled_run (h : console.session.Settled) (steps : List Step) :
    (console.run steps).value.session.Settled :=
  run_keeps (P := fun next => next.session.Settled) (fun _ step h => settled_step h step) h steps

theorem visible_step (console : Console) (step : Step) :
    (console.step step).value.session.visible =
      (console.session.visible ^^ decide (step = .act .toggleVisibility)) := by
  cases step with
  | act action =>
    have hact := Session.visible_act (console.session.receive console.inbox.queued) action
    refine hact.trans ?_
    by_cases ha : action = .toggleVisibility
    · rw [if_pos ha, ha, decide_eq_true rfl, Bool.xor_true]
      rfl
    · rw [if_neg ha, decide_eq_false fun h => ha (Step.act.inj h), Bool.xor_false]
      rfl
  | poll => exact (Bool.xor_false _).symm
  | send message => exact (Bool.xor_false _).symm
  | log record => exact (Bool.xor_false _).symm

/-- **Whether a console is visible is a matter of counting.** -/
theorem visible_run (console : Console) (steps : List Step) :
    (console.run steps).value.session.visible =
      (console.session.visible ^^ decide (steps.count (.act .toggleVisibility) % 2 = 1)) := by
  induction steps generalizing console with
  | nil => exact (Bool.xor_false _).symm
  | cons step steps ih =>
    have hrest := ih (console.step step).value
    rw [visible_step] at hrest
    refine hrest.trans ?_
    rw [Bool.xor_assoc]
    refine congrArg (xor console.session.visible) ?_
    by_cases hs : step = .act .toggleVisibility
    · rw [hs, List.count_cons_self, decide_eq_true rfl, Bool.true_xor, ← decide_not]
      exact decide_eq_decide.mpr (by omega)
    · rw [List.count_cons_of_ne hs, decide_eq_false hs, Bool.false_xor]

/-! ## Editing -/

/-- An action that records nothing polls and changes the session. -/
theorem act_of_quiet {action : Action} {next : Session}
    (h : (console.session.receive console.inbox.queued).act action = pure next) :
    console.act action = pure { console.poll.2 with session := next } := by
  have hacted : console.poll.2.session.act action = pure next := h
  simp only [act, hacted, Logged.value_pure, Logged.records_pure, observe_nil]
  rfl

/-- The console with another text in its input field and the caret behind it. -/
def typed (console : Console) (text : String) : Console :=
  { console with session := { console.session with field := .ofText text } }

theorem typed_typed (first second : String) :
    (console.typed first).typed second = console.typed second := rfl

theorem typed_text (h : console.session.field.AtEnd) :
    console.typed console.session.field.text = console := by
  unfold typed
  rw [← h.eq_ofText]

/-- A visible console appends the character. -/
theorem act_insert (h : console.session.field.AtEnd) (hv : console.session.visible = true)
    (c : Char) :
    console.act (.insert c) = pure (console.poll.2.typed (console.session.field.text.push c)) := by
  refine act_of_quiet ?_
  rw [← InputField.insert_ofText, ← h.eq_ofText]
  exact Session.act_of_visible hv (by simp)

theorem act_deleteBack (h : console.session.field.AtEnd) (hv : console.session.visible = true) :
    console.act .deleteBack = pure (console.poll.2.typed
      (String.ofList console.session.field.text.toList.dropLast)) := by
  refine act_of_quiet ?_
  rw [← InputField.deleteBack_ofText, ← h.eq_ofText]
  exact Session.act_of_visible hv (by simp)

/-- **Deleting undoes an insertion.** -/
theorem act_deleteBack_insert (h : console.session.field.AtEnd)
    (hv : console.session.visible = true) (c : Char) :
    (console.act (.insert c)).value.act .deleteBack = pure console.poll.2 := by
  let inserted := console.poll.2.typed (console.session.field.text.push c)
  have hat : inserted.session.field.AtEnd := rfl
  have hempty : inserted.inbox.queued = [] := rfl
  rw [act_insert h hv, Logged.value_pure, act_deleteBack hat hv, poll_of_empty hempty, typed_typed]
  have htext : String.ofList inserted.session.field.text.toList.dropLast =
      console.session.field.text := by
    rw [show inserted.session.field.text = console.session.field.text.push c from rfl,
      String.toList_push, List.dropLast_concat, String.ofList_toList]
  have hback : console.poll.2.typed console.session.field.text = console.poll.2 := typed_text h
  rw [htext]
  exact congrArg pure hback

/-- While it is hidden, a console only polls. -/
theorem act_of_hidden (hv : console.session.visible = false) {action : Action}
    (ha : action ≠ .toggleVisibility) : console.act action = pure console.poll.2 :=
  act_of_quiet (Session.act_of_hidden hv ha)

/-! ## From the start -/

variable {config : Config} {registry : Registry} {inbox : Inbox} {forwarder : Option Forwarder}

theorem settled_start (h : (start config registry inbox forwarder).value = .ok console) :
    console.session.Settled := by
  obtain ⟨-, rfl⟩ := start_eq_ok_iff.mp h
  exact ⟨rfl, fun _ => rfl⟩

theorem visible_start (h : (start config registry inbox forwarder).value = .ok console) :
    console.session.visible = false := by
  obtain ⟨-, rfl⟩ := start_eq_ok_iff.mp h
  rfl

/-- **The input field after any run of a console from its start.** The caret stands at the end; the
console is visible after an odd number of changes; and hidden, it has nothing in its field. So both
edits cut the text at a character boundary, an insertion appends one character, a deletion drops the
last one and undoes an insertion, and a hidden console only polls. -/
theorem editing_from_start (hstart : (start config registry inbox forwarder).value = .ok console)
    (steps : List Step) :
    let before := (console.run steps).value
    let field := before.session.field
    field.caret = field.text.length ∧
    (before.session.visible = true ↔ steps.count (.act .toggleVisibility) % 2 = 1) ∧
    (before.session.visible = false → field.text = "" ∧ field.caret = 0) ∧
    (⟨Text.byteOffset field.text field.caret⟩ : String.Pos.Raw).IsValid field.text ∧
    (∀ c, field.insert? c = some (field.insert c)) ∧
    (field.caret ≠ 0 →
      (⟨Text.byteOffset field.text (field.caret - 1)⟩ : String.Pos.Raw).IsValid field.text ∧
        Text.byteOffset field.text (field.caret - 1) < field.text.utf8ByteSize) ∧
    field.deleteBack? = some field.deleteBack ∧
    (before.session.visible = true →
      (∀ c, before.act (.insert c) = pure (before.poll.2.typed (field.text.push c))) ∧
      before.act .deleteBack =
        pure (before.poll.2.typed (String.ofList field.text.toList.dropLast)) ∧
      (field.text = "" → before.act .deleteBack = pure before.poll.2) ∧
      ∀ c, (before.act (.insert c)).value.act .deleteBack = pure before.poll.2) ∧
    (before.session.visible = false →
      ∀ action, action ≠ .toggleVisibility → before.act action = pure before.poll.2) := by
  intro before field
  have hsettled : before.session.Settled := settled_run (settled_start hstart) steps
  have hat : field.AtEnd := hsettled.atEnd
  have hle : field.caret ≤ field.text.length := Nat.le_of_eq hat
  have hcount := visible_run console steps
  rw [visible_start hstart, Bool.false_xor] at hcount
  refine ⟨hat, ?_, fun hv => ?_, Text.isValid_byteOffset hle, InputField.insert?_eq hle,
    fun h0 => ⟨?_, ?_⟩, InputField.deleteBack?_eq hle, fun hv => ⟨?_, ?_, fun htext => ?_, ?_⟩,
    fun hv action ha => act_of_hidden hv ha⟩
  · rw [hcount]
    exact decide_eq_true_iff
  · have hempty : field = .empty := hsettled.hidden hv
    rw [hempty]
    exact ⟨rfl, rfl⟩
  · exact Text.isValid_byteOffset (by omega)
  · exact Text.byteOffset_lt (by omega)
  · exact act_insert hat hv
  · exact act_deleteBack hat hv
  · have hsame : before.poll.2.typed field.text = before.poll.2 := typed_text hat
    rw [act_deleteBack hat hv, show before.session.field.text = "" from htext]
    rw [htext] at hsame
    exact congrArg pure hsame
  · exact act_deleteBack_insert hat hv

/-- A character of two bytes is typed and deleted as one; a hidden console submits nothing. -/
theorem editing_from_start_two_bytes :
    ∃ console, (start .default .empty ⟨[]⟩ none).value = .ok console ∧
      console.session.visible = false ∧ console.act .submit = pure console.poll.2 ∧
      let shown := (console.run [.act .toggleVisibility]).value
      shown.session.field.text = "" ∧ shown.act .deleteBack = pure shown.poll.2 ∧
      let typed := (console.run [.act .toggleVisibility, .act (.insert 'é')]).value
      typed.session.visible = true ∧ typed.session.field.text.utf8ByteSize = 2 ∧
        Text.byteOffset typed.session.field.text (typed.session.field.caret - 1) < 2 ∧
        typed.act .deleteBack = pure (typed.poll.2.typed "") := by
  have hstart := start_of_valid (show Config.default.validate = .ok () from rfl) .empty ⟨[]⟩ none
  obtain ⟨-, -, -, -, -, -, -, -, hhidden⟩ := editing_from_start hstart []
  obtain ⟨-, -, -, -, -, -, -, hshown, -⟩ := editing_from_start hstart [.act .toggleVisibility]
  obtain ⟨-, -, -, -, -, hcut, -, htyped, -⟩ :=
    editing_from_start hstart [.act .toggleVisibility, .act (.insert 'é')]
  refine ⟨_, hstart, rfl, hhidden rfl .submit (by decide), rfl, (hshown rfl).2.2.1 rfl, rfl, rfl,
    (hcut (by decide)).2, (htyped rfl).2.1⟩

end Console

end CommandConsole
