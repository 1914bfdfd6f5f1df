import CommandConsole.Command.Scripted
import CommandConsole.Proofs.Alike
import CommandConsole.Proofs.Returning
import Mathlib.Data.List.Forall2

/-!
# What a command cannot break

A command gives a session the outcome of one submitted line. The outcome is shown behind the echo of
the line and may ask to quit; nothing else depends on it, whether the command succeeds, fails or
breaks down. So two consoles whose commands have the same tokens go through the same steps in step,
whatever the commands do, and also if they do something else every time (`Console.runWith`).

Results:
* `AnswersApart.answerAt`: transcripts that differ in answers differ behind the echo of a line.
* `Session.SameButAnswers.act`, `Console.SameButAnswers.step`: a step keeps two consoles in step.
* `Console.SameButAnswers.runWith`: so does every run, whatever the commands are at each step.
* `Console.runWith_const`: commands that stay what they are lead to a plain run.
* `Console.commands_are_isolated`: **what a command does shows in its answer alone.**
-/

namespace CommandConsole

open Log

/-! ## Transcripts -/

/-- Two transcripts that differ at most in what came of the submitted lines. -/
inductive AnswersApart : List Entry → List Entry → Prop
  | nil : AnswersApart [] []
  | same {a b : List Entry} (h : AnswersApart a b) (entry : Entry) :
      AnswersApart (a ++ [entry]) (b ++ [entry])
  | answered {a b : List Entry} (h : AnswersApart a b) (line : String)
      (outcome outcome' : Outcome) :
      AnswersApart (a ++ [.echoed line, .outcome outcome]) (b ++ [.echoed line, .outcome outcome'])

/-- The entry at this index answers the line that is echoed in front of it. -/
def AnswerAt (entries : List Entry) (index : Nat) : Prop :=
  ∃ before line outcome, index = before + 1 ∧ entries[before]? = some (.echoed line) ∧
    entries[index]? = some (.outcome outcome)

theorem AnswerAt.append {entries : List Entry} {index : Nat} (h : AnswerAt entries index)
    (more : List Entry) : AnswerAt (entries ++ more) index := by
  obtain ⟨before, line, outcome, hindex, hecho, houtcome⟩ := h
  have hkeep : ∀ {i : Nat} {entry : Entry}, entries[i]? = some entry →
      (entries ++ more)[i]? = some entry := fun hi =>
    (List.getElem?_append_left (List.getElem?_eq_some_iff.mp hi).1).trans hi
  exact ⟨before, line, outcome, hindex, hkeep hecho, hkeep houtcome⟩

theorem answerAt_length (entries : List Entry) (line : String) (outcome : Outcome) :
    AnswerAt (entries ++ [.echoed line, .outcome outcome]) (entries.length + 1) :=
  ⟨entries.length, line, outcome, rfl, by simp, by simp⟩

namespace AnswersApart

variable {a b : List Entry}

theorem append (h : AnswersApart a b) (entries : List Entry) :
    AnswersApart (a ++ entries) (b ++ entries) := by
  induction entries generalizing a b with
  | nil =>
    rw [List.append_nil, List.append_nil]
    exact h
  | cons entry entries ih =>
    have hrest := ih (h.same entry)
    rw [List.append_assoc, List.append_assoc] at hrest
    exact hrest

theorem length_eq (h : AnswersApart a b) : a.length = b.length := by
  induction h with
  | nil => rfl
  | same _ entry ih => rw [List.length_append, List.length_append, ih]
  | answered _ line outcome outcome' ih => rw [List.length_append, List.length_append, ih]; rfl

/-- Up to the part that both transcripts get behind them, nothing changes. -/
theorem answerAt_of_lt {x y : List Entry} {index : Nat} (hlen : a.length = b.length)
    (h : a[index]? ≠ b[index]? → AnswerAt a index ∧ AnswerAt b index) (hlt : index < a.length)
    (hne : (a ++ x)[index]? ≠ (b ++ y)[index]?) :
    AnswerAt (a ++ x) index ∧ AnswerAt (b ++ y) index := by
  rw [List.getElem?_append_left hlt, List.getElem?_append_left (hlen ▸ hlt)] at hne
  obtain ⟨ha, hb⟩ := h hne
  exact ⟨ha.append x, hb.append y⟩

/-- **Transcripts that differ in answers differ behind the echo of a line.** -/
theorem answerAt (h : AnswersApart a b) {index : Nat} (hne : a[index]? ≠ b[index]?) :
    AnswerAt a index ∧ AnswerAt b index := by
  induction h with
  | nil => exact absurd rfl hne
  | @same a b h entry ih =>
    have hlen := h.length_eq
    rcases Nat.lt_or_ge index a.length with hlt | hge
    · exact answerAt_of_lt hlen ih hlt hne
    · rw [List.getElem?_append_right hge, List.getElem?_append_right (hlen ▸ hge), hlen] at hne
      exact absurd rfl hne
  | @answered a b h line outcome outcome' ih =>
    have hlen := h.length_eq
    rcases Nat.lt_or_ge index a.length with hlt | hge
    · exact answerAt_of_lt hlen ih hlt hne
    · obtain ⟨offset, rfl⟩ := Nat.exists_eq_add_of_le hge
      rw [List.getElem?_append_right hge, List.getElem?_append_right (hlen ▸ hge), ← hlen,
        Nat.add_sub_cancel_left] at hne
      match offset with
      | 0 => exact absurd rfl hne
      | 1 => exact ⟨answerAt_length a line outcome, hlen ▸ answerAt_length b line outcome'⟩
      | offset + 2 => exact absurd rfl hne

end AnswersApart

/-! ## Sessions -/

namespace Session

/-- Two sessions that differ at most in what their commands answered, and in what that asked for. -/
structure SameButAnswers (a b : Session) : Prop extends a.Alike b where
  shown : AnswersApart a.transcript.entries b.transcript.entries

namespace SameButAnswers

variable {a b : Session}

theorem receive (h : a.SameButAnswers b) (messages : List Message) :
    (a.receive messages).SameButAnswers (b.receive messages) :=
  ⟨⟨h.config, h.tokens, h.history, h.field, h.visible⟩, h.shown.append _⟩

/-- **An action shows the same in both sessions, but for the answer of a command.** -/
theorem act (h : a.SameButAnswers b) (action : Action) :
    (a.act action).value.SameButAnswers (b.act action).value := by
  refine ⟨h.toAlike.act action, ?_⟩
  rw [entries_act, entries_act, Session.shown, Session.shown, ← h.toAlike.submitted?_eq, h.history]
  cases a.submitted? action with
  | none => exact h.shown.append []
  | some line =>
    simp only [submissionEntries]
    rw [← List.append_assoc, ← List.append_assoc]
    exact (h.shown.answered line _ _).append _

end SameButAnswers

end Session

/-! ## Consoles -/

namespace Console

/-- Two consoles without a forwarder where the same messages wait, and whose sessions differ at most
in what their commands answered. -/
structure SameButAnswers (a b : Console) : Prop where
  session : a.session.SameButAnswers b.session
  waiting : a.inbox.queued = b.inbox.queued
  unheard : a.forwarder = none ∧ b.forwarder = none

/-- The console with other commands. -/
def withCommands (console : Console) (registry : Registry) : Console :=
  { console with session := { console.session with registry } }

/-- A run in which the commands may do something else every time: a step comes with the commands as
they are when it happens. -/
def runWith (console : Console) (steps : List (Registry × Step)) : Console :=
  steps.foldl (fun console step => ((console.withCommands step.1).step step.2).value) console

/-- Commands that stay what they are lead to a plain run. -/
theorem runWith_const (console : Console) (steps : List Step) :
    console.runWith (steps.map (console.session.registry, ·)) = (console.run steps).value := by
  induction steps generalizing console with
  | nil => rfl
  | cons step steps ih =>
    have hrest := ih (console.step step).value
    rw [(setup_step console step).2.1] at hrest
    exact hrest

/-- Two steps that may find different commands, but under the same tokens. -/
def SameTokens (a b : Registry × Step) : Prop :=
  a.1.tokens = b.1.tokens ∧ a.2 = b.2

namespace SameButAnswers

variable {a b : Console}

theorem withCommands (h : a.SameButAnswers b) {registry registry' : Registry}
    (htokens : registry.tokens = registry'.tokens) :
    (a.withCommands registry).SameButAnswers (b.withCommands registry') := by
  obtain ⟨⟨⟨hconfig, -, hhistory, hfield, hvisible⟩, hshown⟩, hwaiting, hunheard⟩ := h
  exact ⟨⟨⟨hconfig, htokens, hhistory, hfield, hvisible⟩, hshown⟩, hwaiting, hunheard⟩

/-- **Every step keeps two consoles in step**, whatever their commands do. -/
theorem step (h : a.SameButAnswers b) (step : Step) :
    (a.step step).value.SameButAnswers (b.step step).value := by
  obtain ⟨hsession, hwaiting, hunheard⟩ := h
  have hreceive : (a.session.receive a.inbox.queued).SameButAnswers
      (b.session.receive b.inbox.queued) := hwaiting ▸ hsession.receive a.inbox.queued
  -- Without a forwarder, records come to nothing.
  have hnone : ∀ records records' : List Record,
      forwarded a.forwarder records = forwarded b.forwarder records' := fun _ _ => by
    rw [hunheard.1, hunheard.2]
    rfl
  cases step with
  | act action =>
    refine ⟨hreceive.act action, ?_, hunheard⟩
    exact (queued_act a action).trans ((hnone _ _).trans (queued_act b action).symm)
  | poll => exact ⟨hreceive, rfl, hunheard⟩
  | send message => exact ⟨hsession, congrArg (· ++ [message]) hwaiting, hunheard⟩
  | log record => exact ⟨hsession, congrArg₂ (· ++ ·) hwaiting (hnone _ _), hunheard⟩

theorem runWith (h : a.SameButAnswers b) {steps steps' : List (Registry × Step)}
    (hsteps : List.Forall₂ SameTokens steps steps') :
    (a.runWith steps).SameButAnswers (b.runWith steps') := by
  induction hsteps generalizing a b with
  | nil => exact h
  | @cons step step' steps steps' hstep _ ih =>
    obtain ⟨htokens, hsame⟩ := hstep
    have hnext := (h.withCommands htokens).step step.2
    rw [show b.runWith (step' :: steps') =
      ((b.withCommands step'.1).step step'.2).value.runWith steps' from rfl, ← hsame]
    exact ih hnext

end SameButAnswers

/-- What an operator, and every later step, can tell of two consoles in step: they differ in the
lines that answer a submission. -/
structure Isolated (a b : Console) : Prop where
  text : a.session.field.text = b.session.field.text
  caret : a.session.field.caret = b.session.field.caret
  visible : a.session.visible = b.session.visible
  slots : a.session.history.slots = b.session.history.slots
  next : a.session.history.next = b.session.history.next
  cursor : a.session.history.cursor = b.session.history.cursor
  waiting : a.inbox.queued = b.inbox.queued
  size : a.session.transcript.lines.length = b.session.transcript.lines.length
  answers : ∀ index, a.session.transcript.lines[index]? ≠ b.session.transcript.lines[index]? →
    AnswerAt a.session.transcript.entries index ∧ AnswerAt b.session.transcript.entries index
  submits : ∀ step, a.submitted? step = b.submitted? step

theorem SameButAnswers.isolated {a b : Console} (h : a.SameButAnswers b) : a.Isolated b := by
  obtain ⟨hsession, hwaiting, -⟩ := h
  refine ⟨congrArg InputField.text hsession.field, congrArg InputField.caret hsession.field,
    hsession.visible, congrArg History.slots hsession.history,
    congrArg History.next hsession.history, congrArg History.cursor hsession.history, hwaiting,
    ?_, fun index hne => ?_, fun step => ?_⟩
  · have hlength := hsession.shown.length_eq
    rw [Transcript.lines, Transcript.lines, List.length_map, List.length_map, hlength]
  · refine hsession.shown.answerAt fun heq => hne ?_
    rw [Transcript.lines, Transcript.lines, List.getElem?_map, List.getElem?_map, heq]
  · cases step with
    | act action => exact hsession.submitted?_eq action
    | poll | send | log => rfl

/-! ## From the start -/

/-- **What a command does shows in its answer alone.** Two consoles with the same settings that the
same messages wait for, without a forwarder, may have any commands under the same tokens. Either
both are refused with the same error, or, after the same steps, both have the same input, visibility
and history, the same messages wait, the same step submits the same line, and their transcripts are
equally long and differ at most in the line right behind the echo of a submission. The same holds if
the commands do something else at every step. -/
theorem commands_are_isolated (config : Config) {registry₁ registry₂ : Registry}
    (htokens : registry₁.tokens = registry₂.tokens) (inbox : Inbox) :
    (∀ error, (start config registry₁ inbox none).value = .error error ↔
      (start config registry₂ inbox none).value = .error error) ∧
    ∀ console₁ console₂, (start config registry₁ inbox none).value = .ok console₁ →
      (start config registry₂ inbox none).value = .ok console₂ →
      (∀ steps, Isolated (console₁.run steps).value (console₂.run steps).value) ∧
      ∀ steps₁ steps₂, List.Forall₂ SameTokens steps₁ steps₂ →
        Isolated (console₁.runWith steps₁) (console₂.runWith steps₂) := by
  refine ⟨fun error => by rw [start_eq_error_iff, start_eq_error_iff], ?_⟩
  intro console₁ console₂ hstart₁ hstart₂
  obtain ⟨-, rfl⟩ := start_eq_ok_iff.mp hstart₁
  obtain ⟨-, rfl⟩ := start_eq_ok_iff.mp hstart₂
  have hsame : SameButAnswers
      ⟨.fresh config registry₁, ⟨opening config registry₁ inbox none⟩, none⟩
      ⟨.fresh config registry₂, ⟨opening config registry₂ inbox none⟩, none⟩ :=
    ⟨⟨⟨rfl, htokens, rfl, rfl, rfl⟩, .nil⟩, rfl, rfl, rfl⟩
  refine ⟨fun steps => ?_, fun steps₁ steps₂ hsteps => (hsame.runWith hsteps).isolated⟩
  rw [← runWith_const, ← runWith_const]
  refine (hsame.runWith ?_).isolated
  rw [List.forall₂_map_left_iff, List.forall₂_map_right_iff]
  exact List.forall₂_same.mpr fun step _ => ⟨htokens, rfl⟩

/-- A command that breaks down changes one line. -/
theorem commands_are_isolated_panicking :
    let manual : Manual := ⟨"Greet", "x", "", ""⟩
    let calm := (Registry.empty.register (Scripted.command manual (.say "hi"))).value.2
    let faulty := (Registry.empty.register (Scripted.command manual (.panic "boom"))).value.2
    let steps : List Step := [.act .toggleVisibility, .act (.insert 'x'), .act .submit]
    let steps₁ := [(calm, Step.poll), (faulty, .act .toggleVisibility)]
    let steps₂ := [(faulty, Step.poll), (calm, .act .toggleVisibility)]
    calm.tokens = faulty.tokens ∧
    ∃ console₁ console₂, (start .default calm .empty none).value = .ok console₁ ∧
      (start .default faulty .empty none).value = .ok console₂ ∧
      Isolated (console₁.run steps).value (console₂.run steps).value ∧
      (console₁.run steps).value.session.transcript.lines = ["x", "hi"] ∧
      (console₂.run steps).value.session.transcript.lines =
        ["x", "[Exception] command panicked: boom"] ∧
      List.Forall₂ SameTokens steps₁ steps₂ ∧
      Isolated (console₁.runWith steps₁) (console₂.runWith steps₂) := by
  intro manual calm faulty steps steps₁ steps₂
  have htokens : calm.tokens = faulty.tokens := rfl
  have hstart₁ := start_of_valid (show Config.default.validate = .ok () from rfl) calm .empty none
  have hstart₂ := start_of_valid (show Config.default.validate = .ok () from rfl) faulty .empty none
  obtain ⟨-, hruns⟩ := commands_are_isolated .default htokens .empty
  obtain ⟨hrun, hrunWith⟩ := hruns _ _ hstart₁ hstart₂
  have hsteps : List.Forall₂ SameTokens steps₁ steps₂ :=
    .cons ⟨htokens, rfl⟩ (.cons ⟨htokens.symm, rfl⟩ .nil)
  have hcall : Invocation.ofLine? "x" = some ⟨"x", []⟩ := by decide
  have hcalm : (calm.dispatch "x").value = .ok (.text "hi") := by
    rw [Registry.dispatch_of_command hcall (show calm.lookup "x" = some _ from rfl),
      Registry.execute_of_reply? (Registry.reply?_of_done rfl)]
    rfl
  have hfaulty : (faulty.dispatch "x").value = .error (.commandPanicked "boom") := by
    rw [Registry.dispatch_of_command hcall (show faulty.lookup "x" = some _ from rfl),
      Registry.execute_of_reply? (Registry.reply?_of_done rfl)]
    rfl
  refine ⟨htokens, _, _, hstart₁, hstart₂, hrun steps, ?_, ?_, hsteps, hrunWith _ _ hsteps⟩
  · exact congrArg (fun outcome => ["x", Outcome.text outcome]) hcalm
  · exact congrArg (fun outcome => ["x", Outcome.text outcome]) hfaulty

end Console

end CommandConsole
