import CommandConsole.Proofs.Run

/-!
# What a console shows

The transcript in closed form. A step shows the messages that waited, in order; a submitted line is
then echoed, answered by one line, and followed by a notice if it is the last of a multiple of the
history's slots. Nothing else is ever shown.

`Reads` says how each outcome reads, with the texts written out, and `reads_iff` that it is what the
transcript shows.

Results:
* `reads_iff`: every outcome has exactly one reading.
* `lines_step`: what one step shows, for a history that holds the submitted lines.
* `length_lines_run`: how many lines a run shows.
* `shows_from_start`: **what a console shows over any run from its start.**
-/

namespace CommandConsole

open Log

/-- How an outcome reads in the transcript. -/
inductive Reads : Outcome → String → Prop where
  | text (content : String) : Reads (.ok (.text content)) content
  | silent : Reads (.ok .silent) "Command executed successfully"
  | quit : Reads (.ok .quit) "Quitting..."
  | panicked (message : String) :
    Reads (.error (.commandPanicked message)) ("[Exception] " ++ "command panicked: " ++ message)
  /-- The other outcomes of a dispatch. -/
  | refused {error : Error} (h : error.isDispatchOutcome = true)
      (hp : ∀ message, error ≠ .commandPanicked message) :
    Reads (.error error) ("[Warning] " ++ error.message)
  /-- What no dispatch comes to by itself. -/
  | failed {error : Error} (h : error.isDispatchOutcome = false) :
    Reads (.error error) ("[Error] " ++ error.message)

theorem reads_text (outcome : Outcome) : Reads outcome outcome.text := by
  match outcome with
  | .ok (.text content) => exact .text content
  | .ok .silent => exact .silent
  | .ok .quit => exact .quit
  | .error (.commandPanicked message) =>
    have h := Reads.panicked message
    rw [String.append_assoc] at h
    exact h
  | .error .notRecognized => exact .refused rfl fun _ => by simp
  | .error .parametersAmount => exact .refused rfl fun _ => by simp
  | .error .typeNotSupported => exact .refused rfl fun _ => by simp
  | .error (.config _) => exact .failed rfl
  | .error (.io _) => exact .failed rfl
  | .error (.document _) => exact .failed rfl

/-- **The transcript shows an outcome the way it reads.** -/
theorem reads_iff {outcome : Outcome} {line : String} :
    Reads outcome line ↔ line = outcome.text := by
  constructor
  · intro h
    cases h with
    | text => rfl
    | silent => rfl
    | quit => rfl
    | panicked message => rw [String.append_assoc]; rfl
    | @refused error h hp =>
      cases error with
      | commandPanicked message => exact absurd rfl (hp message)
      | notRecognized | parametersAmount | typeNotSupported => rfl
      | config | io | document => exact absurd h Bool.false_ne_true
    | @failed error h =>
      cases error with
      | config | io | document => rfl
      | _ => exact absurd h.symm Bool.false_ne_true
  · rintro rfl
    exact reads_text outcome

namespace Console

/-- The lines that a submission shows in a console that submitted `count` lines before: the echo,
the answer, and a notice if the history is full. -/
def responseLines (capacity count : Nat) (line answer : String) : List String :=
  [line, answer] ++ if 0 < capacity ∧ capacity ∣ count + 1 then [clearedText] else []

/-- The lines that a step shows behind the messages that waited. -/
def response (console : Console) (capacity count : Nat) (step : Step) : List String :=
  match console.submitted? step with
  | none => []
  | some line =>
    responseLines capacity count line (console.session.registry.dispatch line).value.text

variable {console : Console} {capacity : Nat} {lines : List String}

theorem resultAfter_eq_cleared_iff {count : Nat} :
    History.resultAfter capacity count = .cleared ↔ 0 < capacity ∧ capacity ∣ count + 1 := by
  unfold History.resultAfter
  by_cases h0 : capacity = 0
  · rw [if_pos h0]
    exact ⟨fun h => absurd h (by simp), fun h => absurd h0 (Nat.ne_of_gt h.1)⟩
  · rw [if_neg h0]
    have hpos := Nat.pos_of_ne_zero h0
    by_cases hd : capacity ∣ count + 1
    · rw [if_pos hd]
      exact ⟨fun _ => ⟨hpos, hd⟩, fun _ => rfl⟩
    · rw [if_neg hd]
      exact ⟨fun h => absurd h (by simp), fun h => absurd h.2 hd⟩

/-- What came of a submitted line reads as its response. -/
theorem text_shown (h : History.Holds capacity lines console.session.history) (step : Step) :
    (console.shown step).map Entry.text = console.response capacity lines.length step := by
  cases step with
  | act action =>
    simp only [shown, Session.shown, response, submitted?]
    cases console.session.submitted? action with
    | none => rfl
    | some line =>
      simp only [Session.submissionEntries, h.result_store, resultAfter_eq_cleared_iff,
        responseLines]
      split <;> rfl
  | poll | send | log => rfl

/-- **What one step shows:** the messages that waited, and then the response to a submitted line. -/
theorem lines_step (h : History.Holds capacity lines console.session.history) (step : Step) :
    (console.step step).value.session.transcript.lines =
      console.session.transcript.lines ++ (console.drained step).map Message.line ++
        console.response capacity lines.length step := by
  unfold Transcript.lines
  rw [entries_step, List.map_append, List.map_append, List.map_map, text_shown h]
  rfl

theorem lines_start {config : Config} {registry : Registry} {inbox : Inbox}
    {forwarder : Option Forwarder}
    (h : (start config registry inbox forwarder).value = .ok console) :
    console.session.transcript.lines = [] := by
  rw [Transcript.lines, entries_start h]
  rfl

/-- A submission shows two lines, and one more for every clearing of the history. -/
theorem length_response (console : Console) (capacity : Nat) (step : Step) (count : Nat) :
    (console.response capacity count step).length + count / capacity =
      2 * (console.submitted? step).toList.length +
        (count + (console.submitted? step).toList.length) / capacity := by
  unfold response
  cases console.submitted? step with
  | none => simp
  | some line =>
    simp only [responseLines, Option.toList_some, List.length_singleton]
    by_cases hd : capacity ∣ count + 1
    · have hpos : 0 < capacity := Nat.pos_of_dvd_of_pos hd (Nat.succ_pos count)
      rw [if_pos ⟨hpos, hd⟩, Nat.succ_div_of_dvd hd]
      simp
      omega
    · rw [if_neg fun h => hd h.2, Nat.succ_div_of_not_dvd hd]
      simp

/-- **How many lines a run shows.** -/
theorem length_lines_run (h : History.Holds capacity lines console.session.history)
    (steps : List Step) :
    (console.run steps).value.session.transcript.lines.length + lines.length / capacity =
      console.session.transcript.lines.length + (console.collect drained steps).length +
        2 * (console.submissions steps).length +
          (lines.length + (console.submissions steps).length) / capacity := by
  -- Every step has the quotient of its count on both sides, so that they cancel along the run.
  induction steps generalizing console lines with
  | nil => simp [collect, Trace.collect, submissions]
  | cons step steps ih =>
    have hstep := congrArg List.length (lines_step h step)
    have hresponse := length_response console capacity step lines.length
    have hrest := ih (holds_step h step)
    simp only [List.length_append, List.length_map] at hstep hrest
    simp only [run_cons, Logged.value_bind, collect, Trace.collect, submissions, List.length_append]
      at hrest ⊢
    rw [Nat.add_assoc lines.length] at hrest
    omega

/-- **What a console shows over any run from its start.** A step shows first the messages that
waited, in order, and then, only if it submits a line, the line, the one line that reads the outcome
of its dispatch, and the notice if this line completes a multiple of the slots. So the transcript is as
long as the messages shown, twice the lines submitted, and the clearings taken together. -/
theorem shows_from_start {config : Config} (hvalid : config.validate = .ok ())
    (registry : Registry) (inbox : Inbox) (forwarder : Option Forwarder) :
    ∃ console, (start config registry inbox forwarder).value = .ok console ∧
      console.session.transcript.lines = [] ∧
      ∀ steps : List Step,
        let before := (console.run steps).value
        let count := (console.submissions steps).length
        (∀ step, before.submitted? step = none →
          (before.step step).value.session.transcript.lines =
            before.session.transcript.lines ++ (before.drained step).map Message.line) ∧
        (∀ step line, before.submitted? step = some line →
          ∃ answer, Reads (registry.dispatch line).value answer ∧
            (∀ other, Reads (registry.dispatch line).value other → other = answer) ∧
            (before.step step).value.session.transcript.lines =
              before.session.transcript.lines ++ (before.drained step).map Message.line ++
                [line, answer] ++
                if 0 < config.historyCapacity ∧ config.historyCapacity ∣ count + 1 then
                  [clearedText]
                else []) ∧
        before.session.transcript.lines.length =
          (console.collect drained steps).length + 2 * count + count / config.historyCapacity := by
  have hstart := start_of_valid hvalid registry inbox forwarder
  have hempty := lines_start hstart
  refine ⟨_, hstart, hempty, fun steps => ?_⟩
  have hholds := holds_run (holds_start hstart) steps
  refine ⟨fun step hnone => ?_, fun step line hsome => ?_, ?_⟩
  · have hstep := lines_step hholds step
    rw [response, hnone, List.append_nil] at hstep
    exact hstep
  · have hstep := lines_step hholds step
    rw [response, hsome, List.nil_append, (setup_run _ steps).2.1] at hstep
    refine ⟨_, reads_iff.mpr rfl, fun other => reads_iff.mp, ?_⟩
    rw [List.append_assoc _ [line, _]]
    exact hstep
  · have hlength := length_lines_run (holds_start hstart) steps
    rw [hempty] at hlength
    simp only [List.length_nil, Nat.zero_div, Nat.add_zero, Nat.zero_add] at hlength
    exact hlength

/-- One waiting message and one submitted line make three lines. -/
theorem shows_from_start_default :
    Config.default.validate = .ok () ∧
      ∃ console, (start .default .empty ⟨[⟨.info, "ready"⟩]⟩ none).value = .ok console ∧
        let typed := (console.run [.act .toggleVisibility, .act (.insert 'x')]).value
        typed.submitted? .poll = none ∧
        (typed.step .poll).value.session.transcript.lines = ["[Info] ready"] ∧
        typed.submitted? (.act .submit) = some "x" ∧
        (∃ answer, Reads (Registry.empty.dispatch "x").value answer ∧
          (typed.step (.act .submit)).value.session.transcript.lines =
            ["[Info] ready", "x", answer]) ∧
        (console.run [.act .toggleVisibility, .act (.insert 'x'), .act .submit]
          ).value.session.transcript.lines.length = 3 := by
  obtain ⟨console, hstart, -, hrun⟩ :=
    shows_from_start (show Config.default.validate = .ok () from rfl) .empty
      ⟨[⟨.info, "ready"⟩]⟩ none
  obtain ⟨hquiet, hsubmit, -⟩ := hrun [.act .toggleVisibility, .act (.insert 'x')]
  obtain ⟨-, -, hlength⟩ := hrun [.act .toggleVisibility, .act (.insert 'x'), .act .submit]
  obtain ⟨-, rfl⟩ := start_eq_ok_iff.mp hstart
  obtain ⟨answer, hreads, -, hshown⟩ := hsubmit (.act .submit) "x" rfl
  exact ⟨rfl, _, hstart, rfl, hquiet .poll rfl, rfl, ⟨answer, hreads, hshown⟩, hlength⟩

end Console

end CommandConsole
