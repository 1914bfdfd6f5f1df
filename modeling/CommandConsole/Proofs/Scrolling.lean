import CommandConsole.Proofs.Run
import CommandConsole.Screen
import Mathlib.Data.List.DropRight

/-!
# What a screen has printed

A screen follows a console that goes on between two flushes. The count of printed lines is all that
it remembers, which is enough because a transcript only grows: the lines behind the count are the
ones that came since.

A `Terminal` is a console with its screen and the pages that the flushes wrote. `Terminal.run?` is
`Terminal.run` with the cut at the count checked.

Results:
* `Console.lines_run`: a transcript only grows.
* `Terminal.Faithful.next`: **what was printed stays the beginning of the transcript.**
* `Terminal.run?_eq`: no cut is outside the transcript.
* `Terminal.pages_flush`: a flush prints what came since the last one.
* `Terminal.screen_follows_transcript`: **the pages of a run without their prompts are its
  transcript**, wherever it was flushed.
-/

namespace CommandConsole

namespace Transcript

theorem block_append (first second : List String) :
    block (first ++ second) = block first ++ block second := by
  unfold block
  rw [List.map_append, String.join_append]

theorem length_lines (transcript : Transcript) : transcript.lines.length = transcript.size :=
  List.length_map _

end Transcript

/-! ## Transcripts only grow -/

namespace Console

/-- The lines that a step appends to the transcript. -/
def appended (console : Console) (step : Step) : List String :=
  (console.drained step).map Log.Message.line ++ (console.shown step).map Entry.text

theorem lines_step_appended (console : Console) (step : Step) :
    (console.step step).value.session.transcript.lines =
      console.session.transcript.lines ++ console.appended step := by
  unfold Transcript.lines appended
  rw [entries_step, List.map_append, List.map_append, List.map_map, List.append_assoc]
  rfl

/-- **A transcript only grows**, by the lines that the steps append. -/
theorem lines_run (console : Console) (steps : List Step) :
    (console.run steps).value.session.transcript.lines =
      console.session.transcript.lines ++ console.collect appended steps := by
  refine run_collect (P := fun lines next => next.session.transcript.lines = lines) ?_ rfl steps
  rintro lines next step rfl
  exact lines_step_appended next step

end Console

/-! ## The checked cut -/

namespace Screen

/-- `fresh`: the cut has to be inside the transcript. -/
def fresh? (screen : Screen) (session : Session) : Option (List String) :=
  if screen.printed ≤ session.transcript.lines.length then
    some (session.transcript.lines.drop screen.printed)
  else none

/-- `flush`. -/
def flush? (screen : Screen) (session : Session) : Option (String × Screen) := do
  let lines ← screen.fresh? session
  some (Transcript.block lines ++ prompt session, ⟨session.transcript.size⟩)

theorem flush?_eq {screen : Screen} {session : Session}
    (h : screen.printed ≤ session.transcript.lines.length) :
    screen.flush? session = some (screen.flush session) := by
  unfold flush? fresh?
  rw [if_pos h]
  rfl

/-- The line that is being typed is shown exactly while the console is visible and something was
typed. -/
theorem prompt_of_visible {session : Session} (hv : session.visible = true)
    (ht : session.field.text ≠ "") : prompt session = "> " ++ session.field.text ++ "\n" := by
  simp [prompt, hv, ht]

theorem prompt_of_not_visible {session : Session}
    (h : ¬ (session.visible = true ∧ session.field.text ≠ "")) : prompt session = "" := by
  unfold prompt
  rw [if_neg]
  simpa using h

end Screen

/-! ## Terminals -/

/-- What one flush wrote. -/
structure Page where
  /-- All that it wrote. -/
  written : String
  /-- The line that was being typed, at the end of it. -/
  prompt : String

namespace Page

/-- A page without its prompt. -/
def body (page : Page) : String :=
  String.ofList (page.written.toList.rdrop page.prompt.length)

theorem body_append (lines prompt : String) : body ⟨lines ++ prompt, prompt⟩ = lines := by
  rw [body, String.toList_append, ← String.length_toList, List.rdrop_append_length,
    String.ofList_toList]

/-- A page that holds these lines, each once and in order, and then what is being typed in this
session. -/
structure Prints (page : Page) (lines : List String) (session : Session) : Prop where
  written : page.written = Transcript.block lines ++ page.prompt
  typed : session.visible = true → session.field.text ≠ "" →
    page.prompt = "> " ++ session.field.text ++ "\n"
  untyped : ¬ (session.visible = true ∧ session.field.text ≠ "") → page.prompt = ""

theorem prints (lines : List String) (session : Session) :
    Prints ⟨Transcript.block lines ++ Screen.prompt session, Screen.prompt session⟩ lines session :=
  ⟨rfl, Screen.prompt_of_visible, Screen.prompt_of_not_visible⟩

end Page

/-- A console, the screen that prints it, and the pages that the flushes wrote. -/
structure Terminal where
  console : Console
  screen : Screen
  pages : List Page

namespace Terminal

/-- What happens at a terminal. -/
inductive Event where
  /-- A step of the console. -/
  | step (step : Step)
  /-- The screen is flushed. -/
  | flush

/-- The step of an event, if it is one. -/
def Event.step? : Event → Option Step
  | .step taken => some taken
  | .flush => none

/-- A terminal on which nothing was printed; its console may have shown something already. -/
def fresh (console : Console) : Terminal := ⟨console, .blank, []⟩

def next (terminal : Terminal) : Event → Terminal
  | .step step => { terminal with console := (terminal.console.step step).value }
  | .flush =>
    let (written, screen) := terminal.screen.flush terminal.console.session
    let page : Page := ⟨written, Screen.prompt terminal.console.session⟩
    { terminal with screen, pages := terminal.pages ++ [page] }

/-- `next`, with a checked cut. -/
def next? (terminal : Terminal) : Event → Option Terminal
  | .step step => some { terminal with console := (terminal.console.step step).value }
  | .flush => do
    let (written, screen) ← terminal.screen.flush? terminal.console.session
    let page : Page := ⟨written, Screen.prompt terminal.console.session⟩
    some { terminal with screen, pages := terminal.pages ++ [page] }

def run (terminal : Terminal) (events : List Event) : Terminal :=
  events.foldl next terminal

/-- `run`: no cut on the way may be outside the transcript. -/
def run? (terminal : Terminal) (events : List Event) : Option Terminal :=
  events.foldlM next? terminal

/-- What was printed, without the prompts. -/
def printed (terminal : Terminal) : String :=
  String.join (terminal.pages.map Page.body)

/-- The pages without their prompts are the lines that the screen has counted. -/
structure Faithful (terminal : Terminal) : Prop where
  printed_le : terminal.screen.printed ≤ terminal.console.session.transcript.lines.length
  printed_eq : terminal.printed =
    Transcript.block (terminal.console.session.transcript.lines.take terminal.screen.printed)

variable {terminal : Terminal}

theorem run_append (terminal : Terminal) (first second : List Event) :
    terminal.run (first ++ second) = (terminal.run first).run second :=
  List.foldl_append

/-- A flush does nothing to the console, so that a terminal goes through the steps of its console. -/
theorem console_run (terminal : Terminal) (events : List Event) :
    (terminal.run events).console = (terminal.console.run (events.filterMap Event.step?)).value := by
  induction events generalizing terminal with
  | nil => rfl
  | cons event events ih =>
    have hrest := ih (terminal.next event)
    cases event with
    | step step => exact hrest
    | flush => exact hrest

/-- Steps of the console print nothing. -/
theorem run_steps (terminal : Terminal) (steps : List Step) :
    terminal.run (steps.map .step) =
      { terminal with console := (terminal.console.run steps).value } := by
  induction steps generalizing terminal with
  | nil => rfl
  | cons step steps ih => exact ih (terminal.next (.step step))

/-! ## What was printed -/

theorem faithful_fresh (console : Console) : (fresh console).Faithful :=
  ⟨Nat.zero_le _, rfl⟩

theorem printed_flush (terminal : Terminal) :
    (terminal.next .flush).printed =
      terminal.printed ++ Transcript.block (terminal.screen.fresh terminal.console.session) := by
  have hbody : (⟨(terminal.screen.flush terminal.console.session).1,
      Screen.prompt terminal.console.session⟩ : Page).body =
        Transcript.block (terminal.screen.fresh terminal.console.session) := Page.body_append _ _
  unfold printed
  rw [show (terminal.next .flush).pages = terminal.pages ++
    [⟨(terminal.screen.flush terminal.console.session).1,
      Screen.prompt terminal.console.session⟩] from rfl]
  rw [List.map_append, String.join_append, List.map_singleton, hbody, String.join_cons,
    String.join_nil, String.append_empty]

/-- **What was printed stays the beginning of the transcript:** a step appends to the transcript,
and a flush prints the rest of it. -/
theorem Faithful.next (h : terminal.Faithful) (event : Event) : (terminal.next event).Faithful := by
  obtain ⟨hle, heq⟩ := h
  cases event with
  | step step =>
    have hlines := Console.lines_step_appended terminal.console step
    refine ⟨?_, ?_⟩
    · show terminal.screen.printed ≤
        (terminal.console.step step).value.session.transcript.lines.length
      rw [hlines, List.length_append]
      exact Nat.le_add_right_of_le hle
    · show terminal.printed = Transcript.block
        ((terminal.console.step step).value.session.transcript.lines.take terminal.screen.printed)
      rw [hlines, List.take_append_of_le_length hle, heq]
  | flush =>
    have hall : (terminal.next .flush).screen.printed =
        terminal.console.session.transcript.lines.length :=
      (Transcript.length_lines _).symm
    refine ⟨Nat.le_of_eq hall, ?_⟩
    rw [printed_flush, heq, hall, Screen.fresh, ← Transcript.block_append, List.take_append_drop]
    show _ = Transcript.block (terminal.console.session.transcript.lines.take _)
    rw [List.take_length]

theorem Faithful.run (h : terminal.Faithful) (events : List Event) :
    (terminal.run events).Faithful :=
  Trace.foldl_keeps (fun _ event h => h.next event) h events

theorem Faithful.next?_eq (h : terminal.Faithful) (event : Event) :
    terminal.next? event = some (terminal.next event) := by
  cases event with
  | step step => rfl
  | flush =>
    unfold next?
    rw [Screen.flush?_eq h.printed_le]
    rfl

/-- **No cut is ever outside the transcript.** -/
theorem Faithful.run?_eq (h : terminal.Faithful) (events : List Event) :
    terminal.run? events = some (terminal.run events) := by
  induction events generalizing terminal with
  | nil => rfl
  | cons event events ih =>
    rw [run?, List.foldlM_cons, h.next?_eq]
    exact ih (h.next event)

/-- A flush after some steps prints what was not printed before them. -/
theorem pages_flush (terminal : Terminal) (steps : List Step) :
    let session := (terminal.console.run steps).value.session
    (terminal.run (steps.map .step ++ [.flush])).pages = terminal.pages ++
      [⟨Transcript.block (session.transcript.lines.drop terminal.screen.printed) ++
        Screen.prompt session, Screen.prompt session⟩] := by
  rw [run_append, run_steps]
  rfl

/-- **A flush prints the lines that were appended since the last one.** -/
theorem prints_appended (terminal : Terminal) (steps : List Step) :
    let last := terminal.next .flush
    ∃ page, (last.run (steps.map .step ++ [.flush])).pages = last.pages ++ [page] ∧
      page.Prints (last.console.collect Console.appended steps)
        (last.console.run steps).value.session := by
  intro last
  have hpage := pages_flush last steps
  have hcut : last.screen.printed = last.console.session.transcript.lines.length :=
    (Transcript.length_lines _).symm
  simp only [hcut, Console.lines_run, List.drop_left] at hpage
  exact ⟨_, hpage, Page.prints _ _⟩

/-- The first flush prints the whole transcript. -/
theorem prints_all (console : Console) (steps : List Step) :
    let session := (console.run steps).value.session
    ∃ page, ((fresh console).run (steps.map .step ++ [.flush])).pages = [page] ∧
      page.Prints session.transcript.lines session :=
  ⟨_, pages_flush (fresh console) steps, Page.prints _ _⟩

/-- After a flush, the whole transcript was printed. -/
theorem Faithful.printed_flush_eq (h : terminal.Faithful) :
    (terminal.next .flush).printed = terminal.console.session.transcript.text := by
  rw [printed_flush, h.printed_eq, Screen.fresh, ← Transcript.block_append, List.take_append_drop]
  rfl

theorem run_flush (terminal : Terminal) (events : List Event) :
    terminal.run (events ++ [.flush]) = (terminal.run events).next .flush :=
  run_append terminal events [.flush]

/-- **The pages of a run without their prompts are its transcript**, for any console and a screen on
which nothing was printed. No cut on the way is outside the transcript, and flushes do nothing to
the console. The first flush prints all the lines of the transcript, every other one those that were
appended since the flush before it, each once and in order, and behind them the line that is being
typed exactly if the console is visible and the line is not empty. So what was printed up to a flush
is the text of the transcript at that flush, and depends on the steps alone. -/
theorem screen_follows_transcript (console : Console) :
    (∀ events, (fresh console).run? events = some ((fresh console).run events) ∧
      ((fresh console).run events).console =
        (console.run (events.filterMap Event.step?)).value) ∧
    (∀ steps, let session := (console.run steps).value.session
      ∃ page, ((fresh console).run (steps.map .step ++ [.flush])).pages = [page] ∧
        page.Prints session.transcript.lines session) ∧
    (∀ events steps, let last := (fresh console).run (events ++ [.flush])
      let session := (last.console.run steps).value.session
      ∃ page lines, (last.run (steps.map .step ++ [.flush])).pages = last.pages ++ [page] ∧
        session.transcript.lines = last.console.session.transcript.lines ++ lines ∧
        page.Prints lines session) ∧
    (∀ events, let last := (fresh console).run (events ++ [.flush])
      last.printed = last.console.session.transcript.text) ∧
    ∀ events events', events.filterMap Event.step? = events'.filterMap Event.step? →
      ((fresh console).run (events ++ [.flush])).printed =
        ((fresh console).run (events' ++ [.flush])).printed := by
  have hfaithful := fun events => (faithful_fresh console).run events
  have hprinted : ∀ events, ((fresh console).run (events ++ [.flush])).printed =
      (console.run (events.filterMap Event.step?)).value.session.transcript.text := by
    intro events
    rw [run_flush, (hfaithful events).printed_flush_eq, console_run]
    rfl
  refine ⟨fun events => ⟨(faithful_fresh console).run?_eq events, console_run _ events⟩,
    prints_all console, fun events steps => ?_, fun events => ?_, fun events events' h => ?_⟩
  · obtain ⟨page, hpages, hprints⟩ := prints_appended ((fresh console).run events) steps
    rw [run_flush]
    exact ⟨page, _, hpages, Console.lines_run _ steps, hprints⟩
  · show ((fresh console).run (events ++ [.flush])).printed = _
    rw [run_flush]
    exact (hfaithful events).printed_flush_eq
  · rw [hprinted, hprinted, h]

/-- A flush in the middle of a line shows the prompt once more, but prints no line twice. -/
theorem screen_follows_transcript_twice :
    let console : Console := ⟨.fresh .default .empty, ⟨[⟨.info, "ready"⟩]⟩, none⟩
    let typed : List Event := [.step (.act .toggleVisibility), .step (.act (.insert 'x'))]
    let twice := typed ++ [.flush, .step (.act .submit)]
    let once := typed ++ [.step (.act .submit)]
    twice.filterMap Event.step? = once.filterMap Event.step? ∧
    ((fresh console).run (twice ++ [.flush])).printed =
      ((fresh console).run (once ++ [.flush])).printed ∧
    ((fresh console).run (twice ++ [.flush])).pages.map Page.written =
      ["[Info] ready\n> x\n", "x\n[Warning] Command not recognized\n"] := by
  intro console typed twice once
  obtain ⟨-, -, -, -, hsame⟩ := screen_follows_transcript console
  have hsteps : twice.filterMap Event.step? = once.filterMap Event.step? := rfl
  refine ⟨hsteps, hsame twice once hsteps, ?_⟩
  decide +kernel

end Terminal

end CommandConsole
