import CommandConsole.Host
import CommandConsole.Proofs.Alike
import CommandConsole.Proofs.Returning

/-!
# Reading line by line

The host program is a fold over the lines of its input. A `Stage` is the program between two lines:
it reads on, or it is over, and then no line changes anything. What was printed is never taken
back, and the program is over for one of three reasons: its configuration was refused, it submitted
`quit`, or it came to a line that is not a text.

Results:
* `run_eq_foldl`: **the program is the fold of `Stage.next` over its lines.**
* `lines_append`: input that stops between two lines is cut where it stops.
* `asksToQuit_dispatch_iff`: of the built-in commands, only the line `quit` asks to quit.
* `Stage.takes_next`: what one line can do.
* `Stage.stdout_foldl`, `Stage.over_foldl_iff`, `Stage.exitCode_foldl`: any series of lines.
* `run_streams`: **the whole program on the beginning of its input and on more of it.**
-/

namespace CommandConsole

open Log

/-! ## Asking to quit -/

namespace Builtin

variable {registry : Registry} {line : String}

theorem asksToQuit_quit (registry : Registry) (call : Invocation) :
    Session.asksToQuit (registry.execute quit call).value = true ↔ call.args = [] := by
  rw [Registry.execute_of_reply? (reply?_quit registry call.args)]
  cases hargs : call.args with
  | nil => exact iff_of_true rfl rfl
  | cons arg args => exact iff_of_false Bool.false_ne_true (List.cons_ne_nil arg args)

theorem asksToQuit_help (registry : Registry) (call : Invocation) :
    Session.asksToQuit (registry.execute help call).value = false := by
  rw [Registry.execute_of_reply? (reply?_help registry call.args)]
  show Session.asksToQuit (Reply.settle _) = false
  dsimp only [Logged.value_pure]
  split
  · unfold helpAll
    split <;> rfl
  · unfold helpOne
    split <;> rfl
  · rfl

theorem eq_quit_or_eq_help (h : registry.commands = all) {token : String} {command : Command}
    (hfound : registry.lookup token = some command) : command = quit ∨ command = help := by
  have hmem : command ∈ all := h ▸ Registry.mem_of_lookup hfound
  simpa [all] using hmem

/-- **Of the built-in commands, only the line `quit` asks to quit.** -/
theorem asksToQuit_dispatch_iff (h : registry.commands = all) :
    Session.asksToQuit (registry.dispatch line).value = true ↔ line = "quit" := by
  constructor
  · intro hasks
    cases hcall : Invocation.ofLine? line with
    | none =>
      rw [Registry.dispatch_of_blank hcall] at hasks
      cases hasks
    | some call =>
      cases hfound : registry.lookup call.token with
      | none =>
        rw [Registry.dispatch_of_unknown hcall hfound] at hasks
        cases hasks
      | some command =>
        have htoken := Registry.token_of_lookup hfound
        rw [Registry.dispatch_of_command hcall hfound] at hasks
        rcases eq_quit_or_eq_help h hfound with rfl | rfl
        · have hargs := (asksToQuit_quit registry call).mp hasks
          rw [← Invocation.line_ofLine? hcall, Invocation.line, hargs, ← htoken]
          rfl
        · rw [asksToQuit_help] at hasks
          cases hasks
  · rintro rfl
    have hcall : Invocation.ofLine? "quit" = some ⟨"quit", []⟩ := by decide
    have hfound : registry.lookup "quit" = some quit := by
      rw [Registry.lookup, h]
      rfl
    rw [Registry.dispatch_of_command hcall hfound]
    exact (asksToQuit_quit registry _).mpr rfl

end Builtin

namespace Console

theorem quitRequested_step (console : Console) (step : Step) :
    (console.step step).value.session.quitRequested =
      (console.session.quitRequested || (console.submitted? step).any fun line =>
        Session.asksToQuit (console.session.registry.dispatch line).value) := by
  cases step with
  | act action =>
    exact Session.quitRequested_act (console.session.receive console.inbox.queued) action
  | poll | send | log => exact (Bool.or_false _).symm

/-- **A run asks to quit exactly if a line that it submits does.** -/
theorem quitRequested_run (console : Console) (steps : List Step) :
    (console.run steps).value.session.quitRequested =
      (console.session.quitRequested || (console.submissions steps).any fun line =>
        Session.asksToQuit (console.session.registry.dispatch line).value) := by
  induction steps generalizing console with
  | nil => exact (Bool.or_false _).symm
  | cons step steps ih =>
    have hrest := ih (console.step step).value
    rw [(setup_step console step).2.1, quitRequested_step] at hrest
    refine hrest.trans ?_
    simp only [submissions, collect, Trace.collect, List.any_append, Bool.or_assoc]
    cases console.submitted? step with
    | none => rfl
    | some line => simp

end Console

namespace Host

/-! ## Lines -/

/-- Input that stops between two lines. -/
def EndsLine (input : List UInt8) : Prop :=
  input = [] ∨ ∃ front, input = front ++ [10]

theorem rawLines_ne_nil {input : List UInt8} (h : input ≠ []) : rawLines input ≠ [] := by
  cases input with
  | nil => exact absurd rfl h
  | cons byte rest =>
    unfold rawLines
    split
    · exact List.cons_ne_nil _ _
    · split <;> exact List.cons_ne_nil _ _

theorem rawLines_append_feed (front rest : List UInt8) :
    rawLines (front ++ [10] ++ rest) = rawLines (front ++ [10]) ++ rawLines rest := by
  induction front with
  | nil => rfl
  | cons byte front ih =>
    rw [List.cons_append, List.cons_append, rawLines, rawLines, ih]
    split
    · rfl
    · cases hfront : rawLines (front ++ [10]) with
      | nil => exact absurd hfront (rawLines_ne_nil (by simp))
      | cons line lines => rfl

/-- **Input that stops between two lines is cut where it stops.** -/
theorem lines_append {front : List UInt8} (h : EndsLine front) (rest : List UInt8) :
    lines (front ++ rest) = lines front ++ lines rest := by
  rcases h with rfl | ⟨front, rfl⟩
  · rfl
  · rw [lines, rawLines_append_feed, List.map_append]
    rfl

/-! ## Stages -/

/-- The program between two lines. -/
inductive Stage where
  /-- It reads on, and has printed this much. -/
  | reading (printed : String) (host : Host)
  /-- It is over. -/
  | ended (report : Report)

namespace Stage

/-- The program when it is about to read its input. -/
def start (setup : Setup) : Stage :=
  match Host.start setup with
  | .error error => .ended (.failed error.message error.cause?)
  | .ok (printed, host) => .reading printed host

/-- One line. -/
def next (stage : Stage) (raw : List UInt8) : Stage :=
  match stage with
  | .ended report => .ended report
  | .reading printed host =>
    match decode? raw with
    | none => .ended ((Report.failed Config.notText none).after printed)
    | some line =>
      let (shown, next) := host.line line
      if next.isDone then .ended { stdout := printed ++ shown }
      else .reading (printed ++ shown) next

/-- What the program leaves behind if the input ends here. -/
def report : Stage → Report
  | .reading printed _ => { stdout := printed }
  | .ended report => report

theorem foldl_ended (report : Report) (raws : List (List UInt8)) :
    raws.foldl next (.ended report) = .ended report := by
  induction raws with
  | nil => rfl
  | cons raw raws ih => exact ih

theorem after_after (report : Report) (first second : String) :
    (report.after second).after first = report.after (first ++ second) :=
  congrArg (Report.mk · report.stderr report.exitCode) (String.append_assoc ..).symm

theorem report_foldl_reading (printed : String) (host : Host) (raws : List (List UInt8)) :
    (raws.foldl next (.reading printed host)).report = (host.feed raws).after printed := by
  induction raws generalizing printed host with
  | nil => exact congrArg (Report.mk · "" 0) String.append_empty.symm
  | cons raw raws ih =>
    rw [List.foldl_cons, next, feed]
    cases decode? raw with
    | none => exact congrArg report (foldl_ended _ _)
    | some line =>
      simp only
      by_cases hdone : (host.line line).2.isDone = true
      · rw [if_pos hdone, if_pos hdone, foldl_ended]
        rfl
      · rw [if_neg hdone, if_neg hdone, after_after]
        exact ih _ _

end Stage

/-- **The program is the fold of its lines.** -/
theorem run_eq_foldl (setup : Setup) (input : List UInt8) :
    run setup input = ((lines input).foldl Stage.next (.start setup)).report := by
  unfold run Stage.start
  cases start setup with
  | error error => exact (congrArg Stage.report (Stage.foldl_ended _ _)).symm
  | ok started => exact (Stage.report_foldl_reading _ _ _).symm

/-! ## Why the program ends -/

/-- The line is not a text. -/
def IsNotText (_ : Host) (raw : List UInt8) : Prop :=
  decode? raw = none

/-- Some key of the line submits `quit`. -/
def Quits (host : Host) (raw : List UInt8) : Prop :=
  ∃ line, decode? raw = some line ∧ "quit" ∈ host.console.submissions (stepsOfLine line)

/-- The program can go no further than this line. -/
def StopsAt (host : Host) (raw : List UInt8) : Prop :=
  host.Quits raw ∨ host.IsNotText raw

/-- The program has the built-in commands, and none of them asked to quit. -/
structure Ready (host : Host) : Prop where
  commands : host.console.session.registry.commands = Builtin.all
  unasked : host.isDone = false

variable {host : Host} {raw : List UInt8}

theorem console_line (host : Host) (line : String) :
    (host.line line).2.console = (host.console.run (stepsOfLine line)).value.poll.2 := by
  have happend := congrArg Logged.value (host.console.run_append (stepsOfLine line) [.poll])
  exact happend

/-- **A line ends the program exactly if it submits `quit`.** -/
theorem Ready.isDone_line_iff (h : host.Ready) (line : String) :
    (host.line line).2.isDone = true ↔ "quit" ∈ host.console.submissions (stepsOfLine line) := by
  have hunasked : host.console.session.quitRequested = false := h.unasked
  unfold isDone
  rw [console_line, Console.session_poll, Session.quitRequested_receive, Console.quitRequested_run,
    hunasked, Bool.false_or, List.any_eq_true]
  constructor
  · rintro ⟨submitted, hmem, hasks⟩
    rw [Builtin.asksToQuit_dispatch_iff h.commands] at hasks
    exact hasks ▸ hmem
  · intro hmem
    exact ⟨"quit", hmem, (Builtin.asksToQuit_dispatch_iff h.commands).mpr rfl⟩

theorem Ready.next_line (h : host.Ready) {line : String}
    (hdone : (host.line line).2.isDone ≠ true) : (host.line line).2.Ready := by
  refine ⟨?_, Bool.eq_false_iff.mpr hdone⟩
  rw [console_line, Console.session_poll, Session.registry_receive, (Console.setup_run _ _).2.1]
  exact h.commands

namespace Stage

/-- The program is over. -/
def Over (stage : Stage) : Prop :=
  ∃ report, stage = .ended report

/-- The program is over, or it is ready for a line. -/
def Ready : Stage → Prop
  | .reading _ host => host.Ready
  | .ended _ => True

/-- The program reads on, and `P` holds of the line that comes. -/
def At (P : Host → List UInt8 → Prop) (raw : List UInt8) : Stage → Prop
  | .reading _ host => P host raw
  | .ended _ => False

/-- The program comes to a line at which `P` holds. -/
def Comes (P : Host → List UInt8 → Prop) (stage : Stage) : List (List UInt8) → Prop
  | [] => False
  | raw :: raws => stage.At P raw ∨ (stage.next raw).Comes P raws

variable {stage : Stage}

/-- What a line can do to the program. -/
inductive Takes (raw : List UInt8) : Stage → Stage → Prop
  | idle (report : Report) : Takes raw (.ended report) (.ended report)
  | notText {printed : String} {host : Host} (hraw : decode? raw = none) :
      Takes raw (.reading printed host) (.ended ((Report.failed Config.notText none).after printed))
  | last {printed : String} {host : Host} {line : String} (hraw : decode? raw = some line)
      (hdone : (host.line line).2.isDone = true) :
      Takes raw (.reading printed host) (.ended { stdout := printed ++ (host.line line).1 })
  | other {printed : String} {host : Host} {line : String} (hraw : decode? raw = some line)
      (hdone : (host.line line).2.isDone ≠ true) :
      Takes raw (.reading printed host)
        (.reading (printed ++ (host.line line).1) (host.line line).2)

theorem takes_next (stage : Stage) (raw : List UInt8) : Takes raw stage (stage.next raw) := by
  cases stage with
  | ended report => exact .idle report
  | reading printed host =>
    unfold next
    cases hraw : decode? raw with
    | none => exact .notText hraw
    | some line =>
      simp only
      by_cases hdone : (host.line line).2.isDone = true
      · rw [if_pos hdone]
        exact .last hraw hdone
      · rw [if_neg hdone]
        exact .other hraw hdone

theorem Ready.next (h : stage.Ready) (raw : List UInt8) : (stage.next raw).Ready := by
  have htakes := stage.takes_next raw
  generalize stage.next raw = after at htakes ⊢
  cases htakes with
  | idle | notText | last => trivial
  | other hraw hdone => exact Host.Ready.next_line h hdone

/-- **What was printed is never taken back.** -/
theorem stdout_next (stage : Stage) (raw : List UInt8) :
    ∃ more, (stage.next raw).report.stdout = stage.report.stdout ++ more := by
  have htakes := stage.takes_next raw
  generalize stage.next raw = after at htakes ⊢
  cases htakes with
  | idle report => exact ⟨"", String.append_empty.symm⟩
  | notText => exact ⟨"", rfl⟩
  | last | other => exact ⟨_, rfl⟩

theorem stdout_foldl (stage : Stage) (raws : List (List UInt8)) :
    ∃ more, (raws.foldl next stage).report.stdout = stage.report.stdout ++ more := by
  refine Trace.foldl_keeps (P := fun after : Stage => ∃ more,
    after.report.stdout = stage.report.stdout ++ more) ?_ ⟨"", String.append_empty.symm⟩ raws
  rintro after raw ⟨more, hmore⟩
  obtain ⟨rest, hrest⟩ := after.stdout_next raw
  exact ⟨more ++ rest, by rw [hrest, hmore, String.append_assoc]⟩

/-- **A line ends the program exactly if the program can go no further than it.** -/
theorem over_next_iff (h : stage.Ready) (raw : List UInt8) :
    (stage.next raw).Over ↔ stage.Over ∨ stage.At StopsAt raw := by
  have htakes := stage.takes_next raw
  generalize stage.next raw = after at htakes ⊢
  cases htakes with
  | idle report => exact iff_of_true ⟨report, rfl⟩ (.inl ⟨report, rfl⟩)
  | notText hraw => exact iff_of_true ⟨_, rfl⟩ (.inr (.inr hraw))
  | last hraw hdone =>
    have hquits := (Host.Ready.isDone_line_iff h _).mp hdone
    exact iff_of_true ⟨_, rfl⟩ (.inr (.inl ⟨_, hraw, hquits⟩))
  | other hraw hdone =>
    refine iff_of_false nofun ?_
    rintro (⟨report, hended⟩ | ⟨line, hraw', hquits⟩ | hnone)
    · cases hended
    · obtain rfl := Option.some.inj (hraw.symm.trans hraw')
      exact hdone ((Host.Ready.isDone_line_iff h _).mpr hquits)
    · cases hraw.symm.trans hnone

/-- **The program is over exactly if it came to a line at which it can go no further.** -/
theorem over_foldl_iff (h : stage.Ready) (raws : List (List UInt8)) :
    (raws.foldl next stage).Over ↔ stage.Over ∨ stage.Comes StopsAt raws := by
  induction raws generalizing stage with
  | nil => exact ⟨.inl, fun hover => hover.resolve_right id⟩
  | cons raw raws ih =>
    rw [List.foldl_cons, ih (h.next raw), over_next_iff h, or_assoc, Comes]

theorem exitCode_next (stage : Stage) (raw : List UInt8) :
    (stage.next raw).report.exitCode = 0 ↔
      stage.report.exitCode = 0 ∧ ¬ stage.At IsNotText raw := by
  have htakes := stage.takes_next raw
  generalize stage.next raw = after at htakes ⊢
  cases htakes with
  | idle report => exact ⟨fun h => ⟨h, id⟩, fun h => h.1⟩
  | notText hraw => exact iff_of_false Nat.one_ne_zero fun h => h.2 hraw
  | last hraw | other hraw =>
    refine iff_of_true rfl ⟨rfl, fun hnone => ?_⟩
    cases hraw.symm.trans hnone

/-- **The program fails on lines exactly if it comes to one that is not a text.** -/
theorem exitCode_foldl (stage : Stage) (raws : List (List UInt8)) :
    (raws.foldl next stage).report.exitCode = 0 ↔
      stage.report.exitCode = 0 ∧ ¬ stage.Comes IsNotText raws := by
  induction raws generalizing stage with
  | nil => exact ⟨fun h => ⟨h, id⟩, fun h => h.1⟩
  | cons raw raws ih =>
    rw [List.foldl_cons, ih, exitCode_next, and_assoc, Comes, not_or]

end Stage

/-! ## From the start -/

/-- The program has a configuration, and its settings are allowed. -/
def Configured (setup : Setup) : Prop :=
  ∃ config, (configure setup).value = .ok config ∧ config.validate = .ok ()

theorem start_of_configured {setup : Setup} (h : Configured setup) :
    ∃ printed host, Stage.start setup = .reading printed host ∧ host.Ready := by
  obtain ⟨config, hconfig, hvalid⟩ := h
  unfold Stage.start start
  simp only [hconfig, Console.start_of_valid hvalid]
  exact ⟨_, _, rfl, rfl, rfl⟩

theorem start_of_not_configured {setup : Setup} (h : ¬ Configured setup) :
    ∃ error : Error, Stage.start setup = .ended (.failed error.message error.cause?) := by
  unfold Stage.start start
  cases hconfig : (configure setup).value with
  | error error =>
    simp only [hconfig]
    exact ⟨error, rfl⟩
  | ok config =>
    cases hvalid : config.validate with
    | error error =>
      simp only [hconfig, Console.start_eq_error_iff.mpr hvalid]
      exact ⟨error, rfl⟩
    | ok _ => exact absurd ⟨config, hconfig, hvalid⟩ h

theorem Stage.ready_start (setup : Setup) : (Stage.start setup).Ready := by
  by_cases h : Configured setup
  · obtain ⟨printed, host, hstart, hready⟩ := start_of_configured h
    rw [hstart]
    exact hready
  · obtain ⟨error, hstart⟩ := start_of_not_configured h
    rw [hstart]
    trivial

theorem over_start_iff (setup : Setup) : (Stage.start setup).Over ↔ ¬ Configured setup := by
  by_cases h : Configured setup
  · obtain ⟨printed, host, hstart, -⟩ := start_of_configured h
    refine iff_of_false ?_ (not_not_intro h)
    rintro ⟨report, hended⟩
    cases hstart.symm.trans hended
  · obtain ⟨error, hstart⟩ := start_of_not_configured h
    exact iff_of_true ⟨_, hstart⟩ h

theorem exitCode_start_iff (setup : Setup) :
    (Stage.start setup).report.exitCode = 0 ↔ Configured setup := by
  by_cases h : Configured setup
  · obtain ⟨printed, host, hstart, -⟩ := start_of_configured h
    rw [hstart]
    exact iff_of_true rfl h
  · obtain ⟨error, hstart⟩ := start_of_not_configured h
    rw [hstart]
    exact iff_of_false Nat.one_ne_zero h

/-- **The program is a fold over its lines.** What it printed on the beginning of its input, it
prints on all of it. It stops early exactly if it is not configured, or comes to a line that submits
`quit` or is not a text; then what follows changes nothing. It succeeds exactly if it is configured
and comes to no line that is not a text, and prints nothing where it is not configured. -/
theorem run_streams (setup : Setup) :
    (∀ input, run setup input = ((lines input).foldl Stage.next (.start setup)).report) ∧
    (∀ front rest, EndsLine front →
      (∃ more, (run setup (front ++ rest)).stdout = (run setup front).stdout ++ more) ∧
      (((lines front).foldl Stage.next (.start setup)).Over →
        run setup (front ++ rest) = run setup front)) ∧
    (∀ input, ((lines input).foldl Stage.next (.start setup)).Over ↔
      ¬ Configured setup ∨ (Stage.start setup).Comes StopsAt (lines input)) ∧
    (∀ input, (run setup input).exitCode = 0 ↔
      Configured setup ∧ ¬ (Stage.start setup).Comes IsNotText (lines input)) ∧
    (¬ Configured setup → ∀ input, (run setup input).stdout = "") := by
  refine ⟨run_eq_foldl setup, ?_, ?_, ?_, ?_⟩
  · intro front rest hfront
    rw [run_eq_foldl, run_eq_foldl, lines_append hfront, List.foldl_append]
    constructor
    · exact Stage.stdout_foldl _ _
    · rintro ⟨report, hended⟩
      rw [hended, Stage.foldl_ended]
  · intro input
    rw [Stage.over_foldl_iff (Stage.ready_start setup), over_start_iff]
  · intro input
    rw [run_eq_foldl, Stage.exitCode_foldl, exitCode_start_iff]
  · intro h input
    obtain ⟨error, hstart⟩ := start_of_not_configured h
    rw [run_eq_foldl, hstart, Stage.foldl_ended]
    rfl

/-- What follows a line that submits `quit` is not read, not even if it is no text. -/
theorem run_streams_quit :
    let quit : List UInt8 := [113, 117, 105, 116, 10]
    EndsLine quit ∧ (Stage.start .unconfigured).Comes StopsAt (lines quit) ∧
      run .unconfigured (quit ++ [255, 10]) = run .unconfigured quit ∧
      (run .unconfigured quit).exitCode = 0 := by
  intro quit
  have hends : EndsLine quit := .inr ⟨[113, 117, 105, 116], rfl⟩
  have hquits : (Stage.start .unconfigured).At Quits [113, 117, 105, 116] :=
    ⟨"quit", rfl, by decide +kernel⟩
  have hstops : (Stage.start .unconfigured).Comes StopsAt (lines quit) := .inl (.inl hquits)
  obtain ⟨-, hfront, hover, hcode, -⟩ := run_streams .unconfigured
  refine ⟨hends, hstops, (hfront quit [255, 10] hends).2 ((hover quit).mpr (.inr hstops)), ?_⟩
  rw [hcode]
  refine ⟨⟨_, rfl, rfl⟩, ?_⟩
  rintro (hline | hlater)
  · cases hline
  · exact hlater

end Host

end CommandConsole
