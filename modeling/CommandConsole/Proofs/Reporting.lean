import CommandConsole.Proofs.Delivery
import CommandConsole.Proofs.Scripting
import CommandConsole.Proofs.Scrolling
import CommandConsole.Proofs.Streaming

/-!
# Lines that are no key script

A line with a word that names no key presses none of its keys, not even those in front of the word.
Its only step is a record of the log, which comes back as a message and is shown and printed before
the next line is read. That it is printed alone, and at once, rests on what holds between any two
lines: nothing waits, and all that was shown was printed.

Results:
* `UpToDate.next_line`: **what holds between two lines.**
* `console_line_of_error`: a line that is no key script shows one message more and changes nothing
  else.
* `Reached.upToDate`, `reached_of_reading`: the states of the running program.
* `bad_lines_are_atomic`: **what such a line does to the program in any of its states.**
-/

namespace CommandConsole.Host

open Log KeyScript

variable {setup : Setup} {inner : Option Filter} {host : Host} {line printed : String}
  {unknown : UnknownKey}

/-! ## Between two lines -/

/-- Nothing is left to do before the next line: no command asked to quit, warnings will be heard,
no message waits, and all that was shown was printed. -/
structure UpToDate (host : Host) : Prop where
  unasked : host.isDone = false
  hears : hears host.console.forwarder .warn = true
  waiting : host.console.inbox.queued = []
  printed : host.screen.printed = host.console.session.transcript.lines.length

/-- **A line that does not end the program leaves nothing to do before the next one.** -/
theorem UpToDate.next_line (h : host.UpToDate) (hgoes : (host.line line).2.isDone = false) :
    (host.line line).2.UpToDate := by
  refine ⟨hgoes, ?_, ?_, (Transcript.length_lines _).symm⟩
  · rw [console_line, Console.forwarder_poll, (Console.setup_run _ _).2.2]
    exact h.hears
  · rw [console_line]
    rfl

theorem upToDate_start (h : start setup = .ok (printed, host)) :
    host.console.forwarder = some forwarder ∧ host.UpToDate := by
  unfold start at h
  cases hconfig : (configure setup).value with
  | error error =>
    simp only [hconfig] at h
    cases h
  | ok config =>
    cases hvalid : config.validate with
    | error error =>
      simp only [hconfig, Console.start_eq_error_iff.mpr hvalid] at h
      cases h
    | ok _ =>
      simp only [hconfig, Console.start_of_valid hvalid] at h
      cases h
      exact ⟨rfl, rfl, rfl, rfl, (Transcript.length_lines _).symm⟩

/-! ## The states of the program -/

/-- The program with this log behind its forwarder. -/
def heardBy (host : Host) (inner : Option Filter) : Host :=
  { host with console := { host.console with forwarder := some { forwarder with inner } } }

/-- The states of the running program between two lines: those that it starts in, with any log
behind its forwarder, and those that lines lead to which do not end it. -/
inductive Reached (setup : Setup) (inner : Option Filter) : Host → Prop
  | started {printed : String} {host : Host} (h : start setup = .ok (printed, host)) :
      Reached setup inner (host.heardBy inner)
  | read {host : Host} {line : String} (h : Reached setup inner host)
      (hgoes : (host.line line).2.isDone = false) : Reached setup inner (host.line line).2

theorem Reached.upToDate (h : Reached setup inner host) : host.UpToDate := by
  induction h with
  | started h =>
    obtain ⟨-, hunasked, -, hwaiting, hprinted⟩ := upToDate_start h
    exact ⟨hunasked, rfl, hwaiting, hprinted⟩
  | read _ hgoes ih => exact ih.next_line hgoes

/-- **Where the program reads on, it is in one of these states**, whatever its input was. -/
theorem reached_of_reading {raws : List (List UInt8)}
    (h : raws.foldl Stage.next (.start setup) = .reading printed host) :
    Reached setup forwarder.inner host := by
  refine Trace.foldl_keeps (P := fun stage : Stage => ∀ printed host,
    stage = .reading printed host → Reached setup forwarder.inner host) ?_ ?_ raws printed host h
  · intro stage raw ih printed host hnext
    have htakes := stage.takes_next raw
    rw [hnext] at htakes
    cases htakes with
    | other hraw hdone => exact .read (ih _ _ rfl) (Bool.eq_false_iff.mpr hdone)
  · intro printed host hstage
    unfold Stage.start at hstage
    cases hstart : start setup with
    | error error =>
      rw [hstart] at hstage
      cases hstage
    | ok started =>
      rw [hstart] at hstage
      cases hstage
      have hheard : started.2.heardBy forwarder.inner = started.2 := by
        unfold heardBy
        rw [show some { forwarder with inner := forwarder.inner } = started.2.console.forwarder from
          (upToDate_start hstart).1.symm]
      rw [← hheard]
      exact .started hstart

/-! ## One line -/

theorem stepsOfLine_of_error (h : keys line = .error unknown) :
    stepsOfLine line = [.log (.warn unknown.message)] := by
  rw [stepsOfLine, h]

/-- **A line that is no key script shows one message more** behind those that waited, and changes
nothing else. -/
theorem console_line_of_error (hheard : hears host.console.forwarder .warn = true)
    (h : keys line = .error unknown) :
    (host.line line).2.console = { host.console with
      session := host.console.session.receive
        (host.console.inbox.queued ++ [⟨.warning, unknown.message⟩])
      inbox := .empty } := by
  have hforwarded : forwarded host.console.forwarder [.warn unknown.message] =
      [⟨.warning, unknown.message⟩] :=
    (forwarded_singleton _ _).trans (if_pos hheard)
  rw [console_line, stepsOfLine_of_error h, ← hforwarded]
  rfl

/-- A flush behind it prints these messages, if all that was shown before was printed. -/
theorem printed_line_of_error (hup : host.UpToDate) (h : keys line = .error unknown) :
    (host.line line).1 =
      Transcript.block (host.console.inbox.queued.map Message.line ++
        [(⟨.warning, unknown.message⟩ : Message).line]) ++ Screen.prompt host.console.session := by
  have hflush : (host.line line).1 =
      Transcript.block ((host.line line).2.console.session.transcript.lines.drop
        host.screen.printed) ++ Screen.prompt (host.line line).2.console.session := rfl
  rw [hflush, console_line_of_error hup.hears h, hup.printed, Session.lines_receive, List.drop_left,
    List.map_append]
  rfl

/-! ## All of it -/

/-- **What a line that is no key script does to the program in any of its states.** No key is
pressed, those in front of the wrong word included: no line is submitted, and the input field, the
visibility, the history and the request to quit stay what they were, as do the settings and the
commands. The log gets one record, and the transcript one line behind the messages that waited,
which names the first word that is no key without the backslashes in front of it. The flush behind
the line prints exactly what is new, and the program reads on. -/
theorem bad_lines_are_atomic (setup : Setup) (inner : Option Filter) :
    (∀ (raws : List (List UInt8)) printed host,
      raws.foldl Stage.next (.start setup) = .reading printed host →
        Reached setup forwarder.inner host) ∧
    ∀ host, Reached setup inner host → ∀ line unknown, keys line = .error unknown →
      let before := host.console.session
      let waiting := host.console.inbox.queued.map Message.line
      let warning := "[Warning] unknown key '\\" ++ unknown.word ++
        "' (up, down, tab, toggle, bs, enter)"
      let shown := (host.line line).1
      let next := (host.line line).2
      let after := next.console.session
      (∃ rest known word others, line.toList = '\\' :: rest ∧
        Text.words rest = known ++ word :: others ∧
        (∀ other ∈ known, nameOfWord other ∈ keyNames) ∧ nameOfWord word ∉ keyNames ∧
          unknown.word = String.ofList (word.dropWhile (· == '\\'))) ∧
      (after.field = before.field ∧ after.visible = before.visible ∧
        after.history = before.history ∧ after.quitRequested = before.quitRequested ∧
        after.config = before.config ∧ after.registry = before.registry) ∧
      (host.console.submissions (stepsOfLine line ++ [.poll]) = [] ∧
        (host.console.run (stepsOfLine line ++ [.poll])).records = [.warn unknown.message]) ∧
      after.transcript.lines = before.transcript.lines ++ waiting ++ [warning] ∧
      shown = Transcript.block (waiting ++ [warning]) ++ Screen.prompt before ∧
      (waiting = [] ∧ next.console.inbox.queued = []) ∧
      Reached setup inner next ∧
      ∀ printed raw, decode? raw = some line →
        Stage.next (.reading printed host) raw = .reading (printed ++ shown) next := by
  refine ⟨fun raws printed host => reached_of_reading, fun host hreached line unknown hbad => ?_⟩
  intro before waiting warning shown next after
  have hup := hreached.upToDate
  have hconsole : next.console = { host.console with
      session := before.receive (host.console.inbox.queued ++ [⟨.warning, unknown.message⟩])
      inbox := .empty } := console_line_of_error hup.hears hbad
  have hafter : after =
      before.receive (host.console.inbox.queued ++ [⟨.warning, unknown.message⟩]) :=
    congrArg Console.session hconsole
  have hwarning : (⟨.warning, unknown.message⟩ : Message).line = warning := by
    simp only [Message.line, UnknownKey.message, ← String.append_assoc]
    rfl
  have hgoes : next.isDone = false := by
    rw [isDone, hconsole]
    exact hup.unasked
  refine ⟨?_, ?_, ?_, ?_, ?_, ?_, hreached.read hgoes, fun printed raw hraw => ?_⟩
  · have hmarked : Marked line := by
      by_contra h
      rw [keys_of_not_marked h] at hbad
      cases hbad
    obtain ⟨rest, hline⟩ := toList_of_marked hmarked
    obtain ⟨known, word, others, hwords, hknown, hword, hunknown⟩ :=
      (keys_eq_error_iff hline).mp hbad
    exact ⟨rest, known, word, others, hline, hwords, hknown, hword, hunknown⟩
  · rw [hafter]
    exact ⟨rfl, rfl, rfl, rfl, rfl, rfl⟩
  · rw [stepsOfLine_of_error hbad]
    exact ⟨rfl, rfl⟩
  · rw [hafter, Session.lines_receive, List.map_append, List.map_singleton, hwarning,
      List.append_assoc]
  · exact hwarning ▸ printed_line_of_error hup hbad
  · exact ⟨congrArg (List.map Message.line) hup.waiting,
      congrArg (fun console => console.inbox.queued) hconsole⟩
  · unfold Stage.next
    rw [hraw]
    exact if_neg (Bool.eq_false_iff.mp hgoes)

/-- The key in front of the wrong word would have submitted what is pending; the second wrong word
is not reported, and a log behind the forwarder makes no difference. -/
theorem bad_lines_are_atomic_pending :
    let line := "\\enter \\\\nope\u3000left"
    let heard := some (Filter.upTo .trace)
    ∃ printed host, start .unconfigured = .ok (printed, host) ∧
      let pending := ((host.heardBy heard).line "qui\\tab").2
      Reached .unconfigured heard pending ∧ keys line = .error ⟨"nope"⟩ ∧
      pending.console.session.field.text = "quit" ∧
      (pending.line line).1 =
        "[Warning] unknown key '\\nope' (up, down, tab, toggle, bs, enter)\n> quit\n" ∧
      (pending.line line).2.console.session.field = pending.console.session.field ∧
      (pending.console.run (stepsOfLine line ++ [.poll])).records =
        [.warn "unknown key '\\nope' (up, down, tab, toggle, bs, enter)"] ∧
      Reached .unconfigured heard (pending.line line).2 := by
  intro line heard
  refine ⟨_, _, rfl, ?_⟩
  intro pending
  have hreached : Reached .unconfigured heard pending := .read (.started rfl) (by decide +kernel)
  have hkeys : keys line = .error ⟨"nope"⟩ := by decide
  have hprompt : Screen.prompt pending.console.session = "> quit\n" := by decide +kernel
  obtain ⟨-, hatomic⟩ := bad_lines_are_atomic .unconfigured heard
  obtain ⟨-, ⟨hfield, -⟩, ⟨-, hrecords⟩, -, hshown, ⟨hwaiting, -⟩, hnext, -⟩ :=
    hatomic pending hreached line ⟨"nope"⟩ hkeys
  rw [hwaiting, hprompt] at hshown
  exact ⟨hreached, hkeys, by decide +kernel, hshown, hfield, hrecords, hnext⟩

end CommandConsole.Host
