import CommandConsole.Proofs.Interleaving

/-!
# Delivery of messages

What the console has shown of its messages, and what still waits, is what was sent, in that order.
The account is kept at every moment of a worker, so it does not matter how producers interleave with
each other and with the steps of the console, nor that the console sends to itself while it acts.

Results:
* `Transcript.loggedLines_eq`: the lines that come from the log are the lines of the messages.
* `Console.arrived_run`: the account of a run of steps.
* `Worker.arrived_run`: the account of a run of events.
* `Worker.filter_sentFrom`: the messages of one producer, in the order in which it sent them.
* `Console.delivers_from_start`: **nothing that was sent is lost, doubled or overtaken.**
-/

namespace CommandConsole

open Log

/-! ## Messages in the transcript -/

/-- The message that an entry shows, if it comes from the log. -/
def Entry.message? : Entry → Option Message
  | logged message => some message
  | _ => none

namespace Transcript

/-- The messages that were shown, in order. -/
def messages (transcript : Transcript) : List Message :=
  transcript.entries.filterMap Entry.message?

/-- The lines that come from the log, in order. -/
def loggedLines (transcript : Transcript) : List String :=
  (transcript.entries.filter Entry.isLogged).map Entry.text

/-- **The lines that come from the log are the lines of the messages.** -/
theorem loggedLines_eq (transcript : Transcript) :
    transcript.loggedLines = transcript.messages.map Message.line := by
  unfold loggedLines messages
  induction transcript.entries with
  | nil => rfl
  | cons entry entries ih =>
    cases entry with
    | logged message => exact congrArg (message.line :: ·) ih
    | echoed line => exact ih
    | outcome result => exact ih
    | notice content => exact ih

theorem messages_append (transcript : Transcript) (entries : List Entry) :
    (transcript.append entries).messages =
      transcript.messages ++ entries.filterMap Entry.message? :=
  List.filterMap_append

theorem filterMap_logged (messages : List Message) :
    (messages.map Entry.logged).filterMap Entry.message? = messages := by
  induction messages with
  | nil => rfl
  | cons message messages ih => exact congrArg (message :: ·) ih

end Transcript

namespace Session

theorem messages_receive (session : Session) (messages : List Message) :
    (session.receive messages).transcript.messages = session.transcript.messages ++ messages := by
  have happend := session.transcript.messages_append (messages.map Entry.logged)
  rw [Transcript.filterMap_logged] at happend
  exact happend

theorem lines_receive (session : Session) (messages : List Message) :
    (session.receive messages).transcript.lines =
      session.transcript.lines ++ messages.map Message.line := by
  unfold receive
  rw [Transcript.lines_append, List.map_map]
  rfl

/-- **An action shows no messages.** -/
theorem messages_act (session : Session) (action : Action) :
    (session.act action).value.transcript.messages = session.transcript.messages := by
  have hshown : (session.shown action).filterMap Entry.message? = [] := by
    unfold shown
    cases session.submitted? action with
    | none => rfl
    | some line =>
      simp only [submissionEntries]
      split <;> rfl
  unfold Transcript.messages
  rw [entries_act, List.filterMap_append, hshown, List.append_nil]

end Session

/-- Whether a record at this level comes to a console with this forwarder. -/
def hears (forwarder : Option Forwarder) (level : Level) : Bool :=
  forwarder.any fun forwarder => forwarder.filter.passes level

/-- **Records are sent exactly if their level passes the filter.** -/
theorem forwarded_eq (forwarder : Option Forwarder) (records : List Record) :
    forwarded forwarder records =
      (records.filter fun record => hears forwarder record.level).map Record.message := by
  cases forwarder with
  | some forwarder => rfl
  | none =>
    have hnone : (records.filter fun record => hears none record.level) = [] := by
      rw [List.filter_eq_nil_iff]
      intro record _
      exact Bool.false_ne_true
    rw [hnone]
    rfl

theorem forwarded_singleton (forwarder : Option Forwarder) (record : Record) :
    forwarded forwarder [record] =
      if hears forwarder record.level = true then [record.message] else [] := by
  rw [forwarded_eq, List.filter_cons]
  split <;> rfl

/-! ## The account of a console -/

namespace Console

/-- The messages that arrived at a console: those that it has shown, and then those that wait. -/
def arrived (console : Console) : List Message :=
  console.session.transcript.messages ++ console.inbox.queued

/-- The messages that are sent in a step, its own records among them. -/
def sent (console : Console) : Step → List Message
  | .act action => forwarded console.forwarder (console.act action).records
  | .poll => []
  | .send message => [message]
  | .log record => forwarded console.forwarder [record]

/-- **What is sent in a step arrives behind the rest.** -/
theorem arrived_step (console : Console) (step : Step) :
    (console.step step).value.arrived = console.arrived ++ console.sent step := by
  cases step with
  | act action =>
    have hacted := Session.messages_act (console.session.receive console.inbox.queued) action
    rw [Session.messages_receive] at hacted
    have hqueued := queued_act console action
    unfold arrived
    rw [show (console.step (.act action)).value.inbox.queued = console.sent (.act action) from
      hqueued]
    exact congrArg (· ++ console.sent (.act action)) hacted
  | poll =>
    have hshown := Session.messages_receive console.session console.inbox.queued
    exact congrArg (· ++ []) hshown
  | send message => exact (List.append_assoc _ _ _).symm
  | log record => exact (List.append_assoc _ _ _).symm

/-- **What is sent in a run arrives behind the rest.** -/
theorem arrived_run (console : Console) (steps : List Step) :
    (console.run steps).value.arrived = console.arrived ++ console.collect sent steps := by
  refine run_collect (P := fun messages next => next.arrived = messages) ?_ rfl steps
  intro messages next step h
  rw [arrived_step, h]

end Console

/-! ## The account of a worker -/

namespace Worker

/-- The messages that are sent at one moment: from outside, or as the next record of an action. -/
def sends (worker : Worker) : Event → List Message
  | .request _ => []
  | .advance =>
    match worker.phase with
    | .acting (record :: _) _ => forwarded worker.console.forwarder [record]
    | _ => []
  | .send message => [message]
  | .log record => forwarded worker.console.forwarder [record]

/-- The session that an action leads to shows the messages that are shown already. -/
def Sound (worker : Worker) : Prop :=
  ∀ left next, worker.phase = .acting left next →
    next.transcript.messages = worker.console.session.transcript.messages

theorem sound_idle (console : Console) : (idle console).Sound := by
  intro _ _ hphase
  cases hphase

theorem sound_advance {worker : Worker} (h : worker.Sound) : worker.advance.Sound := by
  have hadvance := worker.advances
  generalize worker.advance = after at hadvance
  intro left next hphase
  cases hadvance with
  | begin action shown hq =>
    cases hphase
    exact Session.messages_act _ action
  | write console record left after =>
    cases hphase
    exact h (record :: left) next rfl
  | rest | take | polled | finish => cases hphase

theorem sound_next {worker : Worker} (h : worker.Sound) (event : Event) :
    (worker.next event).Sound := by
  cases event with
  | request action =>
    obtain ⟨console, phase⟩ := worker
    cases phase with
    | idle =>
      intro _ _ hphase
      cases hphase
    | draining => exact h
    | acting => exact h
  | advance => exact sound_advance h
  | send message => exact h
  | log record => exact h

theorem arrived_advance {worker : Worker} (h : worker.Sound) :
    worker.advance.console.arrived = worker.console.arrived ++ worker.sends .advance := by
  have hadvance := worker.advances
  generalize worker.advance = after at hadvance
  cases hadvance with
  | rest console => exact (List.append_nil _).symm
  | take message waiting action shown hq =>
    unfold Console.arrived
    rw [Session.messages_receive, hq, List.append_assoc]
    exact (List.append_nil _).symm
  | polled shown hq => exact (List.append_nil _).symm
  | begin action shown hq => exact (List.append_nil _).symm
  | write console record left after => exact (List.append_assoc _ _ _).symm
  | finish console after =>
    have hafter := h [] after rfl
    exact (congrArg (· ++ console.inbox.queued) hafter).trans (List.append_nil _).symm

/-- **What is sent at one moment arrives behind the rest.** -/
theorem arrived_next {worker : Worker} (h : worker.Sound) (event : Event) :
    (worker.next event).console.arrived = worker.console.arrived ++ worker.sends event := by
  cases event with
  | request action =>
    obtain ⟨console, phase⟩ := worker
    cases phase <;> exact (List.append_nil _).symm
  | advance => exact arrived_advance h
  | send message => exact (List.append_assoc _ _ _).symm
  | log record => exact (List.append_assoc _ _ _).symm

theorem forwarder_next (worker : Worker) (event : Event) :
    (worker.next event).console.forwarder = worker.console.forwarder := by
  cases event with
  | request action =>
    obtain ⟨console, phase⟩ := worker
    cases phase <;> rfl
  | advance =>
    have hadvance := worker.advances
    rw [show worker.next .advance = worker.advance from rfl]
    generalize worker.advance = after at hadvance
    cases hadvance <;> rfl
  | send message => rfl
  | log record => rfl

theorem forwarder_run (worker : Worker) (events : List Event) :
    (worker.run events).console.forwarder = worker.console.forwarder :=
  Trace.foldl_keeps (P := fun after => after.console.forwarder = worker.console.forwarder)
    (fun after event h => (forwarder_next after event).trans h) rfl events

/-- What arrives changes nothing in the session. -/
theorem session_run_of_arrivals (worker : Worker) {arrivals : List Event}
    (h : ∀ event ∈ arrivals, event.isArrival = true) :
    (worker.run arrivals).console.session = worker.console.session := by
  induction arrivals generalizing worker with
  | nil => rfl
  | cons event arrivals ih =>
    have hrest := ih (worker.next event) fun e he => h e (List.mem_cons_of_mem event he)
    refine hrest.trans ?_
    cases event with
    | request action => cases h _ (List.mem_cons_self ..)
    | advance => cases h _ (List.mem_cons_self ..)
    | send message => rfl
    | log record => rfl

/-! ## Producers -/

section Producers

variable {Producer : Type}

/-- The worker after something that one of the producers did. -/
def nextBy (worker : Worker) (moment : Producer × Event) : Worker :=
  worker.next moment.2

/-- The messages that are sent at one moment, and who sends them. -/
def sendsFrom (worker : Worker) (moment : Producer × Event) : List (Option Producer × Message) :=
  (worker.sends moment.2).map (some moment.1, ·)

/-- The messages that are sent in a run of events, and who sends them. -/
def sentFrom (worker : Worker) (schedule : List (Producer × Event)) :
    List (Option Producer × Message) :=
  Trace.collect nextBy sendsFrom worker schedule

/-- The messages that one producer sends in a run of events. -/
def sentBy [DecidableEq Producer] (worker : Worker) (producer : Producer)
    (schedule : List (Producer × Event)) : List Message :=
  Trace.collect nextBy
    (fun worker moment => if moment.1 = producer then worker.sends moment.2 else []) worker schedule

theorem run_eq_foldl_nextBy (worker : Worker) (schedule : List (Producer × Event)) :
    worker.run (schedule.map Prod.snd) = schedule.foldl nextBy worker :=
  List.foldl_map

theorem map_sendsFrom (worker : Worker) (moment : Producer × Event) :
    (worker.sendsFrom moment).map Prod.snd = worker.sends moment.2 := by
  rw [sendsFrom, List.map_map]
  exact List.map_id _

/-- **What is sent in a run of events arrives behind the rest.** -/
theorem arrived_run {worker : Worker} (h : worker.Sound) (schedule : List (Producer × Event)) :
    (worker.run (schedule.map Prod.snd)).console.arrived =
      worker.console.arrived ++ (worker.sentFrom schedule).map Prod.snd := by
  -- Soundness is part of the invariant: finishing an action replaces the session.
  let Accounted (sent : List (Option Producer × Message)) (after : Worker) : Prop :=
    after.Sound ∧ after.console.arrived = worker.console.arrived ++ sent.map Prod.snd
  have hnext : ∀ sent after moment, Accounted sent after →
      Accounted (sent ++ after.sendsFrom moment) (after.nextBy moment) := by
    rintro sent after moment ⟨hsound, harrived⟩
    refine ⟨sound_next hsound moment.2, ?_⟩
    rw [List.map_append, map_sendsFrom, ← List.append_assoc, ← harrived]
    exact arrived_next hsound moment.2
  have hbefore : Accounted [] worker := ⟨h, (List.append_nil _).symm⟩
  have hrun := Trace.foldl_collect hnext hbefore schedule
  rw [run_eq_foldl_nextBy]
  exact hrun.2

/-- **Of all that was sent, what one producer sent is what it sent, in the same order.** -/
theorem filter_sentFrom [DecidableEq Producer] (worker : Worker) (producer : Producer)
    (schedule : List (Producer × Event)) :
    ((worker.sentFrom schedule).filter (·.1 = some producer)).map Prod.snd =
      worker.sentBy producer schedule := by
  have hyield : ∀ (worker : Worker) (moment : Producer × Event),
      ((worker.sendsFrom moment).filter (·.1 = some producer)).map Prod.snd =
        if moment.1 = producer then worker.sends moment.2 else [] := by
    intro worker moment
    by_cases hp : moment.1 = producer
    · rw [if_pos hp, List.filter_eq_self.mpr, map_sendsFrom]
      intro sent hsent
      obtain ⟨message, -, rfl⟩ := List.mem_map.mp hsent
      exact decide_eq_true (congrArg some hp)
    · rw [if_neg hp, List.filter_eq_nil_iff.mpr]
      · rfl
      · intro sent hsent
        obtain ⟨message, -, rfl⟩ := List.mem_map.mp hsent
        simpa using hp
  rw [sentFrom, Trace.filter_collect]
  exact congrArg (Trace.collect nextBy · worker schedule) (funext fun w => funext (hyield w))

/-- What waited when a console was opened comes from none of the producers. -/
theorem filter_of_nobody [DecidableEq Producer] (producer : Producer) (messages : List Message) :
    (messages.map (Prod.mk (none : Option Producer))).filter (·.1 = some producer) = [] := by
  rw [List.filter_eq_nil_iff]
  intro sent hsent
  obtain ⟨message, -, rfl⟩ := List.mem_map.mp hsent
  exact Bool.false_ne_true

end Producers

/-- A poll leaves nothing waiting, and returns how many lines it added. -/
theorem lines_polled_run {worker : Worker} (hidle : worker.phase = .idle) {during : List Event}
    (hduring : ∀ event ∈ during, event.isRequest = false) {count : Nat}
    (hcount : (worker.run (.request none :: during)).polled? = some count) :
    let ending := worker.run (.request none :: during)
    ending.console.inbox.queued = [] ∧ ∃ added : List String, added.length = count ∧
      ending.console.session.transcript.lines =
        worker.console.session.transcript.lines ++ added := by
  intro ending
  obtain ⟨console, phase⟩ := worker
  cases hidle
  obtain ⟨-, hempty, messages, hlen, hsession⟩ := polled_run console hduring hcount
  refine ⟨hempty, messages.map Message.line, (List.length_map _).trans hlen, ?_⟩
  rw [show ending.console.session = console.session.receive messages from hsession]
  exact Session.lines_receive console.session messages

end Worker

/-! ## From the start -/

namespace Console

variable {config : Config} {registry : Registry} {inbox : Inbox} {forwarder : Option Forwarder}
  {console : Console}

theorem arrived_start (h : (start config registry inbox forwarder).value = .ok console) :
    console.arrived = opening config registry inbox forwarder := by
  obtain ⟨-, rfl⟩ := start_eq_ok_iff.mp h
  rfl

theorem forwarder_start (h : (start config registry inbox forwarder).value = .ok console) :
    console.forwarder = forwarder := by
  obtain ⟨-, rfl⟩ := start_eq_ok_iff.mp h
  rfl

/-- The lines of the log that were shown and those that wait are the lines of what arrived. -/
theorem loggedLines_append (console : Console) :
    console.session.transcript.loggedLines ++ console.inbox.queued.map Message.line =
      console.arrived.map Message.line := by
  rw [Transcript.loggedLines_eq, ← List.map_append]
  rfl

/-- **Nothing that was sent is lost, doubled or overtaken.** Over any run of steps from the start,
the lines of the log that were shown, and then those that wait, are what was sent, in that order;
an action and a poll show everything that waited, and a poll says how much that was.

A step is made of moments, and a console that nobody disturbs goes through them to where the step
leads. The same holds at every moment when producers send while the console is in the middle of a step:
what each of them sent is there in its own order, a record is sent exactly if its level passes the
filter, nothing that arrives changes the session, and a poll that others send into leaves nothing
waiting when it ends, and has counted the lines that it added. -/
theorem delivers_from_start (Producer : Type) [DecidableEq Producer]
    (hstart : (start config registry inbox forwarder).value = .ok console) :
    let opened := opening config registry inbox forwarder
    (∀ steps : List Step,
      let after := (console.run steps).value
      let lines := after.session.transcript.lines
      let waiting := after.inbox.queued.map Message.line
      after.session.transcript.loggedLines ++ waiting =
        (opened ++ console.collect sent steps).map Message.line ∧
      (∀ action, after.sent (.act action) =
        ((after.act action).records.filter fun record =>
          hears forwarder record.level).map Record.message) ∧
      (∀ action, (after.act action).value.session.transcript.loggedLines =
        after.session.transcript.loggedLines ++ waiting) ∧
      after.poll.1 = waiting.length ∧ after.poll.2.session.transcript.lines = lines ++ waiting ∧
        after.poll.2.inbox.queued = []) ∧
    (∀ steps : List Step, (Worker.idle console).run (console.collect Worker.events steps) =
      Worker.idle (console.run steps).value) ∧
    ∀ schedule : List (Producer × Event),
      let worker := (Worker.idle console).run (schedule.map Prod.snd)
      let transcript := worker.console.session.transcript
      let sent := opened.map (none, ·) ++ (Worker.idle console).sentFrom schedule
      transcript.loggedLines ++ worker.console.inbox.queued.map Message.line =
        (sent.map Prod.snd).map Message.line ∧
      (∀ producer, (sent.filter (·.1 = some producer)).map Prod.snd =
        (Worker.idle console).sentBy producer schedule) ∧
      (∀ record, worker.sends (.log record) =
        if hears forwarder record.level = true then [record.message] else []) ∧
      (∀ arrivals : List Event, (∀ event ∈ arrivals, event.isArrival = true) →
        (worker.run arrivals).console.session = worker.console.session) ∧
      (worker.phase = .idle →
        ∀ during : List Event, (∀ event ∈ during, event.isRequest = false) → ∀ count : Nat,
          let ending := worker.run (.request none :: during)
          ending.polled? = some count →
          ending.console.inbox.queued = [] ∧ ∃ added : List String, added.length = count ∧
            ending.console.session.transcript.lines = transcript.lines ++ added) := by
  intro opened
  refine ⟨fun steps => ?_, Worker.run_steps console, fun schedule => ?_⟩
  · intro after lines waiting
    have harrived := arrived_run console steps
    rw [arrived_start hstart] at harrived
    have hforwarder : after.forwarder = forwarder :=
      (setup_run console steps).2.2.trans (forwarder_start hstart)
    refine ⟨?_, fun action => ?_, fun action => ?_, ?_, ?_, rfl⟩
    · rw [← harrived]
      exact loggedLines_append after
    · rw [← hforwarder, ← forwarded_eq]
      rfl
    · have hacted := Session.messages_act (after.session.receive after.inbox.queued) action
      rw [session_act, Transcript.loggedLines_eq, hacted, Session.messages_receive, List.map_append,
        Transcript.loggedLines_eq]
    · rw [fst_poll, List.length_map]
    · exact Session.lines_receive after.session after.inbox.queued
  · intro worker transcript sent
    have hsound : (Worker.idle console).Sound := Worker.sound_idle console
    have harrived := Worker.arrived_run hsound schedule
    have hforwarder := Worker.forwarder_run (Worker.idle console) (schedule.map Prod.snd)
    refine ⟨?_, fun producer => ?_, fun record => ?_, fun arrivals harr => ?_, fun hidle => ?_⟩
    · have hsent : sent.map Prod.snd = worker.console.arrived := by
        rw [show worker.console.arrived = _ from harrived, List.map_append, List.map_map,
          show (Worker.idle console).console = console from rfl, arrived_start hstart]
        exact congrArg (· ++ _) (List.map_id opened)
      rw [hsent]
      exact loggedLines_append worker.console
    · rw [List.filter_append, Worker.filter_of_nobody, List.nil_append]
      exact Worker.filter_sentFrom (Worker.idle console) producer schedule
    · rw [← forwarded_singleton, ← forwarder_start hstart]
      exact congrArg (forwarded · [record]) hforwarder
    · exact Worker.session_run_of_arrivals worker harr
    · intro during hduring count ending hcount
      exact Worker.lines_polled_run hidle hduring hcount

/-- A message that is sent into a poll is shown by it, behind the one that waited; a poll of one
message that nobody sends into takes three moments, and ends where the step ends. -/
theorem delivers_from_start_meanwhile :
    ∃ console, (start .default .empty ⟨[⟨.info, "early"⟩]⟩ (some ⟨.upTo .info, none⟩)).value =
        .ok console ∧
      let during : List Event := [.advance, .log (.info "late"), .log (.debug "unheard"), .advance]
      let ending := (Worker.idle console).run (.request none :: during)
      ending.polled? = some 2 ∧ ending.console.inbox.queued = [] ∧
        (∃ added : List String,
          added.length = 2 ∧ ending.console.session.transcript.lines = [] ++ added) ∧
        ((Worker.idle console).run [.send ⟨.info, "late"⟩]).console.session = console.session ∧
        (Worker.idle console).run [.request none, .advance, .advance] =
          Worker.idle (console.run [.poll]).value ∧
        (console.run [.poll]).value.session.transcript.loggedLines ++ [] =
          ([⟨.info, "early"⟩] : List Message).map Message.line := by
  have hstart := start_of_valid (show Config.default.validate = .ok () from rfl) .empty
    ⟨[⟨.info, "early"⟩]⟩ (some ⟨.upTo .info, none⟩)
  obtain ⟨hsteps, hundisturbed, hschedule⟩ := delivers_from_start Bool hstart
  obtain ⟨-, -, -, harrivals, hpoll⟩ := hschedule []
  obtain ⟨hempty, hadded⟩ := hpoll rfl
    [.advance, .log (.info "late"), .log (.debug "unheard"), .advance] (by decide) 2 rfl
  exact ⟨_, hstart, rfl, hempty, hadded, harrivals [.send ⟨.info, "late"⟩] (by decide),
    hundisturbed [.poll], (hsteps [.poll]).1⟩

end Console

end CommandConsole
