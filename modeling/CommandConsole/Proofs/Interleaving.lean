import CommandConsole.Proofs.Run

/-!
# Steps that take time

Producers do not wait for the console. While it takes the messages out of its inbox one by one, and
while it writes the records of an action, others go on sending. A `Worker` is a console with what it
is in the middle of, and an `Event` is what happens at one moment: a message or a record arrives,
a step is requested, or the console goes on by one message or one record.

Results:
* `advances`: how a console goes on.
* `run_step`: **a console that is not disturbed goes through `Console.step`.**
* `run_steps`: so every run of a console is a run of its worker.
* `drains_run`: a drain that others send into shows messages and nothing else, and counts them.
* `polled_run`: a poll ends when nothing waits, and returns what it counted.
-/

namespace CommandConsole

open Log

/-- What a console is in the middle of. -/
inductive Phase where
  | idle
  /-- Taking messages out of the inbox, `shown` so far; then comes the action, if there is one. -/
  | draining (action : Option Action) (shown : Nat)
  /-- Writing the records of an action that leads to the session `next`. -/
  | acting (left : List Record) (next : Session)

/-- A console and what it is in the middle of. -/
structure Worker where
  console : Console
  phase : Phase

/-- What happens at one moment. -/
inductive Event where
  /-- The console shall show what waits, and act if there is an action. A console that is in the
  middle of something cannot be asked. -/
  | request (action : Option Action)
  /-- The console goes on. -/
  | advance
  /-- A message from a producer arrives. -/
  | send (message : Message)
  /-- A record of the embedding program arrives. -/
  | log (record : Record)
  deriving DecidableEq

namespace Event

/-- Whether the console is asked to do something. -/
def isRequest : Event → Bool
  | request _ => true
  | _ => false

/-- Whether an event comes from a producer. -/
def isArrival : Event → Bool
  | send _ | log _ => true
  | request _ | advance => false

end Event

namespace Worker

/-- A console between two steps. -/
def idle (console : Console) : Worker := ⟨console, .idle⟩

/-- The console goes on by one message or one record. -/
def advance (worker : Worker) : Worker :=
  let console := worker.console
  match worker.phase with
  | .idle => worker
  | .draining action shown =>
    match console.inbox.take 1, action with
    | ([], _), none => ⟨console, .idle⟩
    | ([], _), some action =>
      let acted := console.session.act action
      ⟨console, .acting acted.records acted.value⟩
    | (messages, inbox), _ =>
      ⟨{ console with session := console.session.receive messages, inbox },
        .draining action (shown + messages.length)⟩
  | .acting (record :: left) next => ⟨console.observe [record], .acting left next⟩
  | .acting [] next => ⟨{ console with session := next }, .idle⟩

def next (worker : Worker) : Event → Worker
  | .request action =>
    match worker.phase with
    | .idle => ⟨worker.console, .draining action 0⟩
    | _ => worker
  | .advance => worker.advance
  | .send message => ⟨worker.console.send message, worker.phase⟩
  | .log record => ⟨worker.console.observe [record], worker.phase⟩

def run (worker : Worker) (events : List Event) : Worker :=
  events.foldl next worker

theorem run_append (worker : Worker) (first second : List Event) :
    worker.run (first ++ second) = (worker.run first).run second :=
  List.foldl_append

/-- **How a console goes on.** -/
inductive Advances : Worker → Worker → Prop
  | rest (console : Console) : Advances (idle console) (idle console)
  | take {console : Console} (message : Message) (waiting : List Message)
      (action : Option Action) (shown : Nat) (hq : console.inbox.queued = message :: waiting) :
      Advances ⟨console, .draining action shown⟩
        ⟨{ console with session := console.session.receive [message], inbox := ⟨waiting⟩ },
          .draining action (shown + 1)⟩
  | polled {console : Console} (shown : Nat) (hq : console.inbox.queued = []) :
      Advances ⟨console, .draining none shown⟩ (idle console)
  | begin {console : Console} (action : Action) (shown : Nat) (hq : console.inbox.queued = []) :
      Advances ⟨console, .draining (some action) shown⟩
        ⟨console, .acting (console.session.act action).records (console.session.act action).value⟩
  | write (console : Console) (record : Record) (left : List Record) (after : Session) :
      Advances ⟨console, .acting (record :: left) after⟩
        ⟨console.observe [record], .acting left after⟩
  | finish (console : Console) (after : Session) :
      Advances ⟨console, .acting [] after⟩ (idle { console with session := after })

variable {console : Console} {action : Option Action} {shown : Nat}

theorem advance_draining_cons {message : Message} {waiting : List Message}
    (hq : console.inbox.queued = message :: waiting) :
    advance ⟨console, .draining action shown⟩ =
      ⟨{ console with session := console.session.receive [message], inbox := ⟨waiting⟩ },
        .draining action (shown + 1)⟩ := by
  have htake : console.inbox.take 1 = ([message], ⟨waiting⟩) := by
    unfold Inbox.take
    rw [hq]
    rfl
  unfold advance
  simp only [htake]
  rfl

theorem advance_draining_nil (hq : console.inbox.queued = []) :
    advance ⟨console, .draining action shown⟩ =
      ⟨console, match action with
        | none => .idle
        | some action =>
          .acting (console.session.act action).records (console.session.act action).value⟩ := by
  have htake : console.inbox.take 1 = ([], ⟨[]⟩) := by
    unfold Inbox.take
    rw [hq]
    rfl
  unfold advance
  simp only [htake]
  cases action <;> rfl

theorem advances (worker : Worker) : Advances worker worker.advance := by
  obtain ⟨console, phase⟩ := worker
  cases phase with
  | idle => exact .rest console
  | draining action shown =>
    cases hq : console.inbox.queued with
    | nil =>
      rw [advance_draining_nil hq]
      cases action with
      | none => exact .polled shown hq
      | some action => exact .begin action shown hq
    | cons message waiting =>
      rw [advance_draining_cons hq]
      exact .take message waiting action shown hq
  | acting left after =>
    cases left with
    | nil => exact .finish console after
    | cons record left => exact .write console record left after

/-! ## Steps without disturbance -/

/-- Taking the messages one by one leads to what polling leads to. -/
theorem run_drain (console : Console) (action : Option Action) (shown : Nat) :
    run ⟨console, .draining action shown⟩ (List.replicate console.inbox.queued.length .advance) =
      ⟨console.poll.2, .draining action (shown + console.poll.1)⟩ := by
  -- On the waiting messages; the console is another one after each of them.
  induction hq : console.inbox.queued generalizing console shown with
  | nil =>
    rw [Console.poll_of_empty hq, Console.fst_poll, hq]
    rfl
  | cons message rest ih =>
    let taken : Console :=
      { console with session := console.session.receive [message], inbox := ⟨rest⟩ }
    have hadvance : next ⟨console, .draining action shown⟩ .advance =
        ⟨taken, .draining action (shown + 1)⟩ := advance_draining_cons hq
    have hpoll : taken.poll.2 = console.poll.2 := by
      have hreceive := Session.receive_receive console.session [message] rest
      rw [List.singleton_append, ← hq] at hreceive
      exact congrArg (Console.mk · Inbox.empty console.forwarder) hreceive
    have hcount : shown + 1 + taken.poll.1 = shown + console.poll.1 := by
      rw [Console.fst_poll, Console.fst_poll, hq, List.length_cons,
        show taken.inbox.queued = rest from rfl]
      omega
    have hrest := ih taken (shown + 1) rfl
    rw [List.length_cons, List.replicate_succ, run, List.foldl_cons, hadvance]
    rw [hpoll, hcount] at hrest
    exact hrest

/-- Writing the records one by one leads to what observing them leads to. -/
theorem run_records (console : Console) (records : List Record) (after : Session) :
    run ⟨console, .acting records after⟩ (List.replicate (records.length + 1) .advance) =
      idle { console.observe records with session := after } := by
  induction records generalizing console with
  | nil =>
    rw [Console.observe_nil]
    rfl
  | cons record records ih =>
    have hrest := ih (console.observe [record])
    rw [Console.observe_observe] at hrest
    rw [List.length_cons, List.replicate_succ, run, List.foldl_cons]
    exact hrest

/-- What a step of a console is made of. -/
def events (console : Console) : Step → List Event
  | .poll => .request none :: List.replicate (console.inbox.queued.length + 1) .advance
  | .act action =>
    .request (some action) :: (List.replicate (console.inbox.queued.length + 1) .advance ++
      List.replicate ((console.act action).records.length + 1) .advance)
  | .send message => [.send message]
  | .log record => [.log record]

/-- A request first takes what waits out of the inbox. -/
theorem run_request (console : Console) (action : Option Action) :
    (idle console).run
        (.request action :: List.replicate (console.inbox.queued.length + 1) .advance) =
      advance ⟨console.poll.2, .draining action console.poll.1⟩ := by
  have hdrain := run_drain console action 0
  rw [Nat.zero_add] at hdrain
  rw [run, List.foldl_cons, List.replicate_succ', List.foldl_append]
  exact congrArg advance hdrain

/-- **A console that is not disturbed goes through its step.** -/
theorem run_step (console : Console) (step : Step) :
    (idle console).run (events console step) = idle (console.step step).value := by
  cases step with
  | poll =>
    rw [events, run_request]
    exact advance_draining_nil rfl
  | act action =>
    rw [events, ← List.cons_append, run_append, run_request, advance_draining_nil rfl]
    exact run_records console.poll.2 _ _
  | send message => rfl
  | log record => rfl

/-- **Every run of a console is a run of its worker.** -/
theorem run_steps (console : Console) (steps : List Step) :
    (idle console).run (console.collect events steps) = idle (console.run steps).value := by
  induction steps generalizing console with
  | nil => rfl
  | cons step steps ih =>
    have hrest := ih (console.step step).value
    rw [Console.collect, Trace.collect, run_append, run_step]
    exact hrest

/-! ## Draining while others send -/

/-- A drain that began at this console has shown `shown` messages so far, and nothing else. -/
def Drains (start : Console) (worker : Worker) : Prop :=
  ∀ action shown, worker.phase = .draining action shown →
    ∃ taken : List Message,
      taken.length = shown ∧ worker.console.session = start.session.receive taken

theorem drains_request (console : Console) (action : Option Action) :
    Drains console ⟨console, .draining action 0⟩ := by
  intro _ _ hphase
  cases hphase
  refine ⟨[], rfl, ?_⟩
  exact congrArg (fun entries => { console.session with transcript := ⟨entries⟩ })
    (List.append_nil _).symm

theorem drains_advance {start : Console} {worker : Worker} (h : Drains start worker) :
    Drains start worker.advance := by
  have hadvance := worker.advances
  generalize worker.advance = after at hadvance
  intro next count hphase
  cases hadvance with
  | take message waiting action shown hq =>
    cases hphase
    obtain ⟨taken, hlen, hsession⟩ := h next shown rfl
    refine ⟨taken ++ [message], by rw [List.length_append, hlen]; rfl, ?_⟩
    rw [← Session.receive_receive, ← hsession]
  | rest | polled | begin | write | finish => cases hphase

theorem drains_next {start : Console} {worker : Worker} (h : Drains start worker) {event : Event}
    (hevent : event.isRequest = false) : Drains start (worker.next event) := by
  cases event with
  | request action => cases hevent
  | advance => exact drains_advance h
  | send message => exact h
  | log record => exact h

/-- **A drain that others send into shows messages and nothing else, and counts them.** -/
theorem drains_run {start : Console} {worker : Worker} (h : Drains start worker)
    {during : List Event} (hduring : ∀ event ∈ during, event.isRequest = false) :
    Drains start (worker.run during) := by
  induction during generalizing worker with
  | nil => exact h
  | cons event during ih =>
    have hevent := hduring event (List.mem_cons_self ..)
    exact ih (drains_next h hevent) fun e he => hduring e (List.mem_cons_of_mem event he)

/-- What a poll returns if it ends as the console goes on. -/
def polled? (worker : Worker) : Option Nat :=
  match worker.phase, worker.console.inbox.queued with
  | .draining none shown, [] => some shown
  | _, _ => none

theorem polled?_eq_some_iff {worker : Worker} {count : Nat} :
    worker.polled? = some count ↔
      worker.phase = .draining none count ∧ worker.console.inbox.queued = [] := by
  unfold polled?
  constructor
  · intro h
    split at h
    · next shown hphase hq =>
      cases h
      exact ⟨hphase, hq⟩
    · cases h
  · rintro ⟨hphase, hq⟩
    rw [hphase, hq]

/-- **A poll ends when nothing waits, and returns how many messages it showed**, whatever was sent
in the meantime. -/
theorem polled_run (console : Console) {during : List Event}
    (hduring : ∀ event ∈ during, event.isRequest = false) {count : Nat}
    (hcount : ((idle console).run (.request none :: during)).polled? = some count) :
    let ending := (idle console).run (.request none :: during)
    ending.advance = idle ending.console ∧ ending.console.inbox.queued = [] ∧
      ∃ messages : List Message,
        messages.length = count ∧ ending.console.session = console.session.receive messages := by
  intro ending
  obtain ⟨hphase, hq⟩ := polled?_eq_some_iff.mp hcount
  have hdrains : Drains console ending := drains_run (drains_request console none) hduring
  refine ⟨?_, hq, hdrains none count hphase⟩
  have hending : ending = ⟨ending.console, .draining none count⟩ :=
    congrArg (Worker.mk ending.console) hphase
  rw [hending]
  exact advance_draining_nil hq

end Worker

end CommandConsole
