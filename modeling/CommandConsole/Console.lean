import CommandConsole.Log.Forwarder
import CommandConsole.Session

/-!
# Consoles

A console is a session with the inbox of messages that wait for it. If a forwarder is attached, the
records of the log, those of the console's own steps included, come back to the inbox as messages.

Waiting messages are shown at the start of every action and on request, and at no other time; so
what a step records while it runs is shown by a later one.

* `Console.poll` shows what waits and counts it.
* `Console.act` is one action, with the waiting messages shown first.
* `Step` is everything that can happen to a console, and `Console.run` a series of it.
-/

namespace CommandConsole

open Log

/-- A session, the messages that wait for it, and the forwarder that feeds them. -/
structure Console where
  /-- What the operator sees. -/
  session : Session
  /-- The messages that wait. -/
  inbox : Inbox
  /-- The forwarder attached to the inbox, if there is one. -/
  forwarder : Option Forwarder

/-- What a forwarder, if there is one, sends to its console for the given records. -/
def forwarded (forwarder : Option Forwarder) (records : List Record) : List Message :=
  match forwarder with
  | some forwarder => forwarder.messages records
  | none => []

namespace Console

/-- Opens a console over an inbox where messages may wait already. What opening it records goes to
the inbox, too. -/
def start (config : Config) (registry : Registry) (inbox : Inbox) (forwarder : Option Forwarder) :
    Logged (Except Error Console) :=
  let opened := Session.start config registry
  ⟨opened.value.map fun session =>
    ⟨session, inbox.sendAll (forwarded forwarder opened.records), forwarder⟩, opened.records⟩

/-- Shows the messages that wait and says how many there were. -/
def poll (console : Console) : Nat × Console :=
  let (messages, inbox) := console.inbox.drain
  (messages.length, { console with session := console.session.receive messages, inbox })

/-- A message arrives. -/
def send (console : Console) (message : Message) : Console :=
  { console with inbox := console.inbox.send message }

/-- Records of the log arrive, as far as a forwarder is attached and lets them pass. -/
def observe (console : Console) (records : List Record) : Console :=
  { console with inbox := console.inbox.sendAll (forwarded console.forwarder records) }

/-- One action: first the waiting messages are shown, then the session acts, and what it recorded
arrives. -/
def act (console : Console) (action : Action) : Logged Console :=
  let polled := console.poll.2
  let acted := polled.session.act action
  ⟨{ polled with session := acted.value }.observe acted.records, acted.records⟩

/-- A record of the embedding program. -/
def log (console : Console) (record : Record) : Logged Console :=
  ⟨console.observe [record], [record]⟩

/-! ## What each operation leaves behind -/

/-- Polling counts the messages that waited. -/
@[simp]
theorem fst_poll (console : Console) : console.poll.1 = console.inbox.queued.length := rfl

/-- Polling shows the messages that waited. -/
@[simp]
theorem session_poll (console : Console) :
    console.poll.2.session = console.session.receive console.inbox.queued := rfl

/-- Polling leaves no message waiting. -/
@[simp]
theorem inbox_poll (console : Console) : console.poll.2.inbox = .empty := rfl

@[simp]
theorem forwarder_poll (console : Console) : console.poll.2.forwarder = console.forwarder := rfl

/-- A message that arrives changes nothing in the session. -/
@[simp]
theorem session_send (console : Console) (message : Message) :
    (console.send message).session = console.session := rfl

@[simp]
theorem inbox_send (console : Console) (message : Message) :
    (console.send message).inbox = console.inbox.send message := rfl

@[simp]
theorem forwarder_send (console : Console) (message : Message) :
    (console.send message).forwarder = console.forwarder := rfl

/-- Records that arrive change nothing in the session. -/
@[simp]
theorem session_observe (console : Console) (records : List Record) :
    (console.observe records).session = console.session := rfl

@[simp]
theorem inbox_observe (console : Console) (records : List Record) :
    (console.observe records).inbox =
      console.inbox.sendAll (forwarded console.forwarder records) := rfl

@[simp]
theorem forwarder_observe (console : Console) (records : List Record) :
    (console.observe records).forwarder = console.forwarder := rfl

/-- An action is the session's, after the waiting messages were shown. -/
@[simp]
theorem session_act (console : Console) (action : Action) :
    (console.act action).value.session =
      ((console.session.receive console.inbox.queued).act action).value := rfl

/-- After an action, what it recorded waits, as far as a forwarder lets it pass. -/
@[simp]
theorem queued_act (console : Console) (action : Action) :
    (console.act action).value.inbox.queued =
      forwarded console.forwarder
        ((console.session.receive console.inbox.queued).act action).records := by
  simp [act, poll, Inbox.drain, Inbox.empty]

@[simp]
theorem records_act (console : Console) (action : Action) :
    (console.act action).records =
      ((console.session.receive console.inbox.queued).act action).records := rfl

@[simp]
theorem forwarder_act (console : Console) (action : Action) :
    (console.act action).value.forwarder = console.forwarder := rfl

end Console

/-- What can happen to a console. -/
inductive Step where
  /-- An action of the operator. -/
  | act (action : Action)
  /-- A request to show what waits. -/
  | poll
  /-- A message from a producer. -/
  | send (message : Message)
  /-- A record that the embedding program writes to its log. -/
  | log (record : Record)
  deriving Repr, DecidableEq

namespace Step

/-- Pressing a key. -/
def key (key : Key) : Step := .act key.action

/-- Typing a text, character by character. -/
def typing (text : String) : List Step :=
  text.toList.map fun c => .act (.insert c)

end Step

namespace Console

/-- The console after one step, with the records written on the way. -/
def step (console : Console) : Step → Logged Console
  | .act action => console.act action
  | .poll => pure console.poll.2
  | .send message => pure (console.send message)
  | .log record => console.log record

/-- The console after a series of steps. -/
def run (console : Console) (steps : List Step) : Logged Console :=
  steps.foldlM step console

@[simp]
theorem run_nil (console : Console) : console.run [] = pure console := rfl

@[simp]
theorem run_cons (console : Console) (first : Step) (rest : List Step) :
    console.run (first :: rest) = console.step first >>= fun next => next.run rest := rfl

theorem run_append (console : Console) (first second : List Step) :
    console.run (first ++ second) = console.run first >>= fun next => next.run second := by
  simp [run]

end Console

end CommandConsole
