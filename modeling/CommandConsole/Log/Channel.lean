import CommandConsole.Log.Message

/-!
# Inboxes and channels

An inbox holds the messages that wait for the console, the oldest first. A channel is what a
producer of messages holds: it leads to an inbox as long as someone receives, and messages sent
after that are dropped without notice.

* `Inbox.queued_send`, `Inbox.queued_sendAll`: sending appends at the end.
* `Inbox.take`, `Inbox.drain`: messages are taken out at the front.
-/

namespace CommandConsole.Log

/-- The messages that wait for the console. -/
structure Inbox where
  /-- The waiting messages, the oldest first. -/
  queued : List Message := []
  deriving Repr, DecidableEq

namespace Inbox

/-- An inbox where nothing waits. -/
def empty : Inbox := {}

/-- One more message at the end. -/
def send (inbox : Inbox) (message : Message) : Inbox :=
  ⟨inbox.queued ++ [message]⟩

/-- More messages at the end, in order. -/
def sendAll (inbox : Inbox) (messages : List Message) : Inbox :=
  ⟨inbox.queued ++ messages⟩

/-- Takes the oldest messages out of the inbox, up to `limit` of them. -/
def take (inbox : Inbox) (limit : Nat) : List Message × Inbox :=
  (inbox.queued.take limit, ⟨inbox.queued.drop limit⟩)

/-- Takes every message out of the inbox. -/
def drain (inbox : Inbox) : List Message × Inbox :=
  (inbox.queued, empty)

@[simp]
theorem queued_empty : empty.queued = [] := rfl

@[simp]
theorem queued_send (inbox : Inbox) (message : Message) :
    (inbox.send message).queued = inbox.queued ++ [message] := rfl

@[simp]
theorem queued_sendAll (inbox : Inbox) (messages : List Message) :
    (inbox.sendAll messages).queued = inbox.queued ++ messages := rfl

end Inbox

/-- A producer's end of a message queue: the inbox it leads to, none once the receiver is gone. -/
structure Channel where
  /-- Where the messages arrive. -/
  inbox : Option Inbox := some .empty
  deriving Repr, DecidableEq

namespace Channel

/-- A fresh channel with a receiver. -/
def new : Channel := {}

/-- Sends a message, which is lost if nobody receives. -/
def send (channel : Channel) (message : Message) : Channel :=
  ⟨channel.inbox.map (·.send message)⟩

/-- The channel after its receiver left. -/
def hangUp (_ : Channel) : Channel := ⟨none⟩

/-- Takes up to `limit` messages, all of them without a limit; none if nobody receives. -/
def receive? (channel : Channel) (limit : Option Nat) : Option (List Message × Channel) :=
  channel.inbox.map fun inbox =>
    let (messages, rest) := match limit with
      | some limit => inbox.take limit
      | none => inbox.drain
    (messages, ⟨some rest⟩)

end Channel

end CommandConsole.Log
