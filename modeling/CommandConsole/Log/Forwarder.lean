import CommandConsole.Log.Channel

/-!
# Forwarders

A forwarder stands behind the log of the embedding program. It sends every record that passes its
own filter to the console's inbox as a message, and hands every record to an inner log that listens
by a filter of its own; the two decisions do not depend on each other.

* `Forwarder.messages`: what the console gets of a list of records.
* `Forwarder.delivered`: what the inner log gets of them.
-/

namespace CommandConsole.Log

/-- A log that copies records into a console. -/
structure Forwarder where
  /-- Which records the console gets. -/
  filter : Filter
  /-- Which records the inner log takes, if there is one. -/
  inner : Option Filter
  deriving Repr, DecidableEq

namespace Forwarder

/-- Whether a record at this level goes to the console. -/
def forwards (forwarder : Forwarder) (level : Level) : Bool :=
  forwarder.filter.passes level

/-- Whether a record at this level goes to the inner log. -/
def delivers (forwarder : Forwarder) (level : Level) : Bool :=
  match forwarder.inner with
  | some filter => filter.passes level
  | none => false

/-- Whether anyone listens to records at this level. -/
def isEnabled (forwarder : Forwarder) (level : Level) : Bool :=
  forwarder.forwards level || forwarder.delivers level

/-- The messages that the console gets of the records, in order. -/
def messages (forwarder : Forwarder) (records : List Record) : List Message :=
  (records.filter fun record => forwarder.forwards record.level).map Record.message

/-- The records that the inner log gets, in order. -/
def delivered (forwarder : Forwarder) (records : List Record) : List Record :=
  records.filter fun record => forwarder.delivers record.level

/-- How often a request to flush reaches the inner log: once, if there is one. -/
def flushes (forwarder : Forwarder) : Nat :=
  if forwarder.inner.isSome then 1 else 0

@[simp]
theorem messages_nil (forwarder : Forwarder) : forwarder.messages [] = [] := rfl

@[simp]
theorem messages_append (forwarder : Forwarder) (a b : List Record) :
    forwarder.messages (a ++ b) = forwarder.messages a ++ forwarder.messages b := by
  simp [messages]

end Forwarder

/-- What an observer of the log sees of the records: everything if no forwarder is installed, else
what the forwarder's inner log gets. -/
def observed (forwarder : Option Forwarder) (records : List Record) : List Record :=
  match forwarder with
  | some forwarder => forwarder.delivered records
  | none => records

end CommandConsole.Log
