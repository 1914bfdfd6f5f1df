/-!
# Levels, filters and records

A log record has a level and a text. Levels are ordered by verbosity, from the quietest, `error`,
to the loudest, `trace`; a filter lets the records up to one level pass, or none at all.

* `Filter.passes`: a record passes a filter exactly when it is no louder than the filter.
-/

namespace CommandConsole.Log

/-- How urgent a log record is. -/
inductive Level where
  | error
  | warn
  | info
  | debug
  | trace
  deriving Repr, DecidableEq

namespace Level

/-- Every level, the quietest first. -/
def all : List Level := [.error, .warn, .info, .debug, .trace]

/-- How loud a level is, counted from one. -/
def verbosity : Level → Nat
  | error => 1
  | warn => 2
  | info => 3
  | debug => 4
  | trace => 5

/-- The label of a level in a log. -/
def label : Level → String
  | error => "ERROR"
  | warn => "WARN"
  | info => "INFO"
  | debug => "DEBUG"
  | trace => "TRACE"

/-- The level with the given label, in any mixture of ASCII cases. -/
def ofName? (name : String) : Option Level :=
  all.find? fun level => level.label == name.map Char.toUpper

end Level

/-- Which records are of interest: none, or those up to a level. -/
inductive Filter where
  | off
  | upTo (level : Level)
  deriving Repr, DecidableEq

namespace Filter

/-- The verbosity up to which a filter listens. -/
def verbosity : Filter → Nat
  | off => 0
  | upTo level => level.verbosity

/-- Whether records of a level pass the filter. -/
def passes (filter : Filter) (level : Level) : Bool :=
  level.verbosity ≤ filter.verbosity

/-- The filter with the given name: a level's label or `OFF`, in any mixture of ASCII cases. -/
def ofName? (name : String) : Option Filter :=
  if name.map Char.toUpper == "OFF" then some .off else (Level.ofName? name).map .upTo

end Filter

/-- One entry of a log. -/
structure Record where
  /-- How urgent the record is. -/
  level : Level
  /-- What it reports. -/
  text : String
  deriving Repr, DecidableEq

/-- A record at level `debug`. -/
def Record.debug (text : String) : Record := ⟨.debug, text⟩

/-- A record at level `info`. -/
def Record.info (text : String) : Record := ⟨.info, text⟩

/-- A record at level `warn`. -/
def Record.warn (text : String) : Record := ⟨.warn, text⟩

end CommandConsole.Log
