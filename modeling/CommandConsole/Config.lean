import CommandConsole.Error

/-!
# Configuration

The two settings of a console, fixed while it runs: how many submitted lines its history holds, and
how many characters have to be typed before completion does anything.

* `Config.validate`: which settings are allowed, and the error for the others; the minimum for
  completion is looked at first.
-/

namespace CommandConsole

/-- The settings of a console. -/
structure Config where
  /-- How many submitted lines the history holds; none disables it. -/
  historyCapacity : Nat := 5
  /-- How many characters completion needs. -/
  minChars : Nat := 3
  deriving Repr, DecidableEq

namespace Config

/-- The largest history, whose slots are all laid out in advance. -/
def maxHistoryCapacity : Nat := 4096

/-- The settings of a console that is not configured. -/
def default : Config := {}

/-- Whether submitted lines can be recalled. -/
def historyEnabled (config : Config) : Bool :=
  config.historyCapacity != 0

/-- Refuses settings that are not allowed. -/
def validate (config : Config) : Except Error Unit :=
  if config.minChars = 0 then .error (.config "autocomplete_min_chars must be at least 1")
  else if maxHistoryCapacity < config.historyCapacity then
    .error (.config ("history_capacity must be at most " ++ toString maxHistoryCapacity ++
      ", got " ++ toString config.historyCapacity))
  else .ok ()

/-- Settings are accepted exactly when completion needs a character and the history is not too
large. -/
theorem validate_eq_ok_iff (config : Config) :
    config.validate = .ok () ↔
      1 ≤ config.minChars ∧ config.historyCapacity ≤ maxHistoryCapacity := by
  unfold validate
  split
  · simp; omega
  · split
    · simp; omega
    · simp; omega

end Config

end CommandConsole
