import CommandConsole.Config
import CommandConsole.Toml.Document

/-!
# Configuration documents

A configuration is read from a TOML document and written as one. The two settings are top-level
keys; keys that are missing take their defaults, and keys that mean nothing here are ignored. A
setting has to be an integer that is not negative.

* `Config.ofToml`: **the document is read as a whole, then the settings are validated.**
* `Config.toToml`: one line for each setting; TOML has no integer beyond 64 bits with a sign.
-/

namespace CommandConsole.Config

open Toml

/-- The key of `historyCapacity`. -/
def historyCapacityKey : String := "history_capacity"

/-- The key of `minChars`. -/
def minCharsKey : String := "autocomplete_min_chars"

/-- A setting in a table: its value, or the default if the key is missing. -/
def setting (members : Members) (key : String) (fallback : Nat) : Except Error Nat :=
  match members.get? key with
  | none => .ok fallback
  | some (.integer (.ofNat value)) => .ok value
  | some _ => .error (.document ("invalid value for key " ++ key))

/-- The settings in a table, not validated yet. -/
def ofMembers (members : Members) : Except Error Config := do
  let historyCapacity ← setting members historyCapacityKey default.historyCapacity
  let minChars ← setting members minCharsKey default.minChars
  return ⟨historyCapacity, minChars⟩

/-- The settings in a document, validated. -/
def ofToml (text : String) : Except Error Config :=
  match Members.ofText? text with
  | none => .error (.document "invalid document")
  | some members => do
    let config ← ofMembers members
    config.validate
    return config

/-- Whether both settings can be written as TOML integers. -/
def isWritable (config : Config) : Bool :=
  (config.historyCapacity : Int) ≤ maxInteger && (config.minChars : Int) ≤ maxInteger

/-- One setting as a line of a document. -/
def settingLine (key : String) (value : Nat) : String :=
  key ++ " = " ++ toString value ++ "\n"

/-- The document of a configuration, none if a setting is too large for TOML. -/
def toToml? (config : Config) : Option String :=
  if config.isWritable then
    some (settingLine historyCapacityKey config.historyCapacity ++
      settingLine minCharsKey config.minChars)
  else none

end CommandConsole.Config
