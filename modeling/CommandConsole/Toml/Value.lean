/-!
# TOML values

What the keys of a TOML document are bound to. Decimal numbers are kept exactly, as digits and a
power of ten; moments keep the fields that were written.

Tables remember how they came to be, because that decides who may still add to them: a table with a
header of its own, one that is only implied by the headers of tables inside it, or one that grew
out of dotted keys. An inline table is complete as written.
-/

namespace CommandConsole.Toml

/-- An exact decimal number: `digits` times ten to the power of `exponent`. -/
structure Decimal where
  /-- Whether the number has a minus sign. -/
  negative : Bool
  /-- The digits without a point. -/
  digits : Nat
  /-- The power of ten. -/
  exponent : Int
  deriving Repr, DecidableEq

/-- A day of the calendar. -/
structure Date where
  year : Nat
  month : Nat
  day : Nat
  deriving Repr, DecidableEq

/-- A time of the day; the fraction of the second is kept as its digits. -/
structure Time where
  hour : Nat
  minute : Nat
  second : Nat
  fraction : List Char
  deriving Repr, DecidableEq

/-- A distance from universal time. -/
inductive Offset where
  /-- Universal time itself. -/
  | zulu
  /-- A number of hours and minutes before or behind it. -/
  | custom (negative : Bool) (hour minute : Nat)
  deriving Repr, DecidableEq

/-- A point in time, as far as it is given. -/
inductive Moment where
  | date (date : Date)
  | time (time : Time)
  | both (date : Date) (time : Time) (offset : Option Offset)
  deriving Repr, DecidableEq

/-- How a table came to be. -/
inductive Origin where
  /-- It has a header of its own. -/
  | declared
  /-- The header of a table inside it names it. -/
  | implied
  /-- A dotted key leads through it. -/
  | dotted
  deriving Repr, DecidableEq

/-- What a key is bound to. -/
inductive Value where
  | text (content : String)
  | integer (value : Int)
  | decimal (value : Decimal)
  | infinity (negative : Bool)
  | notANumber
  | boolean (value : Bool)
  | moment (value : Moment)
  | array (items : List Value)
  /-- A table between braces, which nothing can be added to. -/
  | inline (members : List (String × Value))
  | table (origin : Origin) (members : List (String × Value))
  /-- The tables of an array of tables, each with a header of its own. -/
  | tables (elements : List (List (String × Value)))

/-- Keys with what they are bound to, in the order of their binding. -/
abbrev Members := List (String × Value)

namespace Members

/-- What a key is bound to. -/
def get? (members : Members) (key : String) : Option Value :=
  members.lookup key

/-- Binds a key, in its old place if it was bound already. -/
def put (members : Members) (key : String) (value : Value) : Members :=
  match members with
  | [] => [(key, value)]
  | (other, old) :: rest =>
    if other == key then (key, value) :: rest else (other, old) :: put rest key value

end Members

/-- A key with the keys of the tables that lead to it. -/
structure DottedKey where
  /-- The keys before the last dot. -/
  parents : List String
  /-- The key after it. -/
  name : String
  deriving Repr, DecidableEq

/-- A key and its value. -/
structure Assignment where
  key : DottedKey
  value : Value

/-- One line of a document, apart from blank lines and comments. -/
inductive Statement where
  /-- Binds a key in the table that was opened last. -/
  | assign (assignment : Assignment)
  /-- Opens a table. -/
  | openTable (key : DottedKey)
  /-- Opens a new table at the end of an array of tables. -/
  | openElement (key : DottedKey)

end CommandConsole.Toml
