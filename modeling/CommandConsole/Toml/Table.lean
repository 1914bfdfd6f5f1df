import CommandConsole.Toml.Value

/-!
# Building tables

How the statements of a TOML document, and the assignments of an inline table, grow a table. Each
operation fails where the format forbids it.

* `insert`: a dotted key leads through tables that dotted keys made or headers imply, and through
  the last element of an array of tables; it ends in a table that dotted keys made, and **no key is
  bound twice.**
* `within`: a header leads through any table, and through the last element of an array of tables.
* `openTable`, `openElement`: a table has one header, and may have been implied before.
* `ofStatements`: the table of a whole document.
-/

namespace CommandConsole.Toml.Members

/-- Binds a key in a table that dotted parents lead to. The table at the end of the way has to be
one that dotted keys made. -/
def insert (members : Members) (parents : List String) (name : String) (value : Value) :
    Option Members :=
  match parents with
  | [] => if (members.get? name).isSome then none else some (members.put name value)
  | parent :: rest =>
    match members.get? parent with
    | none => do
      let inner ← insert [] rest name value
      return members.put parent (.table .dotted inner)
    | some (.table origin inner) =>
      if origin = .declared || (rest.isEmpty && origin != .dotted) then none
      else do
        let inner ← insert inner rest name value
        return members.put parent (.table origin inner)
    | some (.tables elements) =>
      match elements.getLast? with
      | none => none
      | some last =>
        if rest.isEmpty then none
        else do
          let last ← insert last rest name value
          return members.put parent (.tables (elements.dropLast ++ [last]))
    | some _ => none

/-- Binds the keys of assignments one after the other. -/
def assignAll (members : Members) (assignments : List Assignment) : Option Members :=
  assignments.foldlM (fun members assignment =>
    members.insert assignment.key.parents assignment.key.name assignment.value) members

/-- Changes the table that the parents of a header lead to; tables on the way that do not exist are
implied. -/
def within (members : Members) (parents : List String) (change : Members → Option Members) :
    Option Members :=
  match parents with
  | [] => change members
  | parent :: rest =>
    match members.get? parent with
    | none => do
      let inner ← within [] rest change
      return members.put parent (.table .implied inner)
    | some (.table origin inner) => do
      let inner ← within inner rest change
      return members.put parent (.table origin inner)
    | some (.tables elements) =>
      match elements.getLast? with
      | none => none
      | some last => do
        let last ← within last rest change
        return members.put parent (.tables (elements.dropLast ++ [last]))
    | some _ => none

/-- Opens a table under its header and fills it. It must not have been opened before, and dotted
keys must not have made it. -/
def openTable (members : Members) (key : DottedKey) (assignments : List Assignment) :
    Option Members :=
  members.within key.parents fun members =>
    match members.get? key.name with
    | none => do return members.put key.name (.table .declared (← assignAll [] assignments))
    | some (.table .implied inner) => do
      return members.put key.name (.table .declared (← assignAll inner assignments))
    | some _ => none

/-- Opens a new element of an array of tables and fills it. -/
def openElement (members : Members) (key : DottedKey) (assignments : List Assignment) :
    Option Members :=
  members.within key.parents fun members =>
    match members.get? key.name with
    | none => do return members.put key.name (.tables [← assignAll [] assignments])
    | some (.tables elements) => do
      return members.put key.name (.tables (elements ++ [← assignAll [] assignments]))
    | some _ => none

/-- The assignments that a document starts with, before any header. -/
def leading : List Statement → List Assignment
  | .assign assignment :: rest => assignment :: leading rest
  | _ => []

/-- Carries out statements that open tables; each takes the assignments that follow it. -/
def openAll (members : Members) : List Statement → Option Members
  | [] => some members
  | .assign _ :: rest => openAll members rest
  | .openTable key :: rest => do openAll (← members.openTable key (leading rest)) rest
  | .openElement key :: rest => do openAll (← members.openElement key (leading rest)) rest

/-- The table of a whole document. -/
def ofStatements (statements : List Statement) : Option Members := do
  openAll (← assignAll [] (leading statements)) statements

end CommandConsole.Toml.Members
