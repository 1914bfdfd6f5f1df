import CommandConsole.Toml.Calendar
import CommandConsole.Toml.Number
import CommandConsole.Toml.Table

/-!
# TOML documents

The grammar of values, keys and lines, and the table that a document stands for.

A document is a series of lines; each holds at most one statement, and may end in a comment. A byte
order mark may stand at the very start. Keys have fewer than `maxKeyParts` parts, and arrays and
inline tables are nested at most `maxNesting` deep.

* `value`: a value, of a given depth at most.
* `statementLine`: one line.
* `Members.ofText?`: **the table of a document, none if the text is not TOML.**
-/

namespace CommandConsole.Toml

open Scanner

/-- How many parts a key must stay below. -/
def maxKeyParts : Nat := 80

/-- How deep arrays and inline tables may be nested. -/
def maxNesting : Nat := 79

/-- One part of a key: bare, or in quotation marks. -/
def keyPart : Scanner String :=
  basicString <|> literalString <|> do
    let name ← run isBare
    if name.isEmpty then failure else return String.ofList name

/-- A key: parts with dots between them, and gaps around each. -/
def key : Scanner DottedKey := do
  let parts ← separated (gap *> keyPart <* gap) (char '.')
  if parts.length < maxKeyParts then
    match parts.getLast? with
    | some name => return ⟨parts.dropLast, name⟩
    | none => failure
  else failure

/-- A key, an equals sign and a value. -/
def assignment (value : Scanner Value) : Scanner Assignment := do
  let key ← key
  char '='
  gap
  return ⟨key, ← value⟩

/-- An array: items between brackets, with commas between them and perhaps one at the end. -/
def array (item : Scanner Value) : Scanner Value := do
  char '['
  let items ← separated (wideGap *> item <* wideGap) (char ',')
  if !items.isEmpty then discard (optional (char ','))
  wideGap
  char ']'
  return .array items

/-- An inline table: assignments between braces, with commas between them. -/
def inlineTable (item : Scanner Value) : Scanner Value := do
  char '\x7b'
  let assignments ← separated (assignment item <* gap) (char ',')
  gap
  char '\x7d'
  match Members.assignAll [] assignments with
  | some members => return .inline members
  | none => failure

/-- A value that holds no other values. -/
def scalar : Scanner Value :=
  (Value.text <$> string) <|> (Value.moment <$> moment) <|> decimal <|> integer <|> special <|>
    (literal ['t', 'r', 'u', 'e'] *> pure (.boolean true)) <|>
      (literal ['f', 'a', 'l', 's', 'e'] *> pure (.boolean false))

/-- A value in which arrays and inline tables are nested at most `depth` deep. -/
def value (depth : Nat) : Scanner Value :=
  match depth with
  | 0 => scalar
  | depth + 1 => array (value depth) <|> inlineTable (value depth) <|> scalar

/-- The header of a table, or of an element of an array of tables. -/
def header : Scanner Statement :=
  (do
    literal ['[', '[']
    let key ← key
    literal [']', ']']
    return .openElement key) <|> do
    char '['
    let key ← key
    char ']'
    return .openTable key

/-- One line: a statement or none, and the end of the line. -/
def statementLine : Scanner (Option Statement) := do
  gap
  let statement ← match ← peek with
    | none | some '#' | some '\n' | some '\r' => pure none
    | some '[' => some <$> header
    | some _ => (some ∘ Statement.assign) <$> assignment (value maxNesting)
  lineEnd
  return statement

/-- The statements of a text. Every line reads at least one character, so `bound` lines suffice for
a text that has no more characters. -/
def statementsWithin : (bound : Nat) → List Char → Option (List Statement)
  | _, [] => some []
  | 0, _ :: _ => none
  | bound + 1, text => do
    let (statement, rest) ← statementLine text
    return statement.toList ++ (← statementsWithin bound rest)

/-- The statements of a text. -/
def statements (text : List Char) : Option (List Statement) :=
  statementsWithin text.length text

/-- A text without the byte order mark at its start. -/
def withoutMark : List Char → List Char
  | '\uFEFF' :: rest => rest
  | text => text

/-- **The table of a document, none if the text is not TOML.** -/
def Members.ofText? (text : String) : Option Members := do
  Members.ofStatements (← statements (withoutMark text.toList))

end CommandConsole.Toml
