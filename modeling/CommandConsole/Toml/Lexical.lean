import CommandConsole.Toml.Scanner

/-!
# Blanks, comments and strings of TOML

The lexical part of the format: what separates, what is ignored, and the four kinds of strings.
Basic strings have escapes, literal strings have none; both can stand on one line between single
quotation marks or on several lines between triple ones. A string on several lines may hold one or
two of its quotation marks in a row, and may end in up to two of them before the closing three.

A control character other than the tab is nowhere allowed.
-/

namespace CommandConsole.Toml

open Scanner

/-- Characters that separate within a line. -/
def isGap (c : Char) : Bool := c == ' ' || c == '\t'

/-- Characters that comments and strings may hold, quotation marks and escapes apart. -/
def isPlain (c : Char) : Bool :=
  c == '\t' || (0x20 ≤ c.toNat && c.toNat != 0x7F)

/-- Characters that stand for themselves in a basic string. -/
def isBasic (c : Char) : Bool := isPlain c && c != '"' && c != '\\'

/-- Characters that stand for themselves in a literal string. -/
def isLiteral (c : Char) : Bool := isPlain c && c != '\''

/-- Characters of a key without quotation marks. -/
def isBare (c : Char) : Bool := c.isAlphanum || c == '_' || c == '-'

/-- Whatever separates within a line. -/
def gap : Scanner Unit := discard (run isGap)

/-- The end of a line: a line feed, with or without a carriage return. -/
def newline : Scanner Unit := char '\n' <|> literal ['\r', '\n']

/-- A comment, up to the end of its line. -/
def comment : Scanner Unit := do
  char '#'
  discard (run isPlain)

/-- What may follow on a line when all is said: a gap, a comment, the end of the line or of the
text. -/
def lineEnd : Scanner Unit := do
  gap
  discard (optional comment)
  newline <|> atEnd

/-- Gaps, comments and line ends, as they may stand between the items of an array. -/
def wideGap : Scanner Unit :=
  discard (many (discard (one isGap) <|> (comment *> newline) <|> newline))

/-! ## Numerals -/

/-- The value of a hexadecimal digit. -/
def hexValue? (c : Char) : Option Nat :=
  if c.isDigit then some (c.toNat - '0'.toNat)
  else if 'a' ≤ c && c ≤ 'f' then some (c.toNat - 'a'.toNat + 10)
  else if 'A' ≤ c && c ≤ 'F' then some (c.toNat - 'A'.toNat + 10)
  else none

/-- The number that digits of a base stand for; characters that are no digits count as zero. -/
def numeral (base : Nat) (digits : List Char) : Nat :=
  digits.foldl (fun value c => base * value + (hexValue? c).getD 0) 0

/-- Exactly `count` characters of a class. -/
def exactly (count : Nat) (holds : Char → Bool) : Scanner (List Char) := fun text =>
  let front := text.take count
  if front.length == count && front.all holds then some (front, text.drop count) else none

/-! ## Strings -/

/-- The character with a code point given by exactly `count` hexadecimal digits. -/
def codePoint (count : Nat) : Scanner Char := do
  let digits ← exactly count fun c => (hexValue? c).isSome
  let value := numeral 16 digits
  if value.isValidChar then return Char.ofNat value else failure

/-- A backslash and the character it stands for together with what follows. -/
def escape : Scanner Char := do
  char '\\'
  match ← one fun _ => true with
  | 'b' => return '\x08'
  | 't' => return '\t'
  | 'n' => return '\n'
  | 'f' => return '\x0c'
  | 'r' => return '\r'
  | '"' => return '"'
  | '\\' => return '\\'
  | 'u' => codePoint 4
  | 'U' => codePoint 8
  | _ => failure

/-- A string on one line: pieces between two quotation marks. -/
def lineString (quote : Char) (piece : Scanner Char) : Scanner String := do
  char quote
  let content ← many piece
  char quote
  return String.ofList content

/-- A backslash at the end of a line, which removes the line end and all gaps after it. -/
def escapedNewline : Scanner Unit := do
  char '\\'
  gap
  newline
  discard (many (discard (one isGap) <|> newline))

/-- One or two quotation marks that do not close a string on several lines. -/
def innerQuotes (quote : Char) : Scanner (List Char) := do
  let quotes ← run (· == quote)
  if quotes.length == 1 || quotes.length == 2 then return quotes else failure

/-- The quotation marks that close a string on several lines, and those before them that belong to
its content. -/
def closingQuotes (quote : Char) : Scanner (List Char) :=
  (literal (List.replicate 5 quote) *> pure (List.replicate 2 quote)) <|>
    (literal (List.replicate 4 quote) *> pure [quote]) <|>
      (literal (List.replicate 3 quote) *> pure [])

/-- A string on several lines: pieces between triple quotation marks; a line end right after the
opening ones is dropped. -/
def blockString (quote : Char) (piece : Scanner (List Char)) : Scanner String := do
  literal (List.replicate 3 quote)
  discard (optional newline)
  let content ← many (piece <|> (newline *> pure ['\n']) <|> innerQuotes quote)
  let last ← closingQuotes quote
  return String.ofList (content.flatten ++ last)

/-- A basic string on one line. -/
def basicString : Scanner String := lineString '"' (one isBasic <|> escape)

/-- A literal string on one line. -/
def literalString : Scanner String := lineString '\'' (one isLiteral)

/-- A string of any kind. -/
def string : Scanner String :=
  blockString '"'
    ((List.singleton <$> one isBasic) <|> (escapedNewline *> pure []) <|>
      (List.singleton <$> escape)) <|>
  basicString <|>
  blockString '\'' (List.singleton <$> one isLiteral) <|>
  literalString

end CommandConsole.Toml
