import CommandConsole.Toml.Lexical
import CommandConsole.Toml.Value

/-!
# Numbers of TOML

Integers in four bases, decimal numbers, and the special values. A single underscore may stand
between two digits. Integers have to fit into 64 bits with a sign; a decimal number has to stay
below the point where the nearest double is infinite, on the positive side only.

* `Decimal.isTooLarge`: whether the nearest double of a number is positive infinity.
-/

namespace CommandConsole.Toml

open Scanner

/-- The smallest integer of 64 bits. -/
def minInteger : Int := -9223372036854775808

/-- The largest integer of 64 bits. -/
def maxInteger : Int := 9223372036854775807

/-- Where doubles end: halfway between the largest one and the next power of two. -/
def doubleLimit : Nat := ((1 <<< 54) - 1) <<< 970

/-- How many decimal digits a number has, one for zero. -/
def decimalLength (n : Nat) : Nat := (Nat.toDigits 10 n).length

/-- Whether the double nearest to the number is positive infinity. The number lies between the
powers of ten with exponents `order - 1` and `order`, and is compared exactly only where these do
not decide. -/
def Decimal.isTooLarge (number : Decimal) : Bool :=
  let order := decimalLength number.digits + number.exponent
  if number.negative || number.digits == 0 || order ≤ 308 then false
  else if 310 ≤ order then true
  else
    match number.exponent with
    | .ofNat up => doubleLimit ≤ number.digits * Nat.pow 10 up
    | .negSucc down => doubleLimit * Nat.pow 10 (down + 1) ≤ number.digits

/-- At least one digit, with single underscores between digits dropped. -/
def digits (holds : Char → Bool) : Scanner (List Char) := do
  let first ← one holds
  let rest ← many (one holds <|> (char '_' *> one holds))
  return first :: rest

/-- A sign, which is plus if there is none; the answer says whether it is minus. -/
def sign : Scanner Bool :=
  (char '-' *> pure true) <|> (char '+' *> pure false) <|> pure false

/-- Decimal digits without a superfluous zero in front. -/
def integerDigits : Scanner (List Char) := do
  match ← digits Char.isDigit with
  | '0' :: _ :: _ => failure
  | found => return found

/-- An integer of 64 bits. -/
def bounded (value : Int) : Scanner Value :=
  if minInteger ≤ value && value ≤ maxInteger then pure (.integer value) else failure

/-- An integer in base ten. -/
def decimalInteger : Scanner Value := do
  let negative ← sign
  let magnitude := numeral 10 (← integerDigits)
  bounded (if negative then -magnitude else magnitude)

/-- An integer in another base, marked by a zero and a letter. -/
def markedInteger (letter : Char) (base : Nat) : Scanner Value := do
  literal ['0', letter]
  let found ← digits fun c => ((hexValue? c).filter (· < base)).isSome
  bounded (numeral base found)

/-- An integer in any base. -/
def integer : Scanner Value :=
  markedInteger 'x' 16 <|> markedInteger 'o' 8 <|> markedInteger 'b' 2 <|> decimalInteger

/-- The digits after a decimal point. -/
def fraction : Scanner (List Char) := char '.' *> digits Char.isDigit

/-- A power of ten. -/
def exponent : Scanner Int := do
  discard (one fun c => c == 'e' || c == 'E')
  let negative ← sign
  let magnitude := numeral 10 (← digits Char.isDigit)
  return if negative then -magnitude else magnitude

/-- A decimal number: digits with a fraction, a power of ten, or both. -/
def decimal : Scanner Value := do
  let negative ← sign
  let front ← integerDigits
  let after ← optional fraction
  let power ← optional exponent
  if after.isNone && power.isNone then failure
  let places := after.getD []
  let number : Decimal :=
    ⟨negative, numeral 10 (front ++ places), power.getD 0 - places.length⟩
  if number.isTooLarge then failure else return .decimal number

/-- An infinity, or what is not a number. -/
def special : Scanner Value := do
  let negative ← sign
  (literal ['i', 'n', 'f'] *> pure (.infinity negative)) <|>
    (literal ['n', 'a', 'n'] *> pure .notANumber)

end CommandConsole.Toml
