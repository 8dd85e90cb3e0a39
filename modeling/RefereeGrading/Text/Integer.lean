import RefereeGrading.Text.Blank
import RefereeGrading.Text.Digits

/-!
# Reading whole numbers leniently

A whole number written for people: white space around it is allowed (the characters of the
Unicode White_Space property; the ASCII information separators 1C to 1F do not count), then
an optional sign, then decimal digits of any script. A single underscore may stand between two
digits to group them. Anything else makes the text no number. Reading converts at most
`digitLimit` digits: a longer run of digits is refused, whatever its value, since converting
it takes time that grows with the square of its length.
-/

namespace RefereeGrading.Text

/-- The value of a run of digits with single underscores between digits, read on from `acc`;
`afterDigit` says whether the last character read was a digit. -/
def digitsValue (acc : Nat) (afterDigit : Bool) : List Char → Option Nat
  | [] => if afterDigit then some acc else none
  | '_' :: rest => if afterDigit then digitsValue acc false rest else none
  | c :: rest =>
    match digitValue? c with
    | some d => digitsValue (acc * 10 + d) true rest
    | none => none

/-- The most digits whole-number reading converts. -/
def digitLimit : Nat := 4300

/-- A run of digits longer than `digitLimit`, refused by whole-number reading. -/
structure DigitOverflow where
  digits : Nat
  deriving Repr, DecidableEq

def DigitOverflow.message (overflow : DigitOverflow) : String :=
  let limit := digitLimit
  let count := overflow.digits
  s!"Exceeds the limit ({limit} digits) for integer string conversion: value has {count} digits; use sys.set_int_max_str_digits() to increase the limit"

/-- The digit overflow of a run of `count` digits, if it is longer than `digitLimit`. -/
def DigitOverflow.check (count : Nat) : Except DigitOverflow Unit :=
  if digitLimit < count then .error ⟨count⟩ else .ok ()

def trimWhiteSpace (cs : List Char) : List Char :=
  ((cs.dropWhile isWhiteSpace).reverse.dropWhile isWhiteSpace).reverse

/-- The value of unsigned digits with single underscores between digits, if there are at most
`digitLimit` digits. -/
def unsignedValue? (cs : List Char) : Option Nat :=
  if digitLimit < (cs.filter (· ≠ '_')).length then none else digitsValue 0 false cs

/-- The whole number a text stands for, if it is one. -/
def readInteger? (text : String) : Option Int :=
  match trimWhiteSpace text.toList with
  | '-' :: rest => (unsignedValue? rest).map fun n => -(n : Int)
  | '+' :: rest => (unsignedValue? rest).map fun n => (n : Int)
  | cs => (unsignedValue? cs).map fun n => (n : Int)

example : readInteger? " -1_000 " = some (-1000) := by decide

example : readInteger? "1__0" = none := by decide

end RefereeGrading.Text
