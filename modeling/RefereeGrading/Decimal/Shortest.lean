import RefereeGrading.Decimal.Binary

/-!
# Shortest decimal text of a double

The text of a double is the decimal with the fewest significant digits that reads back as the
same double; of two such the nearer wins, and an exact tie goes to the even last digit. All
comparisons are made on exact naturals in units of `2^-1076`. The layout is positional for
decimal exponents from `-4` to `15` and scientific outside.
-/

namespace RefereeGrading.Decimal

/-- The interval of reals that round to a finite nonzero double, in units of `2^-1076`. -/
structure ReadBack where
  low : Nat
  high : Nat
  closed : Bool
  deriving Repr

/-- The read-back interval of the double with this magnitude, exponent field and fraction. -/
def ReadBack.ofParts (units exponentField fraction : Nat) : ReadBack :=
  let halfStep := 1 <<< max exponentField 1
  let lowerHalf := if fraction = 0 ∧ 1 < exponentField then halfStep / 2 else halfStep
  { low := 4 * units - lowerHalf, high := 4 * units + halfStep, closed := fraction % 2 = 0 }

/-- `digits * 10^exponent` in units of `2^-1076`, as a pair `(value, scale)` meaning
`value / 10^scale`. -/
def scaledDecimal (digits : Nat) (exponent : Int) : Nat × Nat :=
  match exponent with
  | .ofNat k => ((digits * Nat.pow 10 k) <<< (unitShift + 2), 0)
  | .negSucc k => (digits <<< (unitShift + 2), k + 1)

/-- Whether `digits * 10^exponent` lies in the read-back interval. -/
def ReadBack.admits (interval : ReadBack) (digits : Nat) (exponent : Int) : Bool :=
  let (value, scale) := scaledDecimal digits exponent
  let low := interval.low * Nat.pow 10 scale
  let high := interval.high * Nat.pow 10 scale
  if interval.closed then decide (low ≤ value) && decide (value ≤ high)
  else decide (low < value) && decide (value < high)

/-- The distance of `digits * 10^exponent` from the value `4 * units` (same units and scale as
`scaledDecimal`). -/
def distance (units digits : Nat) (exponent : Int) : Nat :=
  let (value, scale) := scaledDecimal digits exponent
  let target := 4 * units * Nat.pow 10 scale
  if value ≤ target then target - value else value - target

/-- `⌊units * 2^-1074 / 10^exponent⌋`. -/
def floorAt (units : Nat) (exponent : Int) : Nat :=
  match exponent with
  | .ofNat k => units / (Nat.pow 10 k <<< unitShift)
  | .negSucc k => (units * Nat.pow 10 (k + 1)) >>> unitShift

def digitCount (n : Nat) : Nat := (Nat.toDigits 10 n).length

/-- The first `j` in `start, start + 1, …` (at most `fuel` of them) with
`units * 10^j ≥ 2^1074`. -/
def firstScale (units : Nat) : Nat → Nat → Nat
  | 0, start => start
  | fuel + 1, start =>
    if 2 ^ unitShift ≤ units * 10 ^ start then start else firstScale units fuel (start + 1)

/-- `⌊log10 (units * 2^-1074)⌋` for a positive magnitude. -/
def decimalExponent (units : Nat) : Int :=
  let whole := units >>> unitShift
  if 0 < whole then (digitCount whole : Int) - 1
  else -(firstScale units 400 1 : Int)

/-- The better of the two neighbours of a value on one decimal grid, if either reads back. -/
def pickNeighbour (interval : ReadBack) (units : Nat) (exponent : Int) : Option Nat :=
  let below := floorAt units exponent
  let above := below + 1
  let belowFits := 0 < below && interval.admits below exponent
  let aboveFits := interval.admits above exponent
  if belowFits && aboveFits then
    let belowGap := distance units below exponent
    let aboveGap := distance units above exponent
    if belowGap < aboveGap then some below
    else if aboveGap < belowGap then some above
    else if below % 2 = 0 then some below else some above
  else if belowFits then some below
  else if aboveFits then some above
  else none

/-- The shortest digits, searching grids of `count, count + 1, …` significant digits. -/
def searchDigits (interval : ReadBack) (units : Nat) (top : Int) : Nat → Nat → Nat × Int
  | 0, _ => (floorAt units (top - 16), top - 16)
  | fuel + 1, count =>
    let exponent := top - count + 1
    match pickNeighbour interval units exponent with
    | some digits => (digits, exponent)
    | none => searchDigits interval units top fuel (count + 1)

def trimZeros : Nat → Nat × Int → Nat × Int
  | 0, pair => pair
  | fuel + 1, (digits, exponent) =>
    if digits ≠ 0 ∧ digits % 10 = 0 then trimZeros fuel (digits / 10, exponent + 1)
    else (digits, exponent)

/-- The shortest significant digits and exponent of a positive magnitude, with no trailing
zero: the value reads as `digits * 10^exponent`. -/
def shortestDigits (units exponentField fraction : Nat) : Nat × Int :=
  let interval := ReadBack.ofParts units exponentField fraction
  let found := searchDigits interval units (decimalExponent units) 17 1
  trimZeros 40 found

/-- Writes `digits * 10^exponent` positionally or in scientific form. -/
def layout (digits : Nat) (exponent : Int) : String :=
  let text := Nat.toDigits 10 digits
  let count : Int := text.length
  let leading := exponent + count - 1
  if -4 ≤ leading ∧ leading < 16 then
    if 0 ≤ exponent then
      String.ofList text ++ String.ofList (List.replicate exponent.toNat '0') ++ ".0"
    else if 0 < exponent + count then
      let cut := (exponent + count).toNat
      String.ofList (text.take cut) ++ "." ++ String.ofList (text.drop cut)
    else
      "0." ++ String.ofList (List.replicate (-(exponent + count)).toNat '0') ++ String.ofList text
  else
    let mantissa :=
      match text with
      | first :: rest@(_ :: _) => String.ofList [first] ++ "." ++ String.ofList rest
      | _ => String.ofList text
    let power := Nat.toDigits 10 leading.natAbs
    let powerText := if power.length < 2 then '0' :: power else power
    mantissa ++ "e" ++ (if leading < 0 then "-" else "+") ++ String.ofList powerText

/-- The shortest text that reads back as `x`. -/
def shortestText (x : Float) : String :=
  match Binary.ofFloat x with
  | .finite negative units exponentField fraction =>
    let sign := if negative then "-" else ""
    if units = 0 then sign ++ "0.0"
    else
      let (digits, exponent) := shortestDigits units exponentField fraction
      sign ++ layout digits exponent
  | .infinite negative => if negative then "-inf" else "inf"
  | .notANumber => "nan"

end RefereeGrading.Decimal
