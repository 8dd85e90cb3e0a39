/-!
# The exact value of a double

Every finite double is a whole multiple of `2^-1074`, the smallest positive subnormal. This
module reads that multiple off the bits, so that rounding and printing can work with exact
natural numbers instead of floating-point operations.
-/

namespace RefereeGrading.Decimal

/-- What the bits of a double stand for. -/
inductive Binary where
  /-- A finite value: its sign, its magnitude in units of `2^-1074`, the exponent field and the
  fraction field it came from. -/
  | finite (negative : Bool) (units : Nat) (exponentField : Nat) (fraction : Nat)
  | infinite (negative : Bool)
  | notANumber
  deriving Repr, DecidableEq, Inhabited

/-- The number of binary places below the units place of the smallest subnormal. -/
def unitShift : Nat := 1074

/-- The bits of a double split into sign, exponent field and fraction field. -/
def Binary.ofBits (bits : Nat) : Binary :=
  let negative := decide ((bits >>> 63) % 2 = 1)
  let exponentField := (bits >>> 52) % 0x800
  let fraction := bits % 0x10000000000000
  if exponentField = 0x7FF then
    if fraction = 0 then .infinite negative else .notANumber
  else if exponentField = 0 then
    .finite negative fraction 0 fraction
  else
    .finite negative ((0x10000000000000 + fraction) <<< (exponentField - 1)) exponentField fraction

/-- The exact value of a double. -/
def Binary.ofFloat (x : Float) : Binary :=
  Binary.ofBits x.toBits.toNat

/-- Division of naturals rounded to the nearest whole number; an exact half goes to the even
neighbour. -/
def roundHalfEven (numerator denominator : Nat) : Nat :=
  let quotient := numerator / denominator
  let twiceRest := 2 * (numerator % denominator)
  if twiceRest < denominator then quotient
  else if denominator < twiceRest then quotient + 1
  else if quotient % 2 = 0 then quotient
  else quotient + 1

/-- The least size of a whole number whose nearest double is infinite: `2^1024 - 2^970` lies
halfway between the largest double, `2^1024 - 2^971`, and `2^1024`, and the tie goes to the even
`2^1024`. -/
def overflowThreshold : Nat := (1 <<< 1024) - (1 <<< 970)

/-- The double nearest to a whole number, or `none` when that double would be infinite: the
whole numbers from `2^1024 - 2^970` up in size round past the largest double. -/
def wholeToDouble? (n : Int) : Option Float :=
  if n.natAbs < overflowThreshold then some (Float.ofInt n) else none

def wholeTooLarge : String := "int too large to convert to float"

end RefereeGrading.Decimal
