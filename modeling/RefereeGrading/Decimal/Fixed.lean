import RefereeGrading.Decimal.Binary

/-!
# Rounding to a fixed number of decimal places

Both operations here round the *exact* binary value of a double, so a value that prints as a
half (`0.0005`) but lies just above or below it rounds the way its true value says, and only
a true half goes to the even neighbour.

* `roundToPlaces places x` is the double nearest to `x` rounded to `places` decimals.
* `fixedText places x` writes `x` rounded to `places` decimals, with a leading `-` for any
  negative value, zero included.
-/

namespace RefereeGrading.Decimal

/-- The magnitude of a finite double scaled by `10^places`, rounded half-even. -/
def scaledUnits (places units : Nat) : Nat :=
  roundHalfEven (units * Nat.pow 10 places) (1 <<< unitShift)

/-- The double nearest to `x` rounded to `places` decimals; a non-finite `x` is returned
unchanged, and the sign of `x` is kept, also when the result is zero. -/
def roundToPlaces (places : Nat) (x : Float) : Float :=
  match Binary.ofFloat x with
  | .finite negative units _ _ =>
    let magnitude : Float := OfScientific.ofScientific (scaledUnits places units) true places
    if negative then -magnitude else magnitude
  | _ => x

/-- The digits of `n` with a decimal point before the last `places` of them, padded with
zeros so that at least one digit stands before the point. -/
def pointText (places n : Nat) : String :=
  let digits := (Nat.toDigits 10 n)
  let padded := List.replicate (places + 1 - digits.length) '0' ++ digits
  let whole := padded.take (padded.length - places)
  let fraction := padded.drop (padded.length - places)
  if places = 0 then String.ofList whole
  else String.ofList whole ++ "." ++ String.ofList fraction

/-- `x` written with exactly `places` decimals; infinities are `inf` and `-inf`, and a value
that is not a number is `nan`. -/
def fixedText (places : Nat) (x : Float) : String :=
  match Binary.ofFloat x with
  | .finite negative units _ _ =>
    (if negative then "-" else "") ++ pointText places (scaledUnits places units)
  | .infinite negative => if negative then "-inf" else "inf"
  | .notANumber => "nan"

end RefereeGrading.Decimal
