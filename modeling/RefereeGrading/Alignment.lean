import RefereeGrading.Judgement

/-!
# Aligning automatic calls with human calls

The alignment walks the automatic calls with one cursor into the human calls, both in time
order. A human call issued too early for the automatic call is *missed*; an automatic call
issued too early for the human call is *unmatched*; a human call of the same code *matches*;
any other human call is passed over. Human calls left at the end are missed unless the caller
keeps them out. "Too early" compares an issue time with a STOP time less a tolerance, and a
threshold below zero is never reached.
-/

namespace RefereeGrading

/-- The two tolerances of an alignment, in microseconds. -/
structure Tolerance where
  /-- How much earlier than the human STOP an automatic call may still be judged. -/
  humanToAuto : Int := 0
  /-- How long the human referee has to confirm an automatic call. -/
  autoToHuman : Int := 2000000
  deriving Repr, DecidableEq, Inhabited

namespace Event

/-- `first.precedes second tolerance`: `first` was issued before `second`'s STOP time less the
tolerance, and that threshold is not negative. -/
def precedes (first second : Event) (tolerance : Int) : Bool :=
  let threshold := second.stoppedAt - tolerance
  decide (0 ≤ threshold) && decide (first.issuedAt < threshold)

end Event

namespace Alignment

/-- Judges one automatic call against the open human calls. Returns the judgements made on the
way, in order, and the human calls still open afterwards. -/
def place (tolerance : Tolerance) (call : Event) : List Event → List Judgement × List Event
  | [] => ([Judgement.unmatched call], [])
  | human :: rest =>
    if human.precedes call tolerance.humanToAuto then
      let (made, left) := place tolerance call rest
      (Judgement.missed human :: made, left)
    else if call.precedes human tolerance.autoToHuman then
      ([Judgement.unmatched call], human :: rest)
    else if human.code = call.code then
      ([Judgement.matched call human], rest)
    else
      place tolerance call rest

end Alignment

/-- The judgements of an alignment of `automatic` against the open human calls `humans`; with
`flushTrailing` the human calls left at the end are missed. -/
def align (tolerance : Tolerance) (flushTrailing : Bool) :
    List Event → List Event → List Judgement
  | humans, [] => if flushTrailing then humans.map Judgement.missed else []
  | humans, call :: calls =>
    let (made, left) := Alignment.place tolerance call humans
    made ++ align tolerance flushTrailing left calls

end RefereeGrading
