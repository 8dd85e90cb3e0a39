import RefereeGrading.Event
import RefereeGrading.Text.Quoted

/-!
# Judgements

A judgement says how one automatic call compares with the human calls: a true positive pairs
it with a human call of the same code, a false positive stands alone, and a false negative is
a human call that no automatic call matched. A fourth verdict, *unclassified*, exists for
sheets written by hand. An operator may mark a judgement as ignored, which takes it out of
the score.
-/

namespace RefereeGrading

/-- The verdict of a judgement. -/
inductive Verdict where
  | truePositive
  | falsePositive
  | falseNegative
  | unclassified
  deriving Repr, DecidableEq, Inhabited

namespace Verdict

/-- The two-letter tag of a verdict, as sheets and reports write it. -/
def tag : Verdict → String
  | truePositive => "TP"
  | falsePositive => "FP"
  | falseNegative => "FN"
  | unclassified => "UN"

/-- The verdict with a given tag; tags are case-sensitive. -/
def ofTag? : String → Option Verdict
  | "TP" => some truePositive
  | "FP" => some falsePositive
  | "FN" => some falseNegative
  | "UN" => some unclassified
  | _ => none

def all : List Verdict := [truePositive, falsePositive, falseNegative, unclassified]

/-- The verdict whose tag has these code points, or the message that they name none. The
tag may be any text, also one that holds surrogate code points. -/
def parse (tag : List Nat) : Except String Verdict :=
  match all.find? fun verdict => Text.pointsOf verdict.tag = tag with
  | some verdict => .ok verdict
  | none => .error (Text.quotePoints tag ++ " is not a valid Classification")

end Verdict

/-- One verdict with the automatic and human calls it concerns. -/
structure Judgement where
  verdict : Verdict
  automatic : Option Event := none
  human : Option Event := none
  ignore : Bool := false
  deriving Repr, DecidableEq, Inhabited

namespace Judgement

/-- An automatic call matched by a human call. -/
def matched (automatic human : Event) : Judgement :=
  { verdict := .truePositive, automatic := some automatic, human := some human }

/-- An automatic call with no human counterpart. -/
def unmatched (automatic : Event) : Judgement :=
  { verdict := .falsePositive, automatic := some automatic }

/-- A human call that no automatic call matched. -/
def missed (human : Event) : Judgement :=
  { verdict := .falseNegative, human := some human }

end Judgement

end RefereeGrading
