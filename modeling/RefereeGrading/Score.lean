import RefereeGrading.Judgement
import RefereeGrading.Decimal.Fixed

/-!
# Scores

A score counts judgements by verdict and derives precision `tp / (tp + fp)`, recall
`tp / (tp + fn)` and F1, each undefined for a zero denominator, rounded to four decimals.
Ignored judgements count only as ignored, and the first unclassified judgement that is not
ignored stops the count. Per command, judgements are filed under the name of their call's
code.
-/

namespace RefereeGrading

/-- How many judgements of each kind a list holds. -/
structure Tally where
  truePositives : Nat := 0
  falsePositives : Nat := 0
  falseNegatives : Nat := 0
  ignored : Nat := 0
  deriving Repr, DecidableEq, Inhabited

/-- Why a list of judgements has no score. -/
inductive ScoreError where
  /-- The judgement at this position is unclassified and not ignored. -/
  | unclassified (position : Nat)
  deriving Repr, DecidableEq

def ScoreError.message : ScoreError → String
  | .unclassified position => s!"evaluation {position} is unclassified"

namespace Tally

/-- Counts one more judgement, unless it is unclassified and not ignored. -/
def count? (tally : Tally) (judgement : Judgement) : Option Tally :=
  if judgement.ignore then some { tally with ignored := tally.ignored + 1 }
  else
    match judgement.verdict with
    | .truePositive => some { tally with truePositives := tally.truePositives + 1 }
    | .falsePositive => some { tally with falsePositives := tally.falsePositives + 1 }
    | .falseNegative => some { tally with falseNegatives := tally.falseNegatives + 1 }
    | .unclassified => none

/-- Counts the judgements of a list that starts at `position`, on top of `tally`. -/
def countFrom (position : Nat) (tally : Tally) : List Judgement → Except ScoreError Tally
  | [] => .ok tally
  | judgement :: rest =>
    match tally.count? judgement with
    | some next => countFrom (position + 1) next rest
    | none => .error (.unclassified position)

def ofJudgements (judgements : List Judgement) : Except ScoreError Tally :=
  countFrom 0 {} judgements

end Tally

/-- Precision, recall and F1; `none` marks an undefined ratio. -/
structure Ratios (α : Type) where
  precision : Option α
  «recall» : Option α
  f1 : Option α

/-- A tally with its ratios, rounded to four decimals; `none` marks an undefined ratio. -/
structure Score where
  tally : Tally
  precision : Option Float
  «recall» : Option Float
  f1 : Option Float
  deriving Inhabited

namespace Score

section Arithmetic

/-! The ratios are computed the same way in any arithmetic: scores use doubles, and read in
exact arithmetic the same steps give the ratios the counts stand for. -/

variable {α : Type} [Add α] [Mul α] [Div α] [OfNat α 0] [OfNat α 2] [BEq α]

/-- `part / whole`, with the counts cast into the arithmetic; undefined for an empty whole. -/
def ratio (cast : Nat → α) (part whole : Nat) : Option α :=
  if whole = 0 then none else some (cast part / cast whole)

/-- The harmonic mean of two ratios, undefined when their sum is zero. -/
def harmonic (p r : α) : Option α :=
  if p + r == 0 then none else some (2 * p * r / (p + r))

/-- The ratios of a tally: precision `tp / (tp + fp)`, recall `tp / (tp + fn)`, and F1 their
harmonic mean, undefined when either is. -/
def ratios (cast : Nat → α) (tally : Tally) : Ratios α :=
  let tp := tally.truePositives
  let precision := ratio cast tp (tp + tally.falsePositives)
  let recallRatio := ratio cast tp (tp + tally.falseNegatives)
  { precision
    «recall» := recallRatio
    f1 := match precision, recallRatio with
      | some p, some r => harmonic p r
      | _, _ => none }

end Arithmetic

/-- The score of a tally: its ratios in doubles, rounded to four decimals. -/
def ofTally (tally : Tally) : Score :=
  let inDoubles := ratios Float.ofNat tally
  { tally
    precision := inDoubles.precision.map (Decimal.roundToPlaces 4)
    «recall» := inDoubles.recall.map (Decimal.roundToPlaces 4)
    f1 := inDoubles.f1.map (Decimal.roundToPlaces 4) }

def ofJudgements (judgements : List Judgement) : Except ScoreError Score :=
  (Tally.ofJudgements judgements).map ofTally

/-- The name a judgement is filed under when scoring per command. -/
def commandKey (judgement : Judgement) : String :=
  match judgement.automatic, judgement.human with
  | some call, _ => commandName call.code
  | none, some call => commandName call.code
  | none, none => "NONE"

/-- Inserts a name into a list in increasing order, keeping names unique. -/
def insertKey (key : String) : List String → List String
  | [] => [key]
  | first :: rest =>
    if key = first then first :: rest
    else if key < first then key :: first :: rest
    else first :: insertKey key rest

/-- The names the judgements are filed under, in increasing order. -/
def commandKeys (judgements : List Judgement) : List String :=
  judgements.foldl (fun keys j => insertKey (commandKey j) keys) []

/-- The score of each group of judgements filed under one command name, by name. -/
def byCommand (judgements : List Judgement) : Except ScoreError (List (String × Score)) :=
  (commandKeys judgements).mapM fun key =>
    (ofJudgements (judgements.filter fun j => commandKey j = key)).map fun score => (key, score)

/-- The text of a ratio: three decimals, or `undefined`. -/
def ratioText : Option Float → String
  | none => "undefined"
  | some value => Decimal.fixedText 3 value

/-- The text of a whole number shown as a ratio. The number becomes the nearest double first,
which fails when that double would be infinite. -/
def wholeRatioText (n : Int) : Except String String :=
  match Decimal.wholeToDouble? n with
  | some value => .ok (ratioText (some value))
  | none => .error Decimal.wholeTooLarge

end Score

end RefereeGrading
