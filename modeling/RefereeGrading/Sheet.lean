import RefereeGrading.Judgement
import RefereeGrading.Text.Blank
import RefereeGrading.Text.Integer
import RefereeGrading.Text.Utf8
import RefereeGrading.Workspace

/-!
# Correction sheets

A correction sheet lists the judgements of one automatic referee, one line each, so that a
person can mark some as ignored:

    index verdict ignore  a.stop a.issued a.counter a.code  h.stop h.issued h.counter h.code

A sheet is accepted only while it still describes the fresh judgements; only its ignore flags
are taken. Merging otherwise writes the fresh judgements as a new sheet, with a warning.
-/

namespace RefereeGrading

/-- Why a correction sheet or one of its lines was refused. -/
inductive SheetError where
  | fieldCount (line : Int) (count : Nat)
  | notUnsigned (line : Int) (field : List Nat)
  | unknownVerdict (line : Int) (problem : String)
  | indexMismatch (line : Int) (index : Nat)
  | badIgnoreFlag (line : Int) (flag : List Nat)
  | notText (path : List Nat)
  | recordCount (path : List Nat) (count expected : Nat)
  | recordChanged (path : List Nat) (position : Nat)
  deriving Repr, DecidableEq

/-- The text of a sheet error, as code points: a sheet's path is text that may hold escaped
bytes (see `Text.decodeFileName`), and it stands in the text as it is. -/
def SheetError.message : SheetError → List Nat
  | .fieldCount line count => Text.pointsOf s!"line {line}: expected 11 fields, got {count}"
  | .notUnsigned line field =>
    let shown := Text.quotePoints field
    Text.pointsOf s!"line {line}: not an unsigned integer: {shown}"
  | .unknownVerdict line problem => Text.pointsOf s!"line {line}: {problem}"
  | .indexMismatch line index => Text.pointsOf s!"line {line}: index column reads {index}"
  | .badIgnoreFlag line flag =>
    let shown := Text.quotePoints flag
    Text.pointsOf s!"line {line}: ignore flag must be 0 or 1, got {shown}"
  | .notText path => path ++ Text.pointsOf ": not a text file"
  | .recordCount path count expected =>
    path ++ Text.pointsOf s!": {count} records, expected {expected}"
  | .recordChanged path position =>
    path ++ Text.pointsOf s!": record {position} no longer matches the log"

/-- Why reading a sheet failed: the sheet was refused, or a number in it had more digits than
whole-number reading converts. -/
inductive SheetFault where
  | refused (error : SheetError)
  | overflow (problem : Text.DigitOverflow)
  deriving Repr, DecidableEq

namespace Sheet

/-- The four fields of a call; no call is four zeros. -/
def callFields : Option Event → List Int
  | none => [0, 0, 0, 0]
  | some call => [call.stoppedAt, call.issuedAt, call.counter, call.code]

/-- The call that four fields stand for; four zeros stand for none. -/
def callOfFields (stoppedAt issuedAt counter code : Nat) : Option Event :=
  if stoppedAt = 0 && issuedAt = 0 && counter = 0 && code = 0 then none
  else some ⟨stoppedAt, issuedAt, counter, code⟩

def padLeft (width : Nat) (text : String) : String :=
  String.ofList (List.replicate (width - text.length) ' ') ++ text

/-- The line of a judgement at a given index. -/
def line (index : Int) (judgement : Judgement) : String :=
  let numbers := callFields judgement.automatic ++ callFields judgement.human
  padLeft 3 (toString index) ++ " " ++ padLeft 2 judgement.verdict.tag ++ " " ++
    (if judgement.ignore then "1" else "0") ++ " " ++ " ".intercalate (numbers.map toString)

/-- Whether a field is an unsigned decimal number: ASCII digits only. -/
def isUnsigned (field : List Nat) : Bool :=
  field.all fun n => 0x30 ≤ n && n ≤ 0x39

def unsignedValue (field : List Nat) : Nat :=
  field.foldl (fun acc n => acc * 10 + (n - 0x30)) 0

/-- Reads the line expected at index `expected`. The line is given as code points, since a
line handed over as text may hold surrogate code points. -/
def parseLine (text : List Nat) (expected : Int) : Except SheetFault Judgement :=
  match Text.pointFields text with
  | [index, tag, flag, a1, a2, a3, a4, h1, h2, h3, h4] => do
    let numbers := [index, a1, a2, a3, a4, h1, h2, h3, h4]
    match numbers.find? fun field => !isUnsigned field with
    | some bad => throw (SheetFault.refused (.notUnsigned expected bad))
    | none => pure ()
    let verdict ← (Verdict.parse tag).mapError fun problem =>
      SheetFault.refused (.unknownVerdict expected problem)
    numbers.forM fun field => (Text.DigitOverflow.check field.length).mapError .overflow
    let v := unsignedValue
    if (v index : Int) ≠ expected then throw (SheetFault.refused (.indexMismatch expected (v index)))
    if flag ≠ [0x30] && flag ≠ [0x31] then
      throw (SheetFault.refused (.badIgnoreFlag expected flag))
    return { verdict
             automatic := callOfFields (v a1) (v a2) (v a3) (v a4)
             human := callOfFields (v h1) (v h2) (v h3) (v h4)
             ignore := flag = [0x31] }
  | parts => .error (.refused (.fieldCount expected parts.length))

/-- The text of a sheet: one line per judgement, each ended by a line feed. -/
def render (judgements : List Judgement) : String :=
  String.join (judgements.zipIdx.map fun (judgement, index) => line index judgement ++ "\n")

/-- Whether two judgements agree on everything but the ignore flag. -/
def sameOutcome (a b : Judgement) : Bool :=
  a.verdict = b.verdict && callFields a.automatic = callFields b.automatic &&
    callFields a.human = callFields b.human

/-- Reads the records of a sheet against the fresh judgements, from position `position`. -/
def readRecords (path : List Nat) (position : Nat) :
    List String → List Judgement → Except SheetFault (List Judgement)
  | text :: texts, fresh :: rest => do
    let loaded ← parseLine (Text.pointsOf text) position
    if !sameOutcome loaded fresh then throw (SheetFault.refused (.recordChanged path position))
    let others ← readRecords path (position + 1) texts rest
    return loaded :: others
  | _, _ => .ok []

/-- The judgements of a sheet file at `path`, which must still describe `fresh`. -/
def load (path : List Nat) (bytes : List UInt8) (fresh : List Judgement) :
    Except SheetFault (List Judgement) :=
  match Text.decode? bytes with
  | none => .error (.refused (.notText path))
  | some text =>
    let records := ((Text.lines text).reverse.dropWhile Text.isBlank).reverse
    if records.length ≠ fresh.length then
      .error (.refused (.recordCount path records.length fresh.length))
    else readRecords path 0 records fresh

/-- What merging a sheet gives: the judgements to score, whether the sheet was taken, the
sheet to write (if any) and the warning given (if any). -/
structure Merge where
  judgements : List Judgement
  loaded : Bool
  written : Option String
  warning : Option (List Nat)

/-- Merges the sheet at `path` (its bytes, if it exists) with the fresh judgements; fails only
on a number too long to read. -/
def merge (path : List Nat) (existing : Option (List UInt8)) (fresh : List Judgement) :
    Except Text.DigitOverflow Merge :=
  let baseline (warning : Option (List Nat)) : Merge :=
    { judgements := fresh, loaded := false, written := some (render fresh), warning }
  match existing with
  | none => .ok (baseline none)
  | some bytes =>
    match load path bytes fresh with
    | .ok merged => .ok { judgements := merged, loaded := true, written := none, warning := none }
    | .error (.refused problem) =>
      let warning := Text.pointsOf "Discarding correction file " ++ path ++ Text.pointsOf ": " ++
        problem.message
      .ok (baseline (some warning))
    | .error (.overflow problem) => .error problem

/-- The path of the sheet for source `index` beside the log at `logPath`: the log's name
followed by the index and the suffix, or `fallback` when the suffix is empty. -/
def pathFor (logPath : List Nat) (index : Int) (suffix fallback : List Nat) :
    Except String (List Nat) :=
  let log := PathName.ofPoints logPath
  let ending := if suffix = [] then fallback else suffix
  let newName := log.name ++ [PathName.dot] ++ Text.pointsOf (toString index) ++ [PathName.dot] ++ ending
  (log.withName newName).map PathName.toPoints

end Sheet

end RefereeGrading
