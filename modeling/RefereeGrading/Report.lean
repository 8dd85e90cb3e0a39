import RefereeGrading.Score
import RefereeGrading.Json

/-!
# Grading reports

A report of a grading run: the log, the counts of the ingest, the tolerances, one summary per
referee source and one result per automatic referee with its score overall and per command.
It is written as text or as indented JSON; paths are code points, since they may hold escaped
bytes.
-/

namespace RefereeGrading

/-- What one referee source contributed. -/
structure SourceSummary where
  index : Nat
  port : Int
  commands : Nat
  events : Nat
  deriving Repr, Inhabited

/-- The grading of one automatic referee. -/
structure AutorefResult where
  index : Nat
  port : Int
  evaluations : Nat
  correctionsLoaded : Bool
  correctionFile : List Nat
  score : Score
  byCommand : List (String × Score)
  deriving Inhabited

/-- A grading report. -/
structure Report where
  logFile : List Nat
  records : Nat
  visionRecords : Nat
  rejectedRecords : Nat
  duplicateCommands : Nat
  humanToAutoDelay : Int
  autoToHumanDelay : Int
  flushTrailing : Bool
  sources : List SourceSummary
  autorefs : List AutorefResult
  deriving Inhabited

namespace Report

/-- The lines of a score, each behind `pad`. -/
def scoreLines (pad : String) (score : Score) : List String :=
  let tally := score.tally
  [s!"{pad}True Positives: {tally.truePositives}",
   s!"{pad}False Positives: {tally.falsePositives}",
   s!"{pad}False Negatives: {tally.falseNegatives}",
   s!"{pad}Ignored: {tally.ignored}",
   pad ++ "Precision: " ++ Score.ratioText score.precision,
   pad ++ "Recall: " ++ Score.ratioText score.recall,
   pad ++ "F1 Score: " ++ Score.ratioText score.f1]

def sourceLine (source : SourceSummary) : String :=
  let role := if source.index = 0 then "human" else "autoref"
  s!"Referee {source.port} ({role}): {source.commands} commands, {source.events} events"

/-- The lines of an automatic referee's result. -/
def resultLines (byCommand : Bool) (result : AutorefResult) : List String :=
  let annotated := if result.correctionsLoaded then " (annotated)" else ""
  let head := s!"Autoref {result.port}{annotated}:"
  let perCommand := if byCommand then
      result.byCommand.flatMap fun (name, score) => s!"  {name}:" :: scoreLines "    " score
    else []
  head :: scoreLines "  " result.score ++ perCommand

/-- The text of a report, with per command scores when `byCommand` is set, as code points. -/
def text (report : Report) (byCommand : Bool) : List Nat :=
  Text.pointsOf "Log file " ++ report.logFile ++ Text.pointsOf (String.join
    ((report.sources.map sourceLine ++ report.autorefs.flatMap (resultLines byCommand)).map
      ("\n" ++ ·)))

def ratioJson : Option Float → Json
  | some value => .float value
  | none => .null

def scoreJson (score : Score) : Json :=
  .obj [("tp", .int score.tally.truePositives), ("fp", .int score.tally.falsePositives),
    ("fn", .int score.tally.falseNegatives), ("ignored", .int score.tally.ignored),
    ("precision", ratioJson score.precision), ("recall", ratioJson score.recall),
    ("f1", ratioJson score.f1)]

def toJson (report : Report) : Json :=
  .obj [("log_file", .str report.logFile), ("records", .int report.records),
    ("vision_records", .int report.visionRecords),
    ("rejected_records", .int report.rejectedRecords),
    ("duplicate_commands", .int report.duplicateCommands),
    ("config", .obj [("human_to_auto_delay_us", .int report.humanToAutoDelay),
      ("auto_to_human_delay_us", .int report.autoToHumanDelay),
      ("flush_trailing_human_events", .bool report.flushTrailing)]),
    ("sources", .arr (report.sources.map fun source => .obj [("index", .int source.index),
      ("port", .int source.port), ("commands", .int source.commands),
      ("events", .int source.events), ("is_reference", .bool (source.index = 0))])),
    ("autorefs", .arr (report.autorefs.map fun result => .obj [("index", .int result.index),
      ("port", .int result.port), ("evaluations", .int result.evaluations),
      ("corrections_loaded", .bool result.correctionsLoaded),
      ("correction_file", .str result.correctionFile), ("metrics", scoreJson result.score),
      ("by_command", .obj (result.byCommand.map fun (name, score) => (name, scoreJson score)))]))]

end Report

end RefereeGrading
