import RefereeGrading.Alignment
import RefereeGrading.Ingest
import RefereeGrading.Sheet
import RefereeGrading.Report

/-!
# Grading runs

A grading run reads a capture log, ingests it, and grades every automatic referee stream
against the human stream 0: it aligns their events, merges the judgements with the correction
sheet beside the log, and scores them. The run stops for a missing or cut log, a human stream
without events, a path that names no file, or a sheet number too long to read; warnings are
kept in order. The run works on any `Workspace`.
-/

namespace RefereeGrading

/-- Why a grading run stopped. -/
inductive GradingError where
  | missingLog (path : List Nat)
  | logFormat (problem : LogFormatError)
  | noReferenceEvents (path : List Nat)
  | badSheetPath (problem : String)
  | unscorable (problem : ScoreError)
  | digitOverflow (problem : Text.DigitOverflow)
  | unencodablePath (run : Text.SurrogateRun)
  | embeddedNull
  deriving Repr

/-- The text of a grading error, as code points: the log's path is text that may hold escaped
bytes, and it stands in the text as it is. -/
def GradingError.message : GradingError → List Nat
  | .missingLog path => Text.pointsOf (missingFileMessage path)
  | .logFormat problem => Text.pointsOf problem.message
  | .noReferenceEvents path => Text.pointsOf "no human referee events found in " ++ path
  | .badSheetPath problem => Text.pointsOf problem
  | .unscorable problem => Text.pointsOf problem.message
  | .digitOverflow problem => Text.pointsOf problem.message
  | .unencodablePath run => Text.pointsOf (EncodeError.unencodable run).message
  | .embeddedNull => Text.pointsOf "embedded null byte"

/-- Whether a grading error is one of the expected failures of a run: a missing or broken log,
or a log without human events. The others are faults of the run itself. -/
def GradingError.isExpected : GradingError → Bool
  | .missingLog _ | .logFormat _ | .noReferenceEvents _ => true
  | _ => false

/-- What a grading run gives: a report or the reason it stopped, and the warnings, as code
points since a warning may name a sheet's path. -/
structure GradingOutcome where
  result : Except GradingError Report
  warnings : List (List Nat)
  deriving Inhabited

namespace Grading

variable {m : Type → Type} [Monad m] [Workspace m]

/-- The name of the file at a path text: the bytes it is opened under, or why it cannot be
opened, a surrogate that stands for no byte coming before a null character. -/
def fileNameOf (path : List Nat) : Except GradingError (List UInt8) :=
  match Text.encodeFileName path with
  | .error run => .error (.unencodablePath run)
  | .ok bytes => if bytes.contains 0 then .error .embeddedNull else .ok bytes

/-- Grades the automatic streams from index `index` on against the human events, merging
each with its correction sheet. -/
def gradeFrom (settings : Settings) (flushTrailing : Bool) (logPath : List Nat)
    (human : List Event) (index : Nat) :
    List CommandStream → List (List Event) →
      m (Except GradingError (List AutorefResult) × List (List Nat))
  | stream :: streams, calls :: later => do
    let tolerance : Tolerance :=
      { humanToAuto := settings.humanToAutoDelay, autoToHuman := settings.autoToHumanDelay }
    let fresh := align tolerance flushTrailing human calls
    match Sheet.pathFor logPath index settings.correctionSuffix Settings.ambient.correctionSuffix with
    | .error problem => return (.error (.badSheetPath problem), [])
    | .ok written =>
      let opened := (PathName.ofPoints written).toPoints
      match fileNameOf opened with
      | .error problem => return (.error problem, [])
      | .ok name =>
        match Sheet.merge opened (← Workspace.readFile? name) fresh with
        | .error problem => return (.error (.digitOverflow problem), [])
        | .ok merged =>
          if let some text := merged.written then
            Workspace.writeFile name (Text.encode text)
          let warnings := merged.warning.toList
          match Score.ofJudgements merged.judgements, Score.byCommand merged.judgements with
          | .ok score, .ok byCommand =>
            let result : AutorefResult :=
              { index, port := stream.port, evaluations := merged.judgements.length,
                correctionsLoaded := merged.loaded, correctionFile := written, score, byCommand }
            let (rest, more) ←
              gradeFrom settings flushTrailing logPath human (index + 1) streams later
            return (rest.map (result :: ·), warnings ++ more)
          | .error problem, _ => return (.error (.unscorable problem), warnings)
          | _, .error problem => return (.error (.unscorable problem), warnings)
  | _, _ => return (.ok [], [])

/-- Grades every automatic referee of the log at `logPath`, a path text; `flush` overrides
whether trailing human events count as missed. -/
def run (pb : Protobuf) (settings : Settings) (flush : Option Bool) (logPath : List Nat) : m GradingOutcome := do
  let logFile := (PathName.ofPoints logPath).toPoints
  let flushTrailing := flush.getD settings.flushTrailing
  match fileNameOf logFile with
  | .error problem => return { result := .error problem, warnings := [] }
  | .ok name =>
  match ← Workspace.readFile? name with
  | none => return { result := .error (.missingLog logFile), warnings := [] }
  | some bytes =>
    let reading := Log.read pb bytes
    let readWarnings := reading.warnings.map Text.pointsOf
    match reading.failure with
    | some problem => return { result := .error (.logFormat problem), warnings := readWarnings }
    | none =>
      let ingest := Ingest.run pb settings reading.datagrams
      let events := ingest.events
      let warnings := readWarnings ++ ingest.warnings.map Text.pointsOf
      let sources := (ingest.streams.zip events).zipIdx.map fun ((stream, found), index) =>
        { index, port := stream.port, commands := stream.commands.length, events := found.length }
      match events with
      | human :: autos =>
        if human.isEmpty then
          return { result := .error (.noReferenceEvents logFile), warnings }
        else
          let (graded, more) ←
            gradeFrom settings flushTrailing logPath human 1 ingest.streams.tail autos
          let result := graded.map fun autorefs =>
            { logFile, records := ingest.records, visionRecords := ingest.visionRecords,
              rejectedRecords := ingest.rejected, duplicateCommands := ingest.duplicates,
              humanToAutoDelay := settings.humanToAutoDelay,
              autoToHumanDelay := settings.autoToHumanDelay, flushTrailing, sources, autorefs }
          return { result, warnings := warnings ++ more }
      | [] => return { result := .error (.noReferenceEvents logFile), warnings }

end Grading

end RefereeGrading
