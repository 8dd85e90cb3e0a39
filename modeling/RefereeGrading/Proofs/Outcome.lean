import RefereeGrading.Proofs.Discovery
import RefereeGrading.Proofs.Framing
import RefereeGrading.Proofs.Sources

/-!
# What a grading run does

A run on a log that exists stops for a log that does not read whole or a referee box that made
no call, writing nothing; otherwise it grades every automatic source and reports, unless a
sheet holds a field too long to read. A report scores each source by the fresh alignment of its
events, reflagged by its sheet.
-/

namespace RefereeGrading

namespace Ingest

theorem events_ne_nil (pb : Protobuf) (settings : Settings) (datagrams : List Datagram) :
    (run pb settings datagrams).events ≠ [] := by
  intro empty
  have noStreams : (run pb settings datagrams).streams = [] := List.map_eq_nil_iff.1 empty
  have discovered : Discovered pb settings datagrams (run pb settings datagrams) :=
    run_discovered datagrams
  have known := discovered.ports
  rw [List.eraseDups_cons, Ingest.ports, noStreams] at known
  cases known

theorem getD_events_wellformed (pb : Protobuf) (settings : Settings) (datagrams : List Datagram) (index : Nat) :
    ∀ event ∈ (run pb settings datagrams).events.getD index [], event.Wellformed := by
  have wellformed := events_wellformed (run_wellformed pb settings datagrams)
  rw [List.getD_eq_getElem?_getD]
  cases found : (run pb settings datagrams).events[index]? with
  | none =>
      intro event member
      cases member
  | some events =>
      exact (wellformed events (List.mem_of_getElem? found)).2

theorem headD_events_wellformed (pb : Protobuf) (settings : Settings) (datagrams : List Datagram) :
    ∀ event ∈ (run pb settings datagrams).events.headD [], event.Wellformed := by
  have first := getD_events_wellformed pb settings datagrams 0
  cases extracted : (run pb settings datagrams).events with
  | nil =>
      intro event member
      cases member
  | cons human autos =>
      rw [extracted] at first
      exact first

end Ingest

namespace Grading

/-! ## Fresh judgements of ingested events -/

theorem freshJudgements_wellformed {settings : Settings} {flushTrailing : Bool}
    {human calls : List Event} (humanOk : ∀ event ∈ human, event.Wellformed)
    (callsOk : ∀ event ∈ calls, event.Wellformed) :
    ∀ judgement ∈ freshJudgements settings flushTrailing human calls,
      Sheet.Faithful judgement ∧ judgement.verdict ≠ .unclassified ∧
        judgement.ignore = false := by
  intro judgement member
  have writable : ∀ call ∈ judgement.calls, Sheet.Writable call := by
    intro call carried
    rcases mem_of_mem_calls_align _ flushTrailing member carried with fromHuman | fromCalls
    · exact (humanOk call fromHuman).legible.1
    · exact (callsOk call fromCalls).legible.1
  refine ⟨Sheet.faithful_of_writable writable, ?_⟩
  cases aligned_of_mem_align _ flushTrailing member <;> simp

/-! ## What grading leaves of one source -/

/-- What grading left of a source's sheet: the sheet the folder held, loaded against the fresh
judgements and left as it was, or the fresh judgements written as a new sheet. -/
def SheetSettled (folder final : Folder) (result : AutorefResult) (sheet : List UInt8)
    (fresh : List Judgement) : Prop :=
  (result.correctionsLoaded = true ∧ ∃ bytes loaded, folder.read? sheet = some bytes ∧
      Sheet.load (PathName.ofPoints result.correctionFile).toPoints bytes fresh = .ok loaded ∧
      final.read? sheet = some bytes) ∨
    (result.correctionsLoaded = false ∧
      final.read? sheet = some (Text.encode (Sheet.render fresh)))

/-- How a result scores the fresh judgements of its source: it scores them reflagged, by the
sheet the folder held when it says corrections were loaded and not at all otherwise, so its
tally counts each judgement once, and each verdict's count is the fresh one less the judgements
of that verdict the flags ignore. -/
def ScoredByReflagging (settings : Settings) (logPath : List Nat) (folder : Folder)
    (fresh : List Judgement) (result : AutorefResult) : Prop :=
  let tally := result.score.tally
  tally.truePositives + tally.falsePositives + tally.falseNegatives + tally.ignored =
      result.evaluations ∧
    result.evaluations = fresh.length ∧
    ∃ scored, Sheet.Reflagged fresh scored ∧
      Score.ofJudgements scored = .ok result.score ∧
      Score.byCommand scored = .ok result.byCommand ∧
      tally.truePositives + ignoredCount .truePositive scored =
        verdictCount .truePositive fresh ∧
      tally.falsePositives + ignoredCount .falsePositive scored =
        verdictCount .falsePositive fresh ∧
      tally.falseNegatives + ignoredCount .falseNegative scored =
        verdictCount .falseNegative fresh ∧
      tally.ignored = scored.countP (·.ignore) ∧
      (result.correctionsLoaded = true → ∃ sheet bytes, SheetName settings logPath result.index sheet ∧
        folder.read? sheet = some bytes ∧
        Sheet.load (PathName.ofPoints result.correctionFile).toPoints bytes fresh = .ok scored) ∧
      (result.correctionsLoaded = false → scored = fresh ∧ tally.ignored = 0)

section Graded

variable {settings : Settings} {flushTrailing : Bool} {logPath : List Nat} {human : List Event}
  {folder final : Folder} {calls : List Event} {result : AutorefResult}

theorem Graded.settled
    (graded : Graded settings flushTrailing logPath human folder final calls result) :
    ∃ sheet, SheetName settings logPath result.index sheet ∧
      SheetSettled folder final result sheet (freshJudgements settings flushTrailing human calls) := by
  obtain ⟨name, merged, path, opened, merging, -, -, -, loaded, left⟩ := graded
  refine ⟨name, ⟨_, path, opened⟩, ?_⟩
  rcases Sheet.merge_eq_ok merging with ⟨taken, untouched, bytes, held, loading⟩ |
    ⟨notTaken, written, -⟩
  · refine .inl ⟨loaded.trans taken, bytes, merged.judgements, held, loading, ?_⟩
    rw [left, untouched, held]
    rfl
  · refine .inr ⟨loaded.trans notTaken, ?_⟩
    rw [left, written]
    rfl

theorem Graded.scored
    (graded : Graded settings flushTrailing logPath human folder final calls result)
    (judged : ∀ judgement ∈ freshJudgements settings flushTrailing human calls,
      Sheet.Faithful judgement ∧ judgement.verdict ≠ .unclassified ∧ judgement.ignore = false) :
    ScoredByReflagging settings logPath folder (freshJudgements settings flushTrailing human calls)
      result := by
  obtain ⟨name, merged, path, opened, merging, scoring, slicing, counted, loaded, -⟩ := graded
  have reflagged := Sheet.merge_reflagged (fun judgement member => (judged judgement member).1)
    merging
  obtain ⟨truePositives, falsePositives, falseNegatives, ignored, total⟩ :=
    tally_of_reflagged reflagged (fun judgement member => (judged judgement member).2.1) scoring
  refine ⟨by rw [counted]; exact total, by rw [counted, reflagged.length_eq], merged.judgements,
    reflagged, scoring, slicing, truePositives, falsePositives, falseNegatives, ignored, ?_, ?_⟩
  · intro taken
    rcases Sheet.merge_eq_ok merging with ⟨-, -, bytes, held, loading⟩ | ⟨notTaken, -, -⟩
    · exact ⟨name, bytes, ⟨_, path, opened⟩, held, loading⟩
    · rw [loaded, notTaken] at taken
      cases taken
  · intro notTaken
    rcases Sheet.merge_eq_ok merging with ⟨taken, -, -⟩ | ⟨-, -, same⟩
    · rw [loaded, taken] at notTaken
      cases notTaken
    · -- a written sheet leaves the fresh judgements, none of them ignored
      refine ⟨same, ?_⟩
      rw [ignored, same]
      exact List.countP_eq_zero.2 fun judgement member => by simp [(judged judgement member).2.2]

end Graded

/-! ## Whole runs -/

/-- What a run may do with a log that exists and holds `bytes`, from `folder` to `final`: stop
with the log's format error when it is not a run of complete records, or for want of human
events when the referee box made no call, in both cases writing nothing; and otherwise report,
every automatic source's sheet settled, or stop at a sheet held before the run that reading
cannot take. -/
def Outcome (pb : Protobuf) (settings : Settings) (flush : Option Bool) (logPath : List Nat) (folder : Folder)
    (bytes : List UInt8) (outcome : GradingOutcome) (final : Folder) : Prop :=
  let events := (Ingest.run pb settings (Log.read pb bytes).datagrams).events
  (¬Log.Framed bytes ∧ (∃ problem, outcome.result = .error (.logFormat problem)) ∧
      final = folder) ∨
    (Log.Framed bytes ∧ events.headD [] = [] ∧
      outcome.result = .error (.noReferenceEvents (PathName.ofPoints logPath).toPoints) ∧
      final = folder) ∨
    (Log.Framed bytes ∧ events.headD [] ≠ [] ∧
      ((∃ report, outcome.result = .ok report ∧
          report.autorefs.map (·.index) = List.range' 1 (events.length - 1) ∧
          ∀ result ∈ report.autorefs, ∃ sheet, SheetName settings logPath result.index sheet ∧
            SheetSettled folder final result sheet
              (freshJudgements settings (flush.getD settings.flushTrailing) (events.headD [])
                (events.getD result.index []))) ∨
        ∃ problem, outcome.result = .error (.digitOverflow problem) ∧
          ∃ index sheet sheetBytes, 1 ≤ index ∧ SheetName settings logPath index sheet ∧
            folder.read? sheet = some sheetBytes ∧ Sheet.Overlong sheetBytes))

section Runs

variable {pb : Protobuf} {settings : Settings} {flush : Option Bool} {logPath : List Nat} {folder : Folder}
  {name bytes : List UInt8} {outcome : GradingOutcome} {final : Folder}

theorem run_of_broken {problem : LogFormatError}
    (opened : fileNameOf (PathName.ofPoints logPath).toPoints = .ok name)
    (found : folder.read? name = some bytes) (broken : (Log.read pb bytes).failure = some problem)
    (ran : (@run (StateM Folder) _ _ pb settings flush logPath).run folder = (outcome, final)) :
    outcome.result = .error (.logFormat problem) ∧ final = folder := by
  simp only [run, opened] at ran
  simp [Workspace.readFile?, found, broken] at ran
  obtain ⟨rfl, rfl⟩ := ran
  exact ⟨rfl, rfl⟩

theorem run_of_silent (opened : fileNameOf (PathName.ofPoints logPath).toPoints = .ok name)
    (found : folder.read? name = some bytes) (framed : (Log.read pb bytes).failure = none)
    (silent : (Ingest.run pb settings (Log.read pb bytes).datagrams).events.headD [] = [])
    (ran : (@run (StateM Folder) _ _ pb settings flush logPath).run folder = (outcome, final)) :
    outcome.result = .error (.noReferenceEvents (PathName.ofPoints logPath).toPoints) ∧
      final = folder := by
  cases extracted : (Ingest.run pb settings (Log.read pb bytes).datagrams).events with
  | nil =>
      simp only [run, opened] at ran
      simp [Workspace.readFile?, found, framed, extracted] at ran
      obtain ⟨rfl, rfl⟩ := ran
      exact ⟨rfl, rfl⟩
  | cons human autos =>
      rw [extracted, List.headD_cons] at silent
      subst silent
      simp only [run, opened] at ran
      simp [Workspace.readFile?, found, framed, extracted] at ran
      obtain ⟨rfl, rfl⟩ := ran
      exact ⟨rfl, rfl⟩

/-- A run that reports graded every automatic source, in order of index, from the folder as it
was: source `i` against the `i`-th events of the log, with the referee box's as the human
ones. -/
theorem run_graded {report : Report}
    (opened : fileNameOf (PathName.ofPoints logPath).toPoints = .ok name)
    (found : folder.read? name = some bytes)
    (ran : (@run (StateM Folder) _ _ pb settings flush logPath).run folder = (outcome, final))
    (succeeded : outcome.result = .ok report) :
    let events := (Ingest.run pb settings (Log.read pb bytes).datagrams).events
    report.autorefs.map (·.index) = List.range' 1 (events.length - 1) ∧
      ∀ result ∈ report.autorefs, Graded settings (flush.getD settings.flushTrailing) logPath
        (events.headD []) folder final (events.getD result.index []) result := by
  obtain ⟨logName, logBytes, human, autos, autorefs, more, logOpened, logFound, framed, extracted,
    heard, graded⟩ := run_eq_ok ran succeeded
  obtain rfl : name = logName := Except.ok.inj (opened.symm.trans logOpened)
  obtain rfl : bytes = logBytes := Option.some.inj (found.symm.trans logFound)
  have reported : report.autorefs = autorefs := by
    rw [run_run_of_heard opened found framed extracted heard] at ran
    dsimp only at ran
    rw [graded] at ran
    cases ran
    cases succeeded
    rfl
  obtain ⟨counted, each⟩ := gradeFrom_graded graded
  have sameLength :
      (Ingest.run pb settings (Log.read pb bytes).datagrams).streams.tail.length = autos.length := by
    have lengths := congrArg List.length extracted
    simp only [Ingest.events, List.length_map, List.length_cons] at lengths
    simp only [List.length_tail]
    omega
  intro events
  refine ⟨?_, ?_⟩
  · rw [reported, gradeFrom_indices graded, counted, sameLength]
    simp [events, extracted]
  · intro result member
    rw [reported] at member
    obtain ⟨position, found⟩ := List.mem_iff_getElem?.1 member
    obtain ⟨indexed, calls, callsFound, sourceGraded⟩ := each position result found
    have sourceEvents : events.getD result.index [] = calls := by
      simp [events, extracted, indexed, Nat.add_comm 1 position, callsFound]
    have humanEvents : events.headD [] = human := by
      simp [events, extracted]
    rw [sourceEvents, humanEvents]
    exact sourceGraded

/-- A run on a log that exists either stops for a broken log or a silent referee box, writing
nothing, or grades every automatic source, unless a sheet the folder held has a field too long
to read. Nothing else stops it, when the log's path has a name and the suffix is one component
that a file name can hold. -/
theorem run_fails_only_for_broken_log_silent_box_or_overlong_sheet
    (opened : fileNameOf (PathName.ofPoints logPath).toPoints = .ok name)
    (found : folder.read? name = some bytes)
    (named : (PathName.ofPoints logPath).name ≠ [])
    (suffixPlain : PathName.slash ∉ settings.correctionSuffix)
    (suffixOpens : ∃ suffixName, fileNameOf settings.correctionSuffix = .ok suffixName)
    (ran : (@run (StateM Folder) _ _ pb settings flush logPath).run folder = (outcome, final)) :
    Outcome pb settings flush logPath folder bytes outcome final := by
  unfold Outcome
  intro events
  cases framed : (Log.read pb bytes).failure with
  | some problem =>
      have broken : ¬Log.Framed bytes := fun whole => by
        rw [(Log.read_failure_eq_none_iff pb bytes).2 whole] at framed
        cases framed
      obtain ⟨failed, kept⟩ := run_of_broken opened found framed ran
      exact .inl ⟨broken, ⟨problem, failed⟩, kept⟩
  | none =>
  have whole := (Log.read_failure_eq_none_iff pb bytes).1 framed
  by_cases silent : events.headD [] = []
  · -- a log whose referee box made no call
    obtain ⟨failed, kept⟩ := run_of_silent opened found framed silent ran
    exact .inr (.inl ⟨whole, silent, failed, kept⟩)
  obtain ⟨human, autos, extracted⟩ :=
    List.exists_cons_of_ne_nil (Ingest.events_ne_nil pb settings (Log.read pb bytes).datagrams)
  have heard : human.isEmpty = false := by
    simpa [events, extracted] using silent
  refine .inr (.inr ⟨whole, silent, ?_⟩)
  have judged : ∀ calls ∈ autos, ∀ judgement ∈ freshJudgements settings
      (flush.getD settings.flushTrailing) human calls,
      Sheet.Faithful judgement ∧ judgement.verdict ≠ .unclassified := by
    have wellformed := Ingest.events_wellformed
      (Ingest.run_wellformed pb settings (Log.read pb bytes).datagrams)
    rw [extracted] at wellformed
    intro calls member judgement judgementMember
    have facts := freshJudgements_wellformed (wellformed human List.mem_cons_self).2
      (wellformed calls (List.mem_cons_of_mem human member)).2 judgement judgementMember
    exact ⟨facts.1, facts.2.1⟩
  have sheetsNamed : ∀ sheet, 1 ≤ sheet → ∃ sheetName, SheetName settings logPath sheet sheetName :=
    fun sheet _ => sheetName_exists settings named opened suffixPlain suffixOpens sheet
  have graded : (@run (StateM Folder) _ _ pb settings flush logPath).run folder = _ :=
    run_run_of_heard opened found framed extracted heard
  rw [ran] at graded
  dsimp only at graded
  generalize gradedRun : (@gradeFrom (StateM Folder) _ _ settings (flush.getD settings.flushTrailing)
    logPath human 1 (Ingest.run pb settings (Log.read pb bytes).datagrams).streams.tail autos).run
      folder = next at graded
  obtain ⟨⟨gradedOutcome, more⟩, after⟩ := next
  obtain ⟨rfl, rfl⟩ := graded
  rcases gradeFrom_ok_or_overflow sheetsNamed judged gradedRun with ⟨results, succeeded⟩ |
    ⟨problem, failed, index, sheet, sheetBytes, beyond, sheetName, held, overlong⟩
  · -- every source graded: the run reports, each sheet settled
    simp only at succeeded
    subst succeeded
    obtain ⟨indices, each⟩ := run_graded opened found ran rfl
    exact .inl ⟨_, rfl, indices, fun result member => (each result member).settled⟩
  · -- a sheet that reading cannot take
    simp only at failed
    subst failed
    exact .inr ⟨problem, rfl, index, sheet, sheetBytes, beyond, sheetName, held, overlong⟩

/-- A report scores every automatic source by the fresh alignment of its events with the human
ones, reflagged by the sheet the folder held, if it was loaded. -/
theorem report_scores_alignment_reflagged_by_sheet {report : Report}
    (opened : fileNameOf (PathName.ofPoints logPath).toPoints = .ok name)
    (found : folder.read? name = some bytes)
    (ran : (@run (StateM Folder) _ _ pb settings flush logPath).run folder = (outcome, final))
    (succeeded : outcome.result = .ok report) :
    let events := (Ingest.run pb settings (Log.read pb bytes).datagrams).events
    ∀ result ∈ report.autorefs, ScoredByReflagging settings logPath folder
      (freshJudgements settings (flush.getD settings.flushTrailing) (events.headD [])
        (events.getD result.index [])) result := by
  intro events result member
  obtain ⟨-, each⟩ := run_graded opened found ran succeeded
  exact (each result member).scored (freshJudgements_wellformed
    (Ingest.headD_events_wellformed pb settings _)
    (Ingest.getD_events_wellformed pb settings _ result.index))

end Runs

/-! ## A log with one call each -/

/-- The log of `oneCallFolder`. -/
def oneCallLog : List UInt8 :=
  (Log.write Wire.proto2 [callDatagram 10003, callDatagram 10010]).toOption.getD []

theorem run_one_call_outcome :
    let ran := (@run (StateM Folder) _ _ Wire.proto2 {} none [0x61]).run oneCallFolder
    Outcome Wire.proto2 {} none [0x61] oneCallFolder oneCallLog ran.1 ran.2 :=
  run_fails_only_for_broken_log_silent_box_or_overlong_sheet (by rfl) (by rfl) (by decide)
    (by decide) ⟨_, rfl⟩ rfl

theorem report_one_call_scored :
    let ran := (@run (StateM Folder) _ _ Wire.proto2 {} none [0x61]).run oneCallFolder
    let report := ran.1.result.toOption.getD default
    let events := (Ingest.run Wire.proto2 {} (Log.read Wire.proto2 oneCallLog).datagrams).events
    ran.1.result = .ok report ∧
      ∀ result ∈ report.autorefs, ScoredByReflagging {} [0x61] oneCallFolder
        (freshJudgements {} (none.getD ({} : Settings).flushTrailing) (events.headD [])
          (events.getD result.index [])) result := by
  intro ran report events
  have succeeded : ran.1.result = .ok report := by
    have graded : ran.1.result.toBool = true := by decide +kernel
    cases result : ran.1.result with
    | error problem =>
        rw [result] at graded
        cases graded
    | ok graded =>
        simp only [report, result, Except.toOption, Option.getD_some]
  exact ⟨succeeded, report_scores_alignment_reflagged_by_sheet (by rfl) (by rfl) rfl succeeded⟩

end Grading

end RefereeGrading
