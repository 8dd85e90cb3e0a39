import RefereeGrading.Proofs.Alignment
import RefereeGrading.Proofs.Folder
import RefereeGrading.Proofs.Ingest
import RefereeGrading.Wire.Proto2

/-!
# Grading a log twice

A second run on the same log reads back every sheet the first left and gives the same report,
with every correction loaded, writing nothing. The sheets a run writes are legible, a merge
with what a merge left reads it back, and each source's sheet has a file of its own.
-/

namespace RefereeGrading

/-! ## The judgements a run writes -/

theorem Event.Wellformed.legible {event : Event} (wellformed : event.Wellformed) :
    Sheet.Legible event := by
  have codeRange : 8 ≤ event.code ∧ event.code ≤ 15 := by
    have call := wellformed.call
    simp only [isCall, Bool.or_eq_true, decide_eq_true_eq] at call
    omega
  have wide : (2 : Int) ^ 64 ≤ 10 ^ Text.digitLimit := by
    have natWide : 2 ^ 64 ≤ 10 ^ Text.digitLimit :=
      calc 2 ^ 64 ≤ 10 ^ 64 := Nat.pow_le_pow_left (by decide) 64
        _ ≤ 10 ^ Text.digitLimit := Nat.pow_le_pow_right (by decide) (by decide)
    have cast := Int.ofNat_le.2 natWide
    rwa [Int.natCast_pow, Int.natCast_pow] at cast
  have counterWide : (2 : Int) ^ 32 < 2 ^ 64 := Int.pow_lt_pow_of_lt (by decide) (by decide)
  refine ⟨⟨?_, ?_⟩, ?_⟩
  · simp only [Sheet.callFields, List.mem_cons, List.not_mem_nil, or_false]
    rintro field (rfl | rfl | rfl | rfl)
    · exact wellformed.stoppedNonneg
    · exact wellformed.issuedNonneg
    · exact wellformed.counterNonneg
    · omega
  · intro allZero
    simp only [Sheet.callFields, List.cons.injEq] at allZero
    omega
  · simp only [Sheet.callFields, List.mem_cons, List.not_mem_nil, or_false]
    have below := wellformed.stoppedBelow
    have issuedBelow := wellformed.issuedBelow
    have counterBelow := wellformed.counterBelow
    rintro field (rfl | rfl | rfl | rfl) <;> omega

section Alignment

variable (tolerance : Tolerance) (flushTrailing : Bool)

theorem mem_of_mem_calls_align {humans calls : List Event} {judgement : Judgement} {call : Event}
    (member : judgement ∈ align tolerance flushTrailing humans calls)
    (carried : call ∈ judgement.calls) : call ∈ humans ∨ call ∈ calls := by
  simp only [Judgement.calls, List.mem_append, Option.mem_toList] at carried
  rcases carried with automatic | human
  · right
    rw [← automaticCalls_align tolerance flushTrailing humans calls]
    exact List.mem_filterMap.2 ⟨judgement, member, automatic⟩
  · left
    exact (humanCalls_align_sublist tolerance flushTrailing humans calls).subset
      (List.mem_filterMap.2 ⟨judgement, member, human⟩)

theorem length_align_le (humans calls : List Event) :
    (align tolerance flushTrailing humans calls).length ≤ humans.length + calls.length := by
  have carrying : ∀ judgements : List Judgement,
      (∀ judgement ∈ judgements, judgement.automatic.isSome ∨ judgement.human.isSome) →
        judgements.length ≤ (automaticCalls judgements).length + (humanCalls judgements).length := by
    intro judgements carries
    induction judgements with
    | nil =>
        simp
    | cons judgement rest inductionHypothesis =>
        have restBound := inductionHypothesis fun other member =>
          carries other (List.mem_cons_of_mem judgement member)
        rcases carries judgement List.mem_cons_self with automatic | human
        · obtain ⟨call, isCall⟩ := Option.isSome_iff_exists.1 automatic
          cases humanCall : judgement.human <;>
            simp [automaticCalls, humanCalls, isCall, humanCall] at restBound ⊢ <;> omega
        · obtain ⟨call, isCall⟩ := Option.isSome_iff_exists.1 human
          cases automaticCall : judgement.automatic <;>
            simp [automaticCalls, humanCalls, isCall, automaticCall] at restBound ⊢ <;> omega
  have carries : ∀ judgement ∈ align tolerance flushTrailing humans calls,
      judgement.automatic.isSome ∨ judgement.human.isSome := by
    intro judgement member
    cases aligned_of_mem_align tolerance flushTrailing member <;> simp
  have counted := carrying _ carries
  have reported := (humanCalls_align_sublist tolerance flushTrailing humans calls).length_le
  rw [automaticCalls_align] at counted
  omega

theorem align_legible {humans calls : List Event}
    (humansOk : humans.length ≤ 2 ^ 32 ∧ ∀ event ∈ humans, event.Wellformed)
    (callsOk : calls.length ≤ 2 ^ 32 ∧ ∀ event ∈ calls, event.Wellformed) :
    (∀ judgement ∈ align tolerance flushTrailing humans calls,
      ∀ call ∈ judgement.calls, Sheet.Legible call) ∧
    (align tolerance flushTrailing humans calls).length ≤ 10 ^ Text.digitLimit := by
  refine ⟨fun judgement member call carried => ?_, ?_⟩
  · rcases mem_of_mem_calls_align tolerance flushTrailing member carried with human | automatic
    · exact (humansOk.2 call human).legible
    · exact (callsOk.2 call automatic).legible
  · have few := length_align_le tolerance flushTrailing humans calls
    have wide : 2 ^ 32 + 2 ^ 32 ≤ 10 ^ Text.digitLimit :=
      calc 2 ^ 32 + 2 ^ 32 = 2 ^ 33 := by decide
        _ ≤ 10 ^ 33 := Nat.pow_le_pow_left (by decide) 33
        _ ≤ 10 ^ Text.digitLimit := Nat.pow_le_pow_right (by decide) (by decide)
    omega

end Alignment

/-! ## Merging again -/

/-- Merging again with what a merge left reads that sheet back: the same judgements, loaded,
with nothing to write and no warning. A merge either takes the sheet there, which is still
there, or writes the fresh judgements, which read back as themselves. -/
theorem Sheet.merge_again {path : List Nat} {existing : Option (List UInt8)}
    {fresh : List Judgement} {merged : Sheet.Merge}
    (legible : ∀ judgement ∈ fresh, ∀ call ∈ judgement.calls, Sheet.Legible call)
    (indexed : fresh.length ≤ 10 ^ Text.digitLimit)
    (merging : Sheet.merge path existing fresh = .ok merged) :
    Sheet.merge path (merged.written.elim existing fun text => some (Text.encode text)) fresh =
      .ok { merged with loaded := true, written := none, warning := none } := by
  have freshBack : Sheet.merge path (some (Text.encode (Sheet.render fresh))) fresh =
      .ok { judgements := fresh, loaded := true, written := none, warning := none } := by
    simp only [Sheet.merge,
      Sheet.load_render path fresh fresh legible indexed (List.forall₂_same.2 fun _ _ => rfl)]
  unfold Sheet.merge at merging
  cases existing with
  | none =>
      cases merging
      exact freshBack
  | some bytes =>
      dsimp only at merging
      cases loading : Sheet.load path bytes fresh with
      | ok loaded =>
          rw [loading] at merging
          cases merging
          simp [Sheet.merge, loading]
      | error fault =>
          cases fault with
          | refused problem =>
              rw [loading] at merging
              cases merging
              exact freshBack
          | overflow problem =>
              rw [loading] at merging
              cases merging

/-! ## One source at a time -/

namespace Grading

section Sources

variable (settings : Settings) (flushTrailing : Bool) (logPath : List Nat) (human : List Event)

/-- The name under which grading files the correction sheet of source `index`. -/
def SheetName (index : Nat) (name : List UInt8) : Prop :=
  ∃ written, Sheet.pathFor logPath index settings.correctionSuffix Settings.ambient.correctionSuffix =
    .ok written ∧ fileNameOf (PathName.ofPoints written).toPoints = .ok name

theorem gradeFrom_run_of_exhausted {index : Nat} {streams : List CommandStream}
    {later : List (List Event)} {folder : Folder} (exhausted : streams = [] ∨ later = []) :
    (@gradeFrom (StateM Folder) _ _ settings flushTrailing logPath human index streams later).run
      folder = ((.ok [], []), folder) := by
  rcases exhausted with rfl | rfl
  · rfl
  · cases streams <;> rfl

theorem gradeFrom_cons_run {index : Nat} {stream : CommandStream} {streams : List CommandStream}
    {calls : List Event} {later : List (List Event)} {folder : Folder}
    {written : List Nat} {name : List UInt8} {merged : Sheet.Merge} {score : Score}
    {byCommand : List (String × Score)}
    (path : Sheet.pathFor logPath index settings.correctionSuffix Settings.ambient.correctionSuffix =
      .ok written)
    (opened : fileNameOf (PathName.ofPoints written).toPoints = .ok name)
    (merging : Sheet.merge (PathName.ofPoints written).toPoints (folder.read? name)
      (align { humanToAuto := settings.humanToAutoDelay, autoToHuman := settings.autoToHumanDelay }
        flushTrailing human calls) = .ok merged)
    (scored : Score.ofJudgements merged.judgements = .ok score)
    (sliced : Score.byCommand merged.judgements = .ok byCommand) :
    (@gradeFrom (StateM Folder) _ _ settings flushTrailing logPath human index (stream :: streams)
        (calls :: later)).run folder =
      let next := (@gradeFrom (StateM Folder) _ _ settings flushTrailing logPath human (index + 1)
        streams later).run (merged.written.elim folder fun text => folder.write name (Text.encode text))
      ((next.1.1.map (⟨index, stream.port, merged.judgements.length, merged.loaded, written, score,
          byCommand⟩ :: ·), merged.warning.toList ++ next.1.2), next.2) := by
  simp only [gradeFrom, path, opened]
  cases writtenCase : merged.written with
  | none =>
      simp [Workspace.readFile?, merging, writtenCase, scored, sliced]
      rfl
  | some text =>
      simp [Workspace.readFile?, Workspace.writeFile, merging, writtenCase, scored, sliced]
      rfl

theorem gradeFrom_cons_eq_ok {index : Nat} {stream : CommandStream} {streams : List CommandStream}
    {calls : List Event} {later : List (List Event)} {folder final : Folder}
    {results : List AutorefResult} {warnings : List (List Nat)}
    (ran : (@gradeFrom (StateM Folder) _ _ settings flushTrailing logPath human index
      (stream :: streams) (calls :: later)).run folder = ((.ok results, warnings), final)) :
    ∃ written name merged score byCommand rest more,
      Sheet.pathFor logPath index settings.correctionSuffix Settings.ambient.correctionSuffix = .ok written ∧
      fileNameOf (PathName.ofPoints written).toPoints = .ok name ∧
      Sheet.merge (PathName.ofPoints written).toPoints (folder.read? name)
        (align { humanToAuto := settings.humanToAutoDelay, autoToHuman := settings.autoToHumanDelay }
          flushTrailing human calls) = .ok merged ∧
      Score.ofJudgements merged.judgements = .ok score ∧
      Score.byCommand merged.judgements = .ok byCommand ∧
      (@gradeFrom (StateM Folder) _ _ settings flushTrailing logPath human (index + 1) streams
        later).run (merged.written.elim folder fun text => folder.write name (Text.encode text)) =
          ((.ok rest, more), final) ∧
      results = ⟨index, stream.port, merged.judgements.length, merged.loaded, written, score,
        byCommand⟩ :: rest := by
  cases path : Sheet.pathFor logPath index settings.correctionSuffix Settings.ambient.correctionSuffix with
  | error problem =>
      simp only [gradeFrom, path] at ran
      cases ran
  | ok written =>
  cases opened : fileNameOf (PathName.ofPoints written).toPoints with
  | error problem =>
      simp only [gradeFrom, path, opened] at ran
      cases ran
  | ok name =>
  cases merging : Sheet.merge (PathName.ofPoints written).toPoints (folder.read? name)
      (align { humanToAuto := settings.humanToAutoDelay, autoToHuman := settings.autoToHumanDelay }
        flushTrailing human calls) with
  | error problem =>
      simp only [gradeFrom, path, opened] at ran
      simp [Workspace.readFile?, merging] at ran
      cases ran
  | ok merged =>
  cases scored : Score.ofJudgements merged.judgements with
  | error problem =>
      simp only [gradeFrom, path, opened] at ran
      cases writtenCase : merged.written <;>
        simp [Workspace.readFile?, Workspace.writeFile, merging, writtenCase, scored] at ran <;>
        cases ran
  | ok score =>
  cases sliced : Score.byCommand merged.judgements with
  | error problem =>
      simp only [gradeFrom, path, opened] at ran
      cases writtenCase : merged.written <;>
        simp [Workspace.readFile?, Workspace.writeFile, merging, writtenCase, scored, sliced] at ran <;>
        cases ran
  | ok byCommand =>
  rw [gradeFrom_cons_run settings flushTrailing logPath human path opened merging scored sliced] at ran
  generalize nextRun : (@gradeFrom (StateM Folder) _ _ settings flushTrailing logPath human
    (index + 1) streams later).run
      (merged.written.elim folder fun text => folder.write name (Text.encode text)) = next at ran
  obtain ⟨⟨outcome, more⟩, after⟩ := next
  cases outcome with
  | error problem =>
      cases ran
  | ok rest =>
      cases ran
      exact ⟨written, name, merged, score, byCommand, rest, more, rfl, opened, merging, scored,
        sliced, nextRun, rfl⟩

theorem read?_after_merge (folder : Folder) (name other : List UInt8) (written : Option String) :
    (written.elim folder fun text => folder.write name (Text.encode text)).read? other =
      if Folder.key other = Folder.key name then
        written.elim (folder.read? other) fun text => some (Text.encode text)
      else folder.read? other := by
  cases written with
  | none =>
      simp
  | some text =>
      exact Folder.read?_write folder name other (Text.encode text)

/-- Grading touches only the sheets of the sources it grades: a file filed apart from all of
them reads as it did before. -/
theorem gradeFrom_frame {index : Nat} {streams : List CommandStream} {later : List (List Event)}
    {folder final : Folder} {results : List AutorefResult} {warnings : List (List Nat)}
    {other : List UInt8}
    (ran : (@gradeFrom (StateM Folder) _ _ settings flushTrailing logPath human index streams
      later).run folder = ((.ok results, warnings), final))
    (apart : ∀ sheet name, index ≤ sheet → SheetName settings logPath sheet name →
      Folder.key other ≠ Folder.key name) :
    final.read? other = folder.read? other := by
  -- induction on the sources, the folder following the writes of each
  induction streams generalizing index later folder results warnings with
  | nil =>
      rw [gradeFrom_run_of_exhausted settings flushTrailing logPath human (.inl rfl)] at ran
      cases ran
      rfl
  | cons stream streams inductionHypothesis =>
      cases later with
      | nil =>
          rw [gradeFrom_run_of_exhausted settings flushTrailing logPath human (.inr rfl)] at ran
          cases ran
          rfl
      | cons calls later =>
          obtain ⟨written, name, merged, score, byCommand, rest, more, path, opened, merging, scored,
            sliced, nextRan, rfl⟩ := gradeFrom_cons_eq_ok settings flushTrailing logPath human ran
          have afterLater := inductionHypothesis nextRan fun sheet name beyond sheetName =>
            apart sheet name (Nat.le_of_succ_le beyond) sheetName
          rw [afterLater, read?_after_merge,
            if_neg (apart index name (Nat.le_refl index) ⟨written, path, opened⟩)]

theorem read?_sheet_after_later {index : Nat} {streams : List CommandStream}
    {later : List (List Event)} {folder final : Folder} {results : List AutorefResult}
    {warnings : List (List Nat)} {written : List Nat} {name : List UInt8} {text : Option String}
    (path : Sheet.pathFor logPath index settings.correctionSuffix Settings.ambient.correctionSuffix =
      .ok written)
    (opened : fileNameOf (PathName.ofPoints written).toPoints = .ok name)
    (ran : (@gradeFrom (StateM Folder) _ _ settings flushTrailing logPath human (index + 1) streams
      later).run (text.elim folder fun text => folder.write name (Text.encode text)) =
        ((.ok results, warnings), final)) :
    final.read? name = text.elim (folder.read? name) fun text => some (Text.encode text) := by
  calc final.read? name
      = (text.elim folder fun text => folder.write name (Text.encode text)).read? name :=
        gradeFrom_frame settings flushTrailing logPath human ran
          fun _ _ beyond ⟨_, otherPath, otherOpened⟩ =>
            sheet_keys_ne path opened otherPath otherOpened (by omega)
    _ = text.elim (folder.read? name) fun text => some (Text.encode text) := by
        rw [read?_after_merge, if_pos rfl]

/-- Grading again from a folder whose sheets read as a successful grading left them gives the
same results, each with its corrections loaded, with no warning and no file written. -/
theorem gradeFrom_again {index : Nat} {streams : List CommandStream} {later : List (List Event)}
    {folder final again : Folder} {results : List AutorefResult} {warnings : List (List Nat)}
    (humanOk : human.length ≤ 2 ^ 32 ∧ ∀ event ∈ human, event.Wellformed)
    (laterOk : ∀ calls ∈ later, calls.length ≤ 2 ^ 32 ∧ ∀ event ∈ calls, event.Wellformed)
    (ran : (@gradeFrom (StateM Folder) _ _ settings flushTrailing logPath human index streams
      later).run folder = ((.ok results, warnings), final))
    (kept : ∀ sheet name, index ≤ sheet → SheetName settings logPath sheet name →
      again.read? name = final.read? name) :
    (@gradeFrom (StateM Folder) _ _ settings flushTrailing logPath human index streams later).run
      again = ((.ok (results.map fun result => { result with correctionsLoaded := true }), []),
        again) := by
  -- induction on the sources: each merge reads back the sheet the first grading left, so
  -- nothing is written and the folder stays as it is
  induction streams generalizing index later folder results warnings with
  | nil =>
      rw [gradeFrom_run_of_exhausted settings flushTrailing logPath human (.inl rfl)] at ran ⊢
      cases ran
      rfl
  | cons stream streams inductionHypothesis =>
      cases later with
      | nil =>
          rw [gradeFrom_run_of_exhausted settings flushTrailing logPath human (.inr rfl)] at ran ⊢
          cases ran
          rfl
      | cons calls later =>
          obtain ⟨written, name, merged, score, byCommand, rest, more, path, opened, merging, scored,
            sliced, nextRan, rfl⟩ := gradeFrom_cons_eq_ok settings flushTrailing logPath human ran
          have sheetAgain : again.read? name =
              merged.written.elim (folder.read? name) fun text => some (Text.encode text) := by
            rw [kept index name (Nat.le_refl index) ⟨written, path, opened⟩]
            exact read?_sheet_after_later settings flushTrailing logPath human path opened nextRan
          have legibility := align_legible
            { humanToAuto := settings.humanToAutoDelay, autoToHuman := settings.autoToHumanDelay }
            flushTrailing humanOk (laterOk calls List.mem_cons_self)
          have mergingAgain := Sheet.merge_again legibility.1 legibility.2 merging
          rw [← sheetAgain] at mergingAgain
          have restAgain := inductionHypothesis
            (fun calls member => laterOk calls (List.mem_cons_of_mem _ member)) nextRan
            fun sheet other beyond => kept sheet other (by omega)
          rw [gradeFrom_cons_run settings flushTrailing logPath human path opened mergingAgain scored
            sliced]
          simp only [Option.elim_none, restAgain]
          rfl

end Sources

/-! ## Whole runs -/

section Runs

variable {pb : Protobuf} {settings : Settings} {flush : Option Bool} {logPath : List Nat}
  {folder : Folder}

theorem run_run_of_heard {name bytes : List UInt8} {human : List Event}
    {autos : List (List Event)}
    (opened : fileNameOf (PathName.ofPoints logPath).toPoints = .ok name)
    (found : folder.read? name = some bytes)
    (framed : (Log.read pb bytes).failure = none)
    (extracted : (Ingest.run pb settings (Log.read pb bytes).datagrams).events = human :: autos)
    (heard : human.isEmpty = false) :
    (@run (StateM Folder) _ _ pb settings flush logPath).run folder =
      let ingest := Ingest.run pb settings (Log.read pb bytes).datagrams
      let next := (@gradeFrom (StateM Folder) _ _ settings (flush.getD settings.flushTrailing)
        logPath human 1 ingest.streams.tail autos).run folder
      ({ result := next.1.1.map fun autorefs =>
            { logFile := (PathName.ofPoints logPath).toPoints, records := ingest.records,
              visionRecords := ingest.visionRecords, rejectedRecords := ingest.rejected,
              duplicateCommands := ingest.duplicates,
              humanToAutoDelay := settings.humanToAutoDelay,
              autoToHumanDelay := settings.autoToHumanDelay,
              flushTrailing := flush.getD settings.flushTrailing,
              sources := (ingest.streams.zip ingest.events).zipIdx.map fun ((stream, found), index) =>
                { index, port := stream.port, commands := stream.commands.length,
                  events := found.length },
              autorefs },
          warnings := (Log.read pb bytes).warnings.map Text.pointsOf ++
            ingest.warnings.map Text.pointsOf ++ next.1.2 }, next.2) := by
  have nonempty : human ≠ [] := by simpa using heard
  simp only [run, opened]
  simp [Workspace.readFile?, found, framed, extracted, nonempty]
  rfl

/-- A run that gives a report read a whole log with human events and graded every automatic
source without fault. -/
theorem run_eq_ok {final : Folder} {outcome : GradingOutcome} {report : Report}
    (ran : (@run (StateM Folder) _ _ pb settings flush logPath).run folder = (outcome, final))
    (succeeded : outcome.result = .ok report) :
    ∃ name bytes human autos autorefs more,
      fileNameOf (PathName.ofPoints logPath).toPoints = .ok name ∧
      folder.read? name = some bytes ∧
      (Log.read pb bytes).failure = none ∧
      (Ingest.run pb settings (Log.read pb bytes).datagrams).events = human :: autos ∧
      human.isEmpty = false ∧
      (@gradeFrom (StateM Folder) _ _ settings (flush.getD settings.flushTrailing) logPath human 1
        (Ingest.run pb settings (Log.read pb bytes).datagrams).streams.tail autos).run folder =
          ((.ok autorefs, more), final) := by
  cases opened : fileNameOf (PathName.ofPoints logPath).toPoints with
  | error problem =>
      simp only [run, opened] at ran
      cases ran
      cases succeeded
  | ok name =>
  cases found : folder.read? name with
  | none =>
      simp only [run, opened] at ran
      simp [Workspace.readFile?, found] at ran
      cases ran
      cases succeeded
  | some bytes =>
  cases framed : (Log.read pb bytes).failure with
  | some problem =>
      simp only [run, opened] at ran
      simp [Workspace.readFile?, found, framed] at ran
      cases ran
      cases succeeded
  | none =>
  cases extracted : (Ingest.run pb settings (Log.read pb bytes).datagrams).events with
  | nil =>
      simp only [run, opened] at ran
      simp [Workspace.readFile?, found, framed, extracted] at ran
      cases ran
      cases succeeded
  | cons human autos =>
  cases heard : human.isEmpty with
  | true =>
      have empty : human = [] := List.isEmpty_iff.1 heard
      simp only [run, opened] at ran
      simp [Workspace.readFile?, found, framed, extracted, empty] at ran
      cases ran
      cases succeeded
  | false =>
  rw [run_run_of_heard opened found framed extracted heard] at ran
  dsimp only at ran
  generalize graded : (@gradeFrom (StateM Folder) _ _ settings (flush.getD settings.flushTrailing)
    logPath human 1 (Ingest.run pb settings (Log.read pb bytes).datagrams).streams.tail autos).run
      folder = next at ran
  obtain ⟨⟨outcome, more⟩, after⟩ := next
  cases outcome with
  | error problem =>
      cases ran
      cases succeeded
  | ok autorefs =>
      cases ran
      exact ⟨name, bytes, human, autos, autorefs, more, rfl, found, framed, extracted, heard, graded⟩

/-- Grading a log a second time, with nothing changed in between, gives the first report with
every automatic source's corrections loaded, and leaves every file as the first run left it. -/
theorem run_twice_same_report {final : Folder} {outcome : GradingOutcome} {report : Report}
    (ran : (@run (StateM Folder) _ _ pb settings flush logPath).run folder = (outcome, final))
    (succeeded : outcome.result = .ok report) :
    let again := (@run (StateM Folder) _ _ pb settings flush logPath).run final
    again.1.result = .ok { report with
      autorefs := report.autorefs.map fun result => { result with correctionsLoaded := true } } ∧
    again.2 = final := by
  obtain ⟨name, bytes, human, autos, autorefs, more, opened, found, framed, extracted, heard,
    graded⟩ := run_eq_ok ran succeeded
  -- the log is filed apart from every sheet, so the second run reads the same log
  have logKept : final.read? name = some bytes := by
    rw [gradeFrom_frame settings _ logPath human graded
      fun _ _ _ ⟨_, path, sheetOpened⟩ => (sheet_key_ne_log_key path sheetOpened opened).symm]
    exact found
  have wellformed :=
    Ingest.events_wellformed (Ingest.run_wellformed pb settings (Log.read pb bytes).datagrams)
  rw [extracted] at wellformed
  have gradedAgain := gradeFrom_again settings _ logPath human
    (wellformed human List.mem_cons_self)
    (fun calls member => wellformed calls (List.mem_cons_of_mem human member)) graded
    fun _ _ _ _ => rfl
  rw [run_run_of_heard opened found framed extracted heard] at ran
  dsimp only at ran
  rw [graded] at ran
  cases ran
  obtain rfl := Except.ok.inj succeeded
  dsimp only
  rw [run_run_of_heard opened logKept framed extracted heard]
  dsimp only
  rw [gradedAgain]
  exact ⟨rfl, rfl⟩

/-- Call 8, numbered 1 and issued at 5, sent from a port to the referee group. -/
def callDatagram (port : Int) : Datagram :=
  { address := .text ({} : Settings).refereeGroup, port, timestamp := 0,
    payload := (Command.encode Wire.proto2 8 1 5 0).toOption.getD [] }

/-- A folder holding only the log a, in which the referee box and one automatic referee each
make the same call. -/
def oneCallFolder : Folder :=
  ({} : Folder).write [0x61] ((Log.write Wire.proto2 [callDatagram 10003, callDatagram 10010]).toOption.getD [])

theorem run_twice_same_report_one_call :
    let first := (@run (StateM Folder) _ _ Wire.proto2 {} none [0x61]).run oneCallFolder
    let report := first.1.result.toOption.getD default
    first.1.result = .ok report ∧
      let again := (@run (StateM Folder) _ _ Wire.proto2 {} none [0x61]).run first.2
      again.1.result = .ok { report with
        autorefs := report.autorefs.map fun result => { result with correctionsLoaded := true } } ∧
      again.2 = first.2 := by
  intro first report
  have succeeded : first.1.result = .ok report := by
    have graded : first.1.result.toBool = true := by decide +kernel
    cases result : first.1.result with
    | error problem =>
        rw [result] at graded
        cases graded
    | ok graded =>
        simp only [report, result, Except.toOption, Option.getD_some]
  have ran : (@run (StateM Folder) _ _ Wire.proto2 {} none [0x61]).run oneCallFolder = (first.1, first.2) :=
    rfl
  exact ⟨succeeded, run_twice_same_report ran succeeded⟩

end Runs

end Grading

end RefereeGrading
