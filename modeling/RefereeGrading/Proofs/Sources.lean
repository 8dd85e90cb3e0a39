import RefereeGrading.Proofs.Rerun
import RefereeGrading.Proofs.Scoring

/-!
# Grading the automatic sources

Grading goes through the automatic sources in order, each sheet merged as the folder held it
before grading began, and a later source never touches an earlier one's sheet. Paths always
form and open and scoring never fails, so the one way grading stops early is a sheet that
reading cannot take.
-/

namespace RefereeGrading

/-! ## Code points a file name can hold -/

namespace Text

/-- Whether a code point can stand in a file name: it stands for bytes, none of them null. -/
def nameable (n : Nat) : Bool :=
  !isUnwritable n && !(fileNameBytes n).contains 0

/-- The code point itself when no file name can hold it, and nothing otherwise. -/
def unnameable (n : Nat) : List Nat :=
  if nameable n then [] else [n]

theorem nameable_of_ascii {n : Nat} (positive : 0 < n) (ascii : n < 0x80) :
    nameable n = true := by
  have notSurrogate : isSurrogate n = false := by
    simp only [isSurrogate, Bool.and_eq_false_iff, decide_eq_false_iff_not]
    omega
  have byte : n.toUInt8 ≠ 0 := by
    intro zero
    have value := congrArg UInt8.toNat zero
    rw [UInt8.toNat_ofNat_of_lt' (by simp only [UInt8.size]; omega)] at value
    simp only [UInt8.toNat_zero] at value
    omega
  simp only [nameable, isUnwritable, notSurrogate, fileNameBytes_of_lt ascii, Bool.false_and,
    Bool.not_false, Bool.true_and, List.contains_cons, List.contains_nil, Bool.or_false,
    Bool.not_eq_eq_eq_not, Bool.not_true, beq_eq_false_iff_ne]
  exact byte.symm

theorem flatMap_unnameable_eq_nil_iff (points : List Nat) :
    points.flatMap unnameable = [] ↔ ∀ n ∈ points, nameable n = true := by
  simp only [List.flatMap_eq_nil_iff, unnameable]
  constructor
  · intro clean n member
    have none := clean n member
    split at none
    · assumption
    · cases none
  · intro nameableAll n member
    rw [if_pos (nameableAll n member)]

theorem unnameable_slash : unnameable PathName.slash = [] := by
  decide

theorem unnameable_dot : unnameable PathName.dot = [] := by
  decide

end Text

/-! ## Sheet paths -/

section Pieces

variable {α : Type} [BEq α] [LawfulBEq α]

theorem not_mem_of_mem_splitOn {separator : α} {text piece : List α}
    (member : piece ∈ text.splitOn separator) : separator ∉ piece := by
  induction text generalizing piece with
  | nil =>
      rw [List.splitOn_nil, List.mem_singleton] at member
      subst member
      exact List.not_mem_nil
  | cons first rest inductionHypothesis =>
      rw [List.splitOn_cons_eq_if_modifyHead] at member
      split at member
      · rcases List.mem_cons.1 member with rfl | later
        · exact List.not_mem_nil
        · exact inductionHypothesis later
      · -- the first element joins the first piece of the rest
        rename_i kept
        obtain ⟨head, tail, pieces⟩ :=
          List.exists_cons_of_ne_nil (List.splitOn_ne_nil separator rest)
        rw [pieces, List.modifyHead_cons] at member
        rcases List.mem_cons.1 member with rfl | later
        · intro inside
          rcases List.mem_cons.1 inside with same | inHead
          · exact kept (by simp [same])
          · exact inductionHypothesis (pieces ▸ List.mem_cons_self) inHead
        · exact inductionHypothesis (pieces ▸ List.mem_cons_of_mem head later)

end Pieces

theorem slash_not_mem_name (text : List Nat) :
    PathName.slash ∉ (PathName.ofPoints text).name := by
  unfold PathName.name
  rw [List.getLastD_eq_getLast?]
  cases last : (PathName.ofPoints text).parts.getLast? with
  | none =>
      exact List.not_mem_nil
  | some part =>
      have member := List.mem_of_getLast? last
      simp only [PathName.ofPoints, List.mem_filter] at member
      exact not_mem_of_mem_splitOn member.1

theorem pathFor_isOk {logPath suffix fallback : List Nat} (index : Nat)
    (named : (PathName.ofPoints logPath).name ≠ [])
    (plain : PathName.slash ∉ (if suffix = [] then fallback else suffix)) :
    ∃ written, Sheet.pathFor logPath index suffix fallback = .ok written := by
  unfold Sheet.pathFor
  dsimp only
  generalize (if suffix = [] then fallback else suffix) = ending at plain ⊢
  have digitsPlain : PathName.slash ∉ Text.pointsOf (toString (index : Int)) := by
    intro member
    obtain ⟨c, charMember, same⟩ := List.mem_map.1 member
    have digit := Sheet.digit_of_mem_numeral charMember
    simp only [PathName.slash] at same
    omega
  generalize newNameDef : (PathName.ofPoints logPath).name ++ [PathName.dot] ++
    Text.pointsOf (toString (index : Int)) ++ [PathName.dot] ++ ending = newName
  have newPlain : PathName.slash ∉ newName := by
    rw [← newNameDef]
    simp only [List.mem_append, List.mem_singleton, not_or]
    exact ⟨⟨⟨⟨slash_not_mem_name logPath, by decide⟩, digitsPlain⟩, by decide⟩, plain⟩
  have long : 2 ≤ newName.length := by
    have nameLength := List.length_pos_of_ne_nil named
    rw [← newNameDef]
    simp only [List.length_append, List.length_singleton]
    omega
  have notEmpty : newName ≠ [] := List.ne_nil_of_length_pos (by omega)
  have notDot : newName ≠ [PathName.dot] := fun same => by
    rw [same, List.length_singleton] at long
    omega
  have oneComponent : (PathName.ofPoints newName).parts = [newName] := by
    simp only [PathName.ofPoints]
    rw [List.splitOn_eq_singleton newPlain]
    simp [notEmpty, notDot]
  have headPlain : newName.head? ≠ some PathName.slash := fun head =>
    newPlain (List.mem_of_mem_head? head)
  have lastPlain : newName.getLast? ≠ some PathName.slash := fun last =>
    newPlain (List.mem_of_getLast? last)
  unfold PathName.withName
  rw [if_neg named, if_neg (by simp [notEmpty, headPlain, lastPlain, oneComponent])]
  exact ⟨_, rfl⟩

namespace Grading

theorem fileNameOf_isOk_iff (path : List Nat) :
    (∃ name, fileNameOf path = .ok name) ↔ ∀ n ∈ path, Text.nameable n = true := by
  unfold fileNameOf Text.encodeFileName
  cases found : path.findIdx? Text.isUnwritable with
  | some start =>
      obtain ⟨within, unwritable, -⟩ := List.findIdx?_eq_some_iff_getElem.1 found
      simp only [reduceCtorEq, exists_false, false_iff, not_forall]
      exact ⟨path[start], List.getElem_mem within, by simp [Text.nameable, unwritable]⟩
  | none =>
      have writable : ∀ n ∈ path, Text.isUnwritable n = false := by
        simpa using List.findIdx?_eq_none_iff.1 found
      dsimp only
      by_cases nulled : (path.flatMap Text.fileNameBytes).contains 0 = true
      · rw [if_pos nulled]
        simp only [reduceCtorEq, exists_false, false_iff, not_forall]
        obtain ⟨n, member, inBytes⟩ : ∃ n ∈ path, (0 : UInt8) ∈ Text.fileNameBytes n := by
          simpa [List.mem_flatMap] using nulled
        exact ⟨n, member, by simp [Text.nameable, inBytes]⟩
      · rw [if_neg nulled]
        simp only [Except.ok.injEq, exists_eq', true_iff]
        intro n member
        have clean : (0 : UInt8) ∉ Text.fileNameBytes n := fun inBytes =>
          nulled (by simpa [List.mem_flatMap] using ⟨n, member, inBytes⟩)
        simp [Text.nameable, writable n member, clean]

theorem fileNameOf_sheet_isOk {logPath suffix fallback written : List Nat} {index : Nat}
    {logName : List UInt8} (path : Sheet.pathFor logPath index suffix fallback = .ok written)
    (opened : fileNameOf (PathName.ofPoints logPath).toPoints = .ok logName)
    (endingNameable : ∀ n ∈ (if suffix = [] then fallback else suffix), Text.nameable n = true) :
    ∃ name, fileNameOf (PathName.ofPoints written).toPoints = .ok name := by
  have logClean : logPath.flatMap Text.unnameable = [] := by
    rw [← PathName.flatMap_toPoints_ofPoints _ Text.unnameable_slash Text.unnameable_dot,
      Text.flatMap_unnameable_eq_nil_iff]
    exact (fileNameOf_isOk_iff _).1 ⟨logName, opened⟩
  have digitsClean : (Text.pointsOf (toString (index : Int))).flatMap Text.unnameable = [] := by
    rw [Text.flatMap_unnameable_eq_nil_iff]
    intro n member
    obtain ⟨c, charMember, rfl⟩ := List.mem_map.1 member
    have digit := Sheet.digit_of_mem_numeral charMember
    exact Text.nameable_of_ascii (by omega) (by omega)
  have endingClean := (Text.flatMap_unnameable_eq_nil_iff _).2 endingNameable
  apply (fileNameOf_isOk_iff _).2
  rw [← Text.flatMap_unnameable_eq_nil_iff,
    PathName.flatMap_toPoints_ofPoints _ Text.unnameable_slash Text.unnameable_dot,
    flatMap_pathFor _ Text.unnameable_slash Text.unnameable_dot path, logClean, digitsClean,
    endingClean]
  rfl

theorem sheetName_exists (settings : Settings) {logPath : List Nat} {logName : List UInt8}
    (named : (PathName.ofPoints logPath).name ≠ [])
    (opened : fileNameOf (PathName.ofPoints logPath).toPoints = .ok logName)
    (suffixPlain : PathName.slash ∉ settings.correctionSuffix)
    (suffixOpens : ∃ suffixName, fileNameOf settings.correctionSuffix = .ok suffixName)
    (index : Nat) : ∃ name, SheetName settings logPath index name := by
  have endingPlain : PathName.slash ∉
      (if settings.correctionSuffix = [] then Settings.ambient.correctionSuffix else settings.correctionSuffix) := by
    split
    · decide
    · exact suffixPlain
  have endingNameable : ∀ n ∈
      (if settings.correctionSuffix = [] then Settings.ambient.correctionSuffix else settings.correctionSuffix),
      Text.nameable n = true := by
    split
    · decide
    · exact (fileNameOf_isOk_iff _).1 suffixOpens
  obtain ⟨written, path⟩ := pathFor_isOk index named endingPlain
  obtain ⟨name, sheetOpened⟩ := fileNameOf_sheet_isOk path opened endingNameable
  exact ⟨name, written, path, sheetOpened⟩

/-! ## One source after another -/

section Sources

variable (settings : Settings) (flushTrailing : Bool) (logPath : List Nat) (human : List Event)

/-- The judgements of an automatic source's calls aligned with the human calls. -/
def freshJudgements (calls : List Event) : List Judgement :=
  align { humanToAuto := settings.humanToAutoDelay, autoToHuman := settings.autoToHumanDelay }
    flushTrailing human calls

/-- How grading left the source of `result`, graded against `calls` from `folder` to `final`:
the sheet at the path the result names was merged, as the folder held it, with the fresh
judgements; the merged judgements were scored as the result says; and the sheet was left
holding what the merge wrote, or what it held. -/
def Graded (folder final : Folder) (calls : List Event) (result : AutorefResult) : Prop :=
  ∃ name merged,
    Sheet.pathFor logPath result.index settings.correctionSuffix Settings.ambient.correctionSuffix =
      .ok result.correctionFile ∧
    fileNameOf (PathName.ofPoints result.correctionFile).toPoints = .ok name ∧
    Sheet.merge (PathName.ofPoints result.correctionFile).toPoints (folder.read? name)
      (freshJudgements settings flushTrailing human calls) = .ok merged ∧
    Score.ofJudgements merged.judgements = .ok result.score ∧
    Score.byCommand merged.judgements = .ok result.byCommand ∧
    result.evaluations = merged.judgements.length ∧
    result.correctionsLoaded = merged.loaded ∧
    final.read? name = merged.written.elim (folder.read? name) fun text => some (Text.encode text)

variable {settings flushTrailing logPath human}

theorem Graded.of_kept {folder other final : Folder} {calls : List Event}
    {result : AutorefResult} (graded : Graded settings flushTrailing logPath human other final calls result)
    (kept : ∀ name, SheetName settings logPath result.index name →
      other.read? name = folder.read? name) :
    Graded settings flushTrailing logPath human folder final calls result := by
  obtain ⟨name, merged, path, opened, merging, scored, sliced, counted, loaded, left⟩ := graded
  rw [kept name ⟨_, path, opened⟩] at merging left
  exact ⟨name, merged, path, opened, merging, scored, sliced, counted, loaded, left⟩

theorem read?_other_sheet_after_merge {index sheet : Nat} {written : List Nat}
    {name other : List UInt8} (path : Sheet.pathFor logPath index settings.correctionSuffix
      Settings.ambient.correctionSuffix = .ok written)
    (opened : fileNameOf (PathName.ofPoints written).toPoints = .ok name)
    (sheetName : SheetName settings logPath sheet other) (different : sheet ≠ index)
    (folder : Folder) (text : Option String) :
    (text.elim folder fun text => folder.write name (Text.encode text)).read? other =
      folder.read? other := by
  obtain ⟨otherWritten, otherPath, otherOpened⟩ := sheetName
  rw [read?_after_merge, if_neg (sheet_keys_ne otherPath otherOpened path opened different)]

theorem gradeFrom_cons_run_of_overflow {index : Nat} {stream : CommandStream}
    {streams : List CommandStream} {calls : List Event} {later : List (List Event)}
    {folder : Folder} {written : List Nat} {name : List UInt8} {problem : Text.DigitOverflow}
    (path : Sheet.pathFor logPath index settings.correctionSuffix Settings.ambient.correctionSuffix =
      .ok written)
    (opened : fileNameOf (PathName.ofPoints written).toPoints = .ok name)
    (merging : Sheet.merge (PathName.ofPoints written).toPoints (folder.read? name)
      (freshJudgements settings flushTrailing human calls) = .error problem) :
    (@gradeFrom (StateM Folder) _ _ settings flushTrailing logPath human index (stream :: streams)
        (calls :: later)).run folder = ((.error (.digitOverflow problem), []), folder) := by
  unfold freshJudgements at merging
  simp only [gradeFrom, path, opened]
  simp [Workspace.readFile?, merging]
  rfl

/-- Grading that succeeds grades one source for each pair of a stream and its events, in order
of index, each from the folder as it was before grading began. -/
theorem gradeFrom_graded {index : Nat} {streams : List CommandStream}
    {later : List (List Event)} {folder final : Folder} {results : List AutorefResult}
    {warnings : List (List Nat)}
    (ran : (@gradeFrom (StateM Folder) _ _ settings flushTrailing logPath human index streams
      later).run folder = ((.ok results, warnings), final)) :
    results.length = min streams.length later.length ∧
      ∀ (position : Nat) (result : AutorefResult), results[position]? = some result →
        result.index = index + position ∧ ∃ calls, later[position]? = some calls ∧
          Graded settings flushTrailing logPath human folder final calls result := by
  -- induction on the sources, the folder following the writes of each
  induction streams generalizing index later folder results warnings with
  | nil =>
      rw [gradeFrom_run_of_exhausted settings flushTrailing logPath human (.inl rfl)] at ran
      cases ran
      simp
  | cons stream streams inductionHypothesis =>
      cases later with
      | nil =>
          rw [gradeFrom_run_of_exhausted settings flushTrailing logPath human (.inr rfl)] at ran
          cases ran
          simp
      | cons calls later =>
          obtain ⟨written, name, merged, score, byCommand, rest, more, path, opened, merging, scored,
            sliced, nextRan, rfl⟩ := gradeFrom_cons_eq_ok settings flushTrailing logPath human ran
          obtain ⟨counted, restGraded⟩ := inductionHypothesis nextRan
          refine ⟨?_, ?_⟩
          · simp only [List.length_cons, counted]
            omega
          intro position result found
          cases position with
          | zero =>
              obtain rfl : _ = result := by simpa using found
              refine ⟨rfl, calls, rfl, name, merged, path, opened, merging, scored, sliced, rfl, rfl,
                ?_⟩
              exact read?_sheet_after_later settings flushTrailing logPath human path opened nextRan
          | succ position =>
              obtain ⟨indexed, laterCalls, laterFound, graded⟩ :=
                restGraded position result (by simpa using found)
              refine ⟨by omega, laterCalls, by simpa using laterFound, graded.of_kept ?_⟩
              intro other sheetName
              exact read?_other_sheet_after_merge path opened sheetName (by omega) folder _

theorem gradeFrom_indices {index : Nat} {streams : List CommandStream}
    {later : List (List Event)} {folder final : Folder} {results : List AutorefResult}
    {warnings : List (List Nat)}
    (ran : (@gradeFrom (StateM Folder) _ _ settings flushTrailing logPath human index streams
      later).run folder = ((.ok results, warnings), final)) :
    results.map (·.index) = List.range' index results.length := by
  obtain ⟨-, each⟩ := gradeFrom_graded ran
  apply List.ext_getElem (by simp)
  intro position mapped _
  have within : position < results.length := by simpa using mapped
  have found : results[position]? = some results[position] := List.getElem?_eq_getElem within
  simp [(each position _ found).1]

/-- Grading sources whose sheets all have names, against fresh judgements that sheets tell
apart and that are all classified, either succeeds or stops at a sheet that reading cannot
take, which the folder held before grading began. -/
theorem gradeFrom_ok_or_overflow {index : Nat} {streams : List CommandStream}
    {later : List (List Event)} {folder final : Folder}
    {outcome : Except GradingError (List AutorefResult) × List (List Nat)}
    (named : ∀ sheet, index ≤ sheet → ∃ name, SheetName settings logPath sheet name)
    (judged : ∀ calls ∈ later, ∀ judgement ∈ freshJudgements settings flushTrailing human calls,
      Sheet.Faithful judgement ∧ judgement.verdict ≠ .unclassified)
    (ran : (@gradeFrom (StateM Folder) _ _ settings flushTrailing logPath human index streams
      later).run folder = (outcome, final)) :
    (∃ results, outcome.1 = .ok results) ∨
      ∃ problem, outcome.1 = .error (.digitOverflow problem) ∧
        ∃ sheet name bytes, index ≤ sheet ∧ SheetName settings logPath sheet name ∧
          folder.read? name = some bytes ∧ Sheet.Overlong bytes := by
  -- induction on the sources: each either stops the run at its sheet or is scored
  induction streams generalizing index later folder final outcome with
  | nil =>
      rw [gradeFrom_run_of_exhausted settings flushTrailing logPath human (.inl rfl)] at ran
      cases ran
      exact .inl ⟨[], rfl⟩
  | cons stream streams inductionHypothesis =>
      cases later with
      | nil =>
          rw [gradeFrom_run_of_exhausted settings flushTrailing logPath human (.inr rfl)] at ran
          cases ran
          exact .inl ⟨[], rfl⟩
      | cons calls later =>
          obtain ⟨name, written, path, opened⟩ := named index (Nat.le_refl index)
          cases merging : Sheet.merge (PathName.ofPoints written).toPoints (folder.read? name)
              (freshJudgements settings flushTrailing human calls) with
          | error problem =>
              rw [gradeFrom_cons_run_of_overflow path opened merging] at ran
              cases ran
              obtain ⟨bytes, held, overlong⟩ := Sheet.merge_eq_error merging
              exact .inr ⟨problem, rfl, index, name, bytes, Nat.le_refl index,
                ⟨written, path, opened⟩, held, overlong⟩
          | ok merged =>
              have freshJudged := judged calls List.mem_cons_self
              have reflagged := Sheet.merge_reflagged
                (fun judgement member => (freshJudged judgement member).1) merging
              have classified := classified_of_reflagged reflagged
                fun judgement member => (freshJudged judgement member).2
              obtain ⟨score, scored⟩ := Score.ofJudgements_isOk classified
              obtain ⟨byCommand, sliced⟩ := Score.byCommand_isOk classified
              rw [gradeFrom_cons_run settings flushTrailing logPath human path opened merging scored
                sliced] at ran
              generalize nextRun : (@gradeFrom (StateM Folder) _ _ settings flushTrailing logPath
                human (index + 1) streams later).run
                  (merged.written.elim folder fun text => folder.write name (Text.encode text)) =
                    next at ran
              obtain ⟨⟨nextOutcome, more⟩, after⟩ := next
              cases ran
              rcases inductionHypothesis (fun sheet beyond => named sheet (by omega))
                  (fun calls member => judged calls (List.mem_cons_of_mem _ member)) nextRun with
                ⟨results, succeeded⟩ | ⟨problem, failed, sheet, other, bytes, beyond, sheetName,
                  held, overlong⟩
              · simp only at succeeded
                subst succeeded
                exact .inl ⟨_, rfl⟩
              · -- the later sheet read as the folder held it: this source's sheet is apart
                simp only at failed
                subst failed
                rw [read?_other_sheet_after_merge path opened sheetName (by omega)] at held
                exact .inr ⟨problem, rfl, sheet, other, bytes, by omega, sheetName, held, overlong⟩

end Sources

end Grading

end RefereeGrading
