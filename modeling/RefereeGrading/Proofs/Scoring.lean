import RefereeGrading.Score
import RefereeGrading.Proofs.Alignment
import RefereeGrading.Proofs.Merge

/-!
# Scores of classified judgements

On judgements with no unclassified one that counts, the tally counts the judgements by verdict,
the ignored ones apart, and the four counts add up to the number of judgements. Reflagging
keeps how many judgements have each verdict.
-/

namespace RefereeGrading

/-- How many judgements of a list with a given verdict are not ignored. -/
def scoredCount (verdict : Verdict) (judgements : List Judgement) : Nat :=
  judgements.countP fun judgement => !judgement.ignore && decide (judgement.verdict = verdict)

/-- How many judgements of a list with a given verdict are ignored. -/
def ignoredCount (verdict : Verdict) (judgements : List Judgement) : Nat :=
  judgements.countP fun judgement => judgement.ignore && decide (judgement.verdict = verdict)

/-- Judgements that scoring counts through: none that is not ignored is unclassified. -/
def Classified (judgements : List Judgement) : Prop :=
  ∀ judgement ∈ judgements, judgement.ignore = false → judgement.verdict ≠ .unclassified

theorem Classified.tail {judgement : Judgement} {rest : List Judgement}
    (classified : Classified (judgement :: rest)) : Classified rest :=
  fun other member => classified other (List.mem_cons_of_mem judgement member)

theorem Classified.filter {judgements : List Judgement} (classified : Classified judgements)
    (keep : Judgement → Bool) : Classified (judgements.filter keep) :=
  fun judgement member => classified judgement (List.mem_filter.1 member).1

theorem verdictCount_eq_scored_add_ignored (verdict : Verdict) (judgements : List Judgement) :
    verdictCount verdict judgements =
      scoredCount verdict judgements + ignoredCount verdict judgements := by
  induction judgements with
  | nil =>
      rfl
  | cons judgement rest inductionHypothesis =>
      simp only [verdictCount, scoredCount, ignoredCount, List.countP_cons] at inductionHypothesis ⊢
      cases judgement.ignore <;> by_cases same : judgement.verdict = verdict <;>
        simp [same] <;> omega

theorem scored_add_ignored_eq_length {judgements : List Judgement}
    (classified : Classified judgements) :
    scoredCount .truePositive judgements + scoredCount .falsePositive judgements +
      scoredCount .falseNegative judgements + judgements.countP (·.ignore) = judgements.length := by
  induction judgements with
  | nil =>
      rfl
  | cons judgement rest inductionHypothesis =>
      have restCount := inductionHypothesis classified.tail
      simp only [scoredCount, List.countP_cons, List.length_cons] at restCount ⊢
      cases ignored : judgement.ignore with
      | true =>
          simp
          omega
      | false =>
          have known := classified judgement List.mem_cons_self ignored
          cases verdict : judgement.verdict <;> simp [verdict] at known ⊢ <;> omega

namespace Tally

/-- Counting classified judgements from any position, on top of any tally, adds their scored
counts and their ignored count. -/
theorem countFrom_eq_ok (position : Nat) (tally : Tally) {judgements : List Judgement}
    (classified : Classified judgements) :
    countFrom position tally judgements =
      .ok { truePositives := tally.truePositives + scoredCount .truePositive judgements
            falsePositives := tally.falsePositives + scoredCount .falsePositive judgements
            falseNegatives := tally.falseNegatives + scoredCount .falseNegative judgements
            ignored := tally.ignored + judgements.countP (·.ignore) } := by
  -- induction on the judgements, the tally growing by the one counted
  induction judgements generalizing position tally with
  | nil =>
      simp [countFrom, scoredCount]
  | cons judgement rest inductionHypothesis =>
      have restCounted := fun next => inductionHypothesis (position + 1) next classified.tail
      obtain ⟨verdict, automatic, human, ignore⟩ := judgement
      cases ignore with
      | true =>
          simp only [countFrom, count?, if_true, restCounted]
          simp [scoredCount]
          omega
      | false =>
          cases verdict with
          | unclassified =>
              exact absurd rfl (classified _ List.mem_cons_self rfl)
          | truePositive | falsePositive | falseNegative =>
              simp only [countFrom, count?, Bool.false_eq_true, if_false, restCounted]
              simp [scoredCount]
              omega

theorem ofJudgements_eq_ok {judgements : List Judgement} (classified : Classified judgements) :
    ofJudgements judgements =
      .ok { truePositives := scoredCount .truePositive judgements
            falsePositives := scoredCount .falsePositive judgements
            falseNegatives := scoredCount .falseNegative judgements
            ignored := judgements.countP (·.ignore) } := by
  rw [ofJudgements, countFrom_eq_ok 0 {} classified]
  simp

end Tally

namespace Score

theorem ofJudgements_isOk {judgements : List Judgement} (classified : Classified judgements) :
    ∃ score, ofJudgements judgements = .ok score := by
  rw [ofJudgements, Tally.ofJudgements_eq_ok classified]
  exact ⟨_, rfl⟩

theorem tally_of_ofJudgements {judgements : List Judgement} {score : Score}
    (classified : Classified judgements) (scoring : ofJudgements judgements = .ok score) :
    score.tally =
      { truePositives := scoredCount .truePositive judgements
        falsePositives := scoredCount .falsePositive judgements
        falseNegatives := scoredCount .falseNegative judgements
        ignored := judgements.countP (·.ignore) } := by
  rw [ofJudgements, Tally.ofJudgements_eq_ok classified] at scoring
  cases scoring
  rfl

section Traversal

variable {α β ε : Type}

theorem mapM_isOk {f : α → Except ε β} (keys : List α) (each : ∀ key ∈ keys, ∃ b, f key = .ok b) :
    ∃ bs, keys.mapM f = .ok bs := by
  induction keys with
  | nil =>
      exact ⟨[], rfl⟩
  | cons key rest inductionHypothesis =>
      obtain ⟨b, head⟩ := each key List.mem_cons_self
      obtain ⟨bs, tail⟩ := inductionHypothesis fun other member =>
        each other (List.mem_cons_of_mem key member)
      exact ⟨b :: bs, by simp [List.mapM_cons, head, tail]⟩

end Traversal

theorem byCommand_isOk {judgements : List Judgement} (classified : Classified judgements) :
    ∃ groups, byCommand judgements = .ok groups := by
  apply mapM_isOk
  intro key _
  obtain ⟨score, scoring⟩ := ofJudgements_isOk (classified.filter fun j => commandKey j = key)
  exact ⟨(key, score), by rw [scoring]; rfl⟩

end Score

/-! ## Reflagged judgements -/

section Reflagged

variable {fresh scored : List Judgement}

theorem verdictCount_of_reflagged (reflagged : Sheet.Reflagged fresh scored) (verdict : Verdict) :
    verdictCount verdict scored = verdictCount verdict fresh := by
  induction reflagged with
  | nil =>
      rfl
  | @cons first loaded freshRest scoredRest edited _ inductionHypothesis =>
      have sameVerdict : loaded.verdict = first.verdict := by
        rw [← edited]
      simp only [verdictCount, List.countP_cons, sameVerdict] at inductionHypothesis ⊢
      omega

theorem classified_of_reflagged (reflagged : Sheet.Reflagged fresh scored)
    (classified : ∀ judgement ∈ fresh, judgement.verdict ≠ .unclassified) : Classified scored := by
  induction reflagged with
  | nil =>
      intro judgement member
      cases member
  | @cons first loaded freshRest scoredRest edited _ inductionHypothesis =>
      intro judgement member unignored
      rcases List.mem_cons.1 member with rfl | later
      · rw [← edited]
        exact classified first List.mem_cons_self
      · exact inductionHypothesis (fun other otherMember =>
          classified other (List.mem_cons_of_mem first otherMember)) judgement later unignored

theorem tally_of_reflagged {score : Score} (reflagged : Sheet.Reflagged fresh scored)
    (classified : ∀ judgement ∈ fresh, judgement.verdict ≠ .unclassified)
    (scoring : Score.ofJudgements scored = .ok score) :
    score.tally.truePositives + ignoredCount .truePositive scored =
        verdictCount .truePositive fresh ∧
      score.tally.falsePositives + ignoredCount .falsePositive scored =
        verdictCount .falsePositive fresh ∧
      score.tally.falseNegatives + ignoredCount .falseNegative scored =
        verdictCount .falseNegative fresh ∧
      score.tally.ignored = scored.countP (·.ignore) ∧
      score.tally.truePositives + score.tally.falsePositives + score.tally.falseNegatives +
        score.tally.ignored = scored.length := by
  have scoredClassified := classified_of_reflagged reflagged classified
  rw [Score.tally_of_ofJudgements scoredClassified scoring]
  refine ⟨?_, ?_, ?_, rfl, scored_add_ignored_eq_length scoredClassified⟩ <;>
    rw [← verdictCount_of_reflagged reflagged, verdictCount_eq_scored_add_ignored]

end Reflagged

end RefereeGrading
