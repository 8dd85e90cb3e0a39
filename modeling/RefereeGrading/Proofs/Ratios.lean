import Mathlib.Algebra.Order.Field.Rat
import Mathlib.Tactic.FieldSimp
import Mathlib.Tactic.Linarith
import Mathlib.Tactic.Positivity
import Mathlib.Tactic.Ring
import RefereeGrading.Proofs.Scoring

/-!
# Where scoring stops, and the exact ratios of a score

Counting stops at the first judgement that is unclassified and not ignored, and names its
position. Read in exact arithmetic, precision and recall are the ratios of the counts, and F1
is defined exactly when there is a true positive, as `2 tp / (2 tp + fp + fn)`.
-/

namespace RefereeGrading

/-! ## Where counting stops -/

namespace Tally

theorem count?_isSome {tally : Tally} {judgement : Judgement}
    (counts : judgement.ignore = false → judgement.verdict ≠ .unclassified) :
    ∃ next, tally.count? judgement = some next := by
  unfold count?
  split
  · exact ⟨_, rfl⟩
  · rename_i kept
    split
    · exact ⟨_, rfl⟩
    · exact ⟨_, rfl⟩
    · exact ⟨_, rfl⟩
    · rename_i unclassified
      exact absurd unclassified (counts (by simpa using kept))

theorem count?_eq_none {tally : Tally} {judgement : Judgement}
    (stops : tally.count? judgement = none) :
    judgement.ignore = false ∧ judgement.verdict = .unclassified := by
  unfold count? at stops
  split at stops
  · cases stops
  · rename_i kept
    refine ⟨by simpa using kept, ?_⟩
    split at stops
    · cases stops
    · cases stops
    · cases stops
    · assumption

theorem countFrom_append {position : Nat} {tally : Tally} {before : List Judgement}
    (classified : Classified before) (rest : List Judgement) :
    ∃ next, countFrom position tally (before ++ rest) =
      countFrom (position + before.length) next rest := by
  induction before generalizing position tally with
  | nil =>
      exact ⟨tally, rfl⟩
  | cons judgement more inductionHypothesis =>
      obtain ⟨counted, counts⟩ : ∃ next, tally.count? judgement = some next :=
        count?_isSome (classified judgement List.mem_cons_self)
      obtain ⟨next, carried⟩ : ∃ next, countFrom (position + 1) counted (more ++ rest) =
          countFrom (position + 1 + more.length) next rest :=
        inductionHypothesis classified.tail
      have lengths : position + 1 + more.length = position + (judgement :: more).length := by
        rw [List.length_cons]
        omega
      refine ⟨next, ?_⟩
      rw [List.cons_append, countFrom, counts]
      dsimp only
      rw [carried, lengths]

theorem classified_of_countFrom_eq_ok {position : Nat} {tally counted : Tally}
    {judgements : List Judgement} (finished : countFrom position tally judgements = .ok counted) :
    Classified judgements := by
  induction judgements generalizing position tally with
  | nil =>
      intro judgement member
      cases member
  | cons judgement rest inductionHypothesis =>
      unfold countFrom at finished
      split at finished
      · rename_i next counts
        intro other member unignored
        rcases List.mem_cons.1 member with rfl | later
        · intro unclassified
          have stops : tally.count? other = none := by
            simp [count?, unignored, unclassified]
          rw [stops] at counts
          cases counts
        · exact inductionHypothesis finished other later unignored
      · cases finished

/-- Counting from `position` fails exactly at the first judgement that is unclassified and not
ignored, and names its position. -/
theorem countFrom_eq_error_iff {position : Nat} {tally : Tally} {judgements : List Judgement}
    {problem : ScoreError} :
    countFrom position tally judgements = .error problem ↔
      ∃ before judgement after, judgements = before ++ judgement :: after ∧ Classified before ∧
        judgement.ignore = false ∧ judgement.verdict = .unclassified ∧
        problem = .unclassified (position + before.length) := by
  constructor
  · intro failed
    induction judgements generalizing position tally with
    | nil =>
        cases failed
    | cons judgement rest inductionHypothesis =>
        unfold countFrom at failed
        split at failed
        · rename_i next counts
          obtain ⟨before, stopper, after, split, classified, unignored, unclassified, named⟩ :=
            inductionHypothesis failed
          have counted : judgement.ignore = false → judgement.verdict ≠ .unclassified := by
            intro kept isUnclassified
            simp [count?, kept, isUnclassified] at counts
          refine ⟨judgement :: before, stopper, after, by rw [split]; rfl, ?_, unignored,
            unclassified, ?_⟩
          · intro other member
            rcases List.mem_cons.1 member with rfl | later
            · exact counted
            · exact classified other later
          · rw [named, List.length_cons]
            congr 1
            omega
        · rename_i stops
          cases failed
          obtain ⟨unignored, unclassified⟩ := count?_eq_none stops
          exact ⟨[], judgement, rest, rfl, (fun _ member => by cases member), unignored,
            unclassified, rfl⟩
  · rintro ⟨before, judgement, after, rfl, classified, unignored, unclassified, rfl⟩
    obtain ⟨next, carried⟩ : ∃ next, countFrom position tally (before ++ judgement :: after) =
        countFrom (position + before.length) next (judgement :: after) :=
      countFrom_append classified (judgement :: after)
    have stops : next.count? judgement = none := by
      simp [count?, unignored, unclassified]
    rw [carried, countFrom, stops]

end Tally

/-! ## Exact ratios -/

namespace Score

@[simp] theorem tally_ofTally (tally : Tally) : (ofTally tally).tally = tally := rfl

/-- The ratios of a tally in exact rational arithmetic. -/
def exactRatios (tally : Tally) : Ratios ℚ :=
  ratios (Nat.cast : ℕ → ℚ) tally

theorem ratio_eq_none_iff {part whole : ℕ} :
    ratio (Nat.cast : ℕ → ℚ) part whole = none ↔ whole = 0 := by
  unfold ratio
  split <;> simp_all

theorem ratio_eq_some {part whole : ℕ} {value : ℚ}
    (defined : ratio (Nat.cast : ℕ → ℚ) part whole = some value) :
    value = (part : ℚ) / whole := by
  unfold ratio at defined
  split at defined
  · cases defined
  · cases defined
    rfl

theorem f1_exactRatios_of_zero {tally : Tally} (none_true : tally.truePositives = 0) :
    (exactRatios tally).f1 = none := by
  simp only [exactRatios, ratios, ratio, harmonic, none_true, Nat.cast_zero, zero_div,
    Nat.zero_add]
  split <;> simp_all

/-- With a true positive, F1 is `2 tp / (2 tp + fp + fn)`. -/
theorem f1_exactRatios_of_pos {tally : Tally} (some_true : 1 ≤ tally.truePositives) :
    (exactRatios tally).f1 = some (2 * (tally.truePositives : ℚ) /
      (2 * tally.truePositives + tally.falsePositives + tally.falseNegatives)) := by
  -- both ratios are defined and above zero, so their sum is too
  have tpPos : (0 : ℚ) < tally.truePositives := by exact_mod_cast some_true
  have precisionDenominator : (0 : ℚ) < tally.truePositives + tally.falsePositives := by positivity
  have recallDenominator : (0 : ℚ) < tally.truePositives + tally.falseNegatives := by positivity
  have sumPos : (0 : ℚ) < tally.truePositives / (tally.truePositives + tally.falsePositives) +
      tally.truePositives / (tally.truePositives + tally.falseNegatives) := by positivity
  simp only [exactRatios, ratios, ratio, harmonic, Nat.cast_add,
    show tally.truePositives + tally.falsePositives ≠ 0 by omega,
    show tally.truePositives + tally.falseNegatives ≠ 0 by omega, if_false, beq_iff_eq,
    sumPos.ne', Option.some.injEq]
  field_simp
  ring

theorem harmonicCount_mem {truePositives falsePositives falseNegatives : ℕ}
    (some_true : 1 ≤ truePositives) :
    0 < (2 * truePositives / (2 * truePositives + falsePositives + falseNegatives) : ℚ) ∧
      (2 * truePositives / (2 * truePositives + falsePositives + falseNegatives) : ℚ) ≤ 1 := by
  have tpPos : (0 : ℚ) < truePositives := by exact_mod_cast some_true
  refine ⟨by positivity, ?_⟩
  rw [div_le_one (by positivity)]
  have : (0 : ℚ) ≤ falsePositives + falseNegatives := by positivity
  linarith

theorem exactRatios_of_only_true {count : ℕ} (some_true : 1 ≤ count) :
    exactRatios { truePositives := count } = ⟨some 1, some 1, some 1⟩ := by
  have countNe : (count : ℚ) ≠ 0 := Nat.cast_ne_zero.2 (by omega)
  simp [exactRatios, ratios, ratio, harmonic, countNe, show count ≠ 0 by omega]
  norm_num

end Score

/-- What the ratios of a tally are in exact arithmetic: precision and recall are the ratios of the
counts, undefined exactly for an empty denominator, and F1 is defined exactly when there is a
true positive, as `2 tp / (2 tp + fp + fn)`, in `(0, 1]`. -/
structure ExactRatios (tally : Tally) : Prop where
  precision_eq_none : (Score.exactRatios tally).precision = none ↔
    tally.truePositives + tally.falsePositives = 0
  precision_eq : ∀ p, (Score.exactRatios tally).precision = some p →
    p = (tally.truePositives : ℚ) / (tally.truePositives + tally.falsePositives)
  recall_eq_none : (Score.exactRatios tally).recall = none ↔
    tally.truePositives + tally.falseNegatives = 0
  recall_eq : ∀ r, (Score.exactRatios tally).recall = some r →
    r = (tally.truePositives : ℚ) / (tally.truePositives + tally.falseNegatives)
  f1_isSome : (Score.exactRatios tally).f1.isSome ↔ 1 ≤ tally.truePositives
  f1_eq : ∀ f1, (Score.exactRatios tally).f1 = some f1 →
    f1 = 2 * tally.truePositives /
      (2 * tally.truePositives + tally.falsePositives + tally.falseNegatives) ∧ 0 < f1 ∧ f1 ≤ 1

theorem exactRatios_of_tally (tally : Tally) : ExactRatios tally := by
  refine ⟨Score.ratio_eq_none_iff, fun p defined => ?_, Score.ratio_eq_none_iff,
    fun r defined => ?_, ?_, fun f1 defined => ?_⟩
  · rw [Score.ratio_eq_some defined, Nat.cast_add]
  · rw [Score.ratio_eq_some defined, Nat.cast_add]
  · by_cases some_true : 1 ≤ tally.truePositives
    · simp [Score.f1_exactRatios_of_pos some_true, some_true]
    · simp [Score.f1_exactRatios_of_zero (by omega : tally.truePositives = 0), some_true]
  · by_cases some_true : 1 ≤ tally.truePositives
    · rw [Score.f1_exactRatios_of_pos some_true, Option.some.injEq] at defined
      subst defined
      exact ⟨rfl, Score.harmonicCount_mem some_true⟩
    · rw [Score.f1_exactRatios_of_zero (by omega : tally.truePositives = 0)] at defined
      cases defined

/-- Scoring a list of judgements fails exactly when one is unclassified and not ignored, and the
error names the position of the first such judgement. Otherwise the tally counts the ignored
judgements apart and the others by verdict, so the four counts add up to the number of
judgements; the score rounds the ratios of its tally, computed in doubles; and in exact
arithmetic those ratios are precision `tp / (tp + fp)` and recall `tp / (tp + fn)`, each
undefined exactly for an empty denominator, and F1, defined exactly when there is a true
positive, `2 tp / (2 tp + fp + fn)` in `(0, 1]`. -/
theorem score_fails_at_first_unclassified_else_exact_ratios (judgements : List Judgement) :
    (∀ problem, Score.ofJudgements judgements = .error problem ↔
      ∃ before judgement after, judgements = before ++ judgement :: after ∧ Classified before ∧
        judgement.ignore = false ∧ judgement.verdict = .unclassified ∧
        problem = .unclassified before.length) ∧
    ∀ score, Score.ofJudgements judgements = .ok score →
      score = Score.ofTally score.tally ∧
      score.tally.ignored = judgements.countP (·.ignore) ∧
      score.tally.truePositives = scoredCount .truePositive judgements ∧
      score.tally.falsePositives = scoredCount .falsePositive judgements ∧
      score.tally.falseNegatives = scoredCount .falseNegative judgements ∧
      score.tally.truePositives + score.tally.falsePositives + score.tally.falseNegatives +
        score.tally.ignored = judgements.length ∧
      ExactRatios score.tally := by
  refine ⟨fun problem => ?_, fun score scored => ?_⟩
  · rw [Score.ofJudgements, Sheet.map_eq_error_iff, Tally.ofJudgements,
      Tally.countFrom_eq_error_iff]
    simp only [Nat.zero_add]
  · -- a score comes from a tally that counted every judgement
    cases counted : Tally.ofJudgements judgements with
    | error problem =>
        rw [Score.ofJudgements, counted] at scored
        cases scored
    | ok tally =>
        have classified := Tally.classified_of_countFrom_eq_ok counted
        have scoreIs : score = Score.ofTally tally := by
          rw [Score.ofJudgements, counted] at scored
          cases scored
          rfl
        have tallied := Score.tally_of_ofJudgements classified scored
        subst scoreIs
        refine ⟨rfl, ?_, ?_, ?_, ?_, ?_, exactRatios_of_tally _⟩
        all_goals rw [tallied]
        exact scored_add_ignored_eq_length classified

/-- A true positive, a false positive and an ignored false negative score one of each, with F1
`2 / 3`; an unclassified judgement after a true positive stops the score at position 1. -/
theorem score_fails_at_first_unclassified_else_exact_ratios_mixed :
    Score.ofJudgements [{ verdict := .truePositive }, { verdict := .falsePositive },
        { verdict := .falseNegative, ignore := true }] = .ok (Score.ofTally ⟨1, 1, 0, 1⟩) ∧
      (Score.exactRatios ⟨1, 1, 0, 1⟩).f1 = some (2 / 3) ∧
      Score.ofJudgements [{ verdict := .truePositive }, { verdict := .unclassified }] =
        .error (.unclassified 1) := by
  have scored : Score.ofJudgements [{ verdict := .truePositive }, { verdict := .falsePositive },
      { verdict := .falseNegative, ignore := true }] = .ok (Score.ofTally ⟨1, 1, 0, 1⟩) := by
    rw [Score.ofJudgements, show Tally.ofJudgements [{ verdict := .truePositive },
      { verdict := .falsePositive }, { verdict := .falseNegative, ignore := true }] =
        .ok ⟨1, 1, 0, 1⟩ by decide]
    rfl
  have exact := ((score_fails_at_first_unclassified_else_exact_ratios _).2 _ scored).2.2.2.2.2.2
  have f1Defined : (Score.exactRatios ⟨1, 1, 0, 1⟩).f1.isSome := exact.f1_isSome.2 (by decide)
  obtain ⟨f1, hasF1⟩ := Option.isSome_iff_exists.1 f1Defined
  have f1Value := (exact.f1_eq f1 hasF1).1
  norm_num [Score.tally_ofTally] at f1Value
  refine ⟨scored, by rw [hasF1, f1Value], ?_⟩
  exact ((score_fails_at_first_unclassified_else_exact_ratios _).1 _).2
    ⟨[{ verdict := .truePositive }], { verdict := .unclassified }, [], rfl,
      fun judgement member _ => by rw [List.mem_singleton.1 member]; decide, rfl, rfl, rfl⟩

end RefereeGrading
