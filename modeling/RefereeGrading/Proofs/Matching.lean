import RefereeGrading.Proofs.Alignment
import RefereeGrading.Proofs.Ratios

/-!
# What a match means

The aligner pairs two calls only when their codes agree and neither was issued too early for
the other, which for whole-number times reads as two plain bounds. Read the other way, the
tolerances are a window of admissible delay: a referee that repeats the human calls, moved by
one delay inside every window, matches them one by one.
-/

namespace RefereeGrading

namespace Event

theorem precedes_eq_false_iff (first second : Event) (tolerance : Int) :
    first.precedes second tolerance = false ↔
      second.stoppedAt - tolerance < 0 ∨ second.stoppedAt - tolerance ≤ first.issuedAt := by
  unfold precedes
  by_cases reached : 0 ≤ second.stoppedAt - tolerance
  · simp only [reached, decide_true, Bool.true_and, decide_eq_false_iff_not, Int.not_lt]
    omega
  · simp only [reached, decide_false, Bool.false_and, true_iff]
    omega

theorem sub_le_issuedAt_of_precedes_eq_false {first second : Event} {tolerance : Int}
    (notEarly : first.precedes second tolerance = false) (issuedNonneg : 0 ≤ first.issuedAt) :
    second.stoppedAt - tolerance ≤ first.issuedAt := by
  rcases (precedes_eq_false_iff first second tolerance).1 notEarly with negative | reached
  · omega
  · exact reached

/-- The call moved `delta` microseconds later, its STOP with it. -/
def delay (delta : Int) (event : Event) : Event :=
  { event with stoppedAt := event.stoppedAt + delta, issuedAt := event.issuedAt + delta }

@[simp]
theorem delay_zero (event : Event) : event.delay 0 = event := by
  simp [delay]

end Event

/-- A human call and an automatic call overlap: neither was issued too early for the other. -/
def Overlaps (tolerance : Tolerance) (human call : Event) : Prop :=
  human.precedes call tolerance.humanToAuto = false ∧
    call.precedes human tolerance.autoToHuman = false

/-- The delays by which a human call may be repeated and still match: from the second
tolerance before the call's own lead of its STOP, to the first tolerance after it. -/
def Tolerance.Admits (tolerance : Tolerance) (human : Event) (delta : Int) : Prop :=
  -tolerance.autoToHuman - (human.issuedAt - human.stoppedAt) ≤ delta ∧
    delta ≤ tolerance.humanToAuto + (human.issuedAt - human.stoppedAt)

theorem overlaps_delay {tolerance : Tolerance} {human : Event} {delta : Int}
    (admits : tolerance.Admits human delta) : Overlaps tolerance human (human.delay delta) := by
  obtain ⟨early, late⟩ := admits
  refine ⟨(Event.precedes_eq_false_iff _ _ _).2 ?_, (Event.precedes_eq_false_iff _ _ _).2 ?_⟩
  · simp only [Event.delay]
    omega
  · simp only [Event.delay]
    omega

/-! ## Matches pair overlapping calls of one code -/

namespace Alignment

variable (tolerance : Tolerance) (call : Event)

theorem matched_of_mem_place {humans : List Event} {judgement : Judgement}
    (member : judgement ∈ (place tolerance call humans).1)
    (truePositive : judgement.verdict = .truePositive) :
    ∃ human ∈ humans, judgement = Judgement.matched call human ∧
      Overlaps tolerance human call ∧ human.code = call.code := by
  fun_induction place tolerance call humans with
  | case1 =>
      simp only [List.mem_singleton] at member
      subst member
      cases truePositive
  | case2 human rest _ made left placed inductionHypothesis =>
      rcases List.mem_cons.1 member with rfl | later
      · cases truePositive
      · obtain ⟨matchedHuman, found, facts⟩ := inductionHypothesis (by simpa [placed] using later)
        exact ⟨matchedHuman, List.mem_cons_of_mem human found, facts⟩
  | case3 =>
      simp only [List.mem_singleton] at member
      subst member
      cases truePositive
  | case4 human rest humanEarly callEarly sameCode =>
      -- the branch that matches: both tests for "too early" failed and the codes agree
      simp only [List.mem_singleton] at member
      exact ⟨human, List.mem_cons_self, member,
        ⟨by simpa using humanEarly, by simpa using callEarly⟩, sameCode⟩
  | case5 human rest _ _ _ inductionHypothesis =>
      obtain ⟨matchedHuman, found, facts⟩ := inductionHypothesis member
      exact ⟨matchedHuman, List.mem_cons_of_mem human found, facts⟩

theorem mem_of_mem_place_left {humans : List Event} {human : Event}
    (member : human ∈ (place tolerance call humans).2) : human ∈ humans := by
  obtain ⟨labelled, split, -, -⟩ := place_labels tolerance call humans
  rw [split]
  exact List.mem_append_right _ member

/-- A call repeated within its window is matched at once with the open human call it repeats,
and that call is closed. -/
theorem place_delay {human : Event} {delta : Int} (admits : tolerance.Admits human delta)
    (rest : List Event) :
    place tolerance (human.delay delta) (human :: rest) =
      ([Judgement.matched (human.delay delta) human], rest) := by
  obtain ⟨humanLate, callLate⟩ := overlaps_delay admits
  rw [place, humanLate, callLate]
  simp [Event.delay]

end Alignment

/-- A true positive of an alignment pairs an automatic call with a human call of the same code
that it overlaps. -/
theorem matched_of_mem_align (tolerance : Tolerance) (flushTrailing : Bool)
    {humans calls : List Event} {judgement : Judgement}
    (member : judgement ∈ align tolerance flushTrailing humans calls)
    (truePositive : judgement.verdict = .truePositive) :
    ∃ call ∈ calls, ∃ human ∈ humans, judgement = Judgement.matched call human ∧
      Overlaps tolerance human call ∧ human.code = call.code := by
  -- induction on the automatic calls, the open human calls shrinking to a suffix
  induction calls generalizing humans with
  | nil =>
      rw [align_nil] at member
      split at member
      · obtain ⟨human, _, rfl⟩ := List.mem_map.1 member
        cases truePositive
      · cases member
  | cons call calls inductionHypothesis =>
      rw [align_cons] at member
      rcases List.mem_append.1 member with placed | later
      · obtain ⟨human, found, facts⟩ :=
          Alignment.matched_of_mem_place tolerance call placed truePositive
        exact ⟨call, List.mem_cons_self, human, found, facts⟩
      · obtain ⟨other, otherMember, human, found, facts⟩ := inductionHypothesis later
        exact ⟨other, List.mem_cons_of_mem call otherMember, human,
          Alignment.mem_of_mem_place_left tolerance call found, facts⟩

/-- Every true positive pairs an automatic call and a human call of the same code that overlap:
neither test for "too early" holds. For calls issued at times that are not negative, as decoded
times are, the overlap is two plain bounds in whole numbers, so no wrap-around pairs calls far
apart; in particular an automatic call issued at time zero with no STOP before it matches no
human call whose STOP lies beyond the second tolerance. -/
theorem align_matches_only_overlapping_calls (tolerance : Tolerance) (flushTrailing : Bool)
    (humans calls : List Event) :
    ∀ judgement ∈ align tolerance flushTrailing humans calls,
      judgement.verdict = .truePositive →
      ∃ call human, judgement.automatic = some call ∧ judgement.human = some human ∧
        call.code = human.code ∧
        human.precedes call tolerance.humanToAuto = false ∧
        call.precedes human tolerance.autoToHuman = false ∧
        (0 ≤ human.issuedAt → call.stoppedAt - tolerance.humanToAuto ≤ human.issuedAt) ∧
        (0 ≤ call.issuedAt → human.stoppedAt - tolerance.autoToHuman ≤ call.issuedAt) ∧
        (call.stoppedAt = 0 → call.issuedAt = 0 → human.stoppedAt ≤ tolerance.autoToHuman) := by
  intro judgement member truePositive
  obtain ⟨call, -, human, -, rfl, ⟨humanLate, callLate⟩, sameCode⟩ :=
    matched_of_mem_align tolerance flushTrailing member truePositive
  have humanBound := fun issuedNonneg =>
    Event.sub_le_issuedAt_of_precedes_eq_false humanLate issuedNonneg
  have callBound := fun issuedNonneg =>
    Event.sub_le_issuedAt_of_precedes_eq_false callLate issuedNonneg
  refine ⟨call, human, rfl, rfl, sameCode.symm, humanLate, callLate, humanBound, callBound, ?_⟩
  intro _ issuedZero
  have bound := callBound (by omega)
  omega

/-- A human goal at time 150 after a STOP at 100, repeated by an automatic referee at 160
after its STOP at 120. -/
theorem align_matches_only_overlapping_calls_goal :
    (Judgement.matched ⟨120, 160, 1, 15⟩ ⟨100, 150, 1, 15⟩) ∈
        align {} true [⟨100, 150, 1, 15⟩] [⟨120, 160, 1, 15⟩] ∧
      (Judgement.matched ⟨120, 160, 1, 15⟩ ⟨100, 150, 1, 15⟩).verdict = .truePositive ∧
      ∃ call human, (Judgement.matched ⟨120, 160, 1, 15⟩ ⟨100, 150, 1, 15⟩).automatic = some call ∧
        (Judgement.matched ⟨120, 160, 1, 15⟩ ⟨100, 150, 1, 15⟩).human = some human ∧
        call.code = human.code ∧
        human.precedes call (({} : Tolerance).humanToAuto) = false ∧
        call.precedes human (({} : Tolerance).autoToHuman) = false ∧
        (0 ≤ human.issuedAt → call.stoppedAt - ({} : Tolerance).humanToAuto ≤ human.issuedAt) ∧
        (0 ≤ call.issuedAt → human.stoppedAt - ({} : Tolerance).autoToHuman ≤ call.issuedAt) ∧
        (call.stoppedAt = 0 → call.issuedAt = 0 →
          human.stoppedAt ≤ ({} : Tolerance).autoToHuman) :=
  ⟨by decide, rfl, align_matches_only_overlapping_calls {} true [⟨100, 150, 1, 15⟩]
    [⟨120, 160, 1, 15⟩] _ (by decide) rfl⟩

/-! ## Repeated calls -/

/-- Calls that repeat the human calls, each moved by one delay inside its window, are matched
one by one with the calls they repeat, whether or not trailing human calls are flushed. -/
theorem align_delay_eq_map_matched (tolerance : Tolerance) (flushTrailing : Bool)
    {humans : List Event} {delta : Int} (admits : ∀ human ∈ humans, tolerance.Admits human delta) :
    align tolerance flushTrailing humans (humans.map (Event.delay delta)) =
      humans.map fun human => Judgement.matched (human.delay delta) human := by
  -- induction on the human calls: the cursor stands on call `i` when its repeat is judged
  induction humans with
  | nil =>
      rw [List.map_nil, align_nil]
      split <;> rfl
  | cons human rest inductionHypothesis =>
      rw [List.map_cons, align_cons,
        Alignment.place_delay tolerance (admits human List.mem_cons_self) rest,
        inductionHypothesis fun other member => admits other (List.mem_cons_of_mem human member)]
      rfl

theorem ofJudgements_map_matched (pairs : List (Event × Event)) :
    Score.ofJudgements (pairs.map fun pair => Judgement.matched pair.1 pair.2) =
      .ok (Score.ofTally { truePositives := pairs.length }) := by
  have classified : Classified (pairs.map fun pair => Judgement.matched pair.1 pair.2) := by
    intro judgement member _
    obtain ⟨pair, -, rfl⟩ := List.mem_map.1 member
    simp [Judgement.matched]
  have counted : ∀ verdict, scoredCount verdict
      (pairs.map fun pair => Judgement.matched pair.1 pair.2) =
        if verdict = .truePositive then pairs.length else 0 := by
    intro verdict
    by_cases truePositive : verdict = .truePositive
    · subst truePositive
      simp [scoredCount, Judgement.matched, List.countP_map, Function.comp_def]
    · simp only [scoredCount, List.countP_map, Function.comp_def, Judgement.matched,
        if_neg truePositive]
      exact List.countP_eq_zero.2 fun _ _ => by simpa using Ne.symm truePositive
  have noneIgnored : (pairs.map fun pair => Judgement.matched pair.1 pair.2).countP (·.ignore) =
      0 := by
    simp [List.countP_map, Function.comp_def, Judgement.matched]
  rw [Score.ofJudgements, Tally.ofJudgements_eq_ok classified, counted, counted, counted,
    noneIgnored]
  rfl

/-- A referee that repeats the human calls, each moved by one delay inside every call's window,
matches them one by one: the alignment is one true positive per human call, in order, with either
flush setting. In particular, with both tolerances at least zero and every call issued no earlier
than its STOP, a referee that repeats the human calls exactly is scored as matching every one of
them and making no false call, missing none and having none ignored, so that for at least one
call precision, recall and F1 are all one. -/
theorem align_repeated_calls_match_one_by_one (tolerance : Tolerance) (flushTrailing : Bool)
    (humans : List Event) :
    (∀ delta : Int, (∀ human ∈ humans,
        -tolerance.autoToHuman - (human.issuedAt - human.stoppedAt) ≤ delta ∧
          delta ≤ tolerance.humanToAuto + (human.issuedAt - human.stoppedAt)) →
      align tolerance flushTrailing humans (humans.map (Event.delay delta)) =
        humans.map fun human => Judgement.matched (human.delay delta) human) ∧
    (0 ≤ tolerance.humanToAuto → 0 ≤ tolerance.autoToHuman →
      (∀ human ∈ humans, human.stoppedAt ≤ human.issuedAt) →
      Score.ofJudgements (align tolerance flushTrailing humans humans) =
        .ok (Score.ofTally { truePositives := humans.length }) ∧
      (humans ≠ [] →
        Score.exactRatios { truePositives := humans.length } = ⟨some 1, some 1, some 1⟩)) := by
  refine ⟨fun delta admits => align_delay_eq_map_matched tolerance flushTrailing admits, ?_⟩
  intro earlyNonneg lateNonneg issuedAfterStop
  -- repeating exactly is the delay zero, which every call's window admits
  have admits : ∀ human ∈ humans, tolerance.Admits human 0 := by
    intro human member
    have after := issuedAfterStop human member
    exact ⟨by omega, by omega⟩
  have unmoved : humans.map (Event.delay 0) = humans := List.map_id'' Event.delay_zero humans
  have repeated := align_delay_eq_map_matched tolerance flushTrailing admits
  rw [unmoved] at repeated
  simp only [Event.delay_zero] at repeated
  have pairs : (humans.map fun human => Judgement.matched human human) =
      (humans.map fun human => (human, human)).map fun pair => Judgement.matched pair.1 pair.2 := by
    simp [Function.comp_def]
  refine ⟨by rw [repeated, pairs, ofJudgements_map_matched, List.length_map], fun nonempty => ?_⟩
  exact Score.exactRatios_of_only_true (List.length_pos_iff.2 nonempty)

/-- Two human calls repeated five microseconds late under the default tolerances. -/
theorem align_repeated_calls_match_one_by_one_late :
    (∀ human ∈ [(⟨100, 150, 1, 8⟩ : Event), ⟨300, 320, 2, 14⟩],
        -({} : Tolerance).autoToHuman - (human.issuedAt - human.stoppedAt) ≤ 5 ∧
          5 ≤ ({} : Tolerance).humanToAuto + (human.issuedAt - human.stoppedAt)) ∧
      align {} true [⟨100, 150, 1, 8⟩, ⟨300, 320, 2, 14⟩]
          ([(⟨100, 150, 1, 8⟩ : Event), ⟨300, 320, 2, 14⟩].map (Event.delay 5)) =
        [(⟨100, 150, 1, 8⟩ : Event), ⟨300, 320, 2, 14⟩].map (fun human =>
          Judgement.matched (human.delay 5) human) ∧
      Score.ofJudgements
          (align {} true [⟨100, 150, 1, 8⟩, ⟨300, 320, 2, 14⟩] [⟨100, 150, 1, 8⟩, ⟨300, 320, 2, 14⟩]) =
        .ok (Score.ofTally { truePositives := 2 }) ∧
      Score.exactRatios { truePositives := 2 } = ⟨some 1, some 1, some 1⟩ :=
  have window : ∀ human ∈ [(⟨100, 150, 1, 8⟩ : Event), ⟨300, 320, 2, 14⟩],
      -({} : Tolerance).autoToHuman - (human.issuedAt - human.stoppedAt) ≤ 5 ∧
        5 ≤ ({} : Tolerance).humanToAuto + (human.issuedAt - human.stoppedAt) := by decide
  have exact := (align_repeated_calls_match_one_by_one {} true
    [⟨100, 150, 1, 8⟩, ⟨300, 320, 2, 14⟩]).2 (by decide) (by decide) (by decide)
  ⟨window, (align_repeated_calls_match_one_by_one {} true _).1 5 window, exact.1,
    exact.2 (List.cons_ne_nil _ _)⟩

end RefereeGrading
