import RefereeGrading.Alignment

/-!
# What an alignment reports

An alignment accounts for every automatic call once and in order, and reports each human call
at most once and in order. With the flush, a human call no judgement reports was passed over
by a clash with an automatic call, and the flush only appends the calls from the final
cursor on. The proofs follow the two recursions of the aligner, `place` and `align`.
-/

namespace RefereeGrading

/-! ## Views of a list of judgements -/

/-- The automatic calls a list of judgements carries, in order. -/
def automaticCalls (judgements : List Judgement) : List Event :=
  judgements.filterMap (·.automatic)

/-- The human calls a list of judgements carries, in order. -/
def humanCalls (judgements : List Judgement) : List Event :=
  judgements.filterMap (·.human)

/-- How many judgements of a list have a given verdict. -/
def verdictCount (verdict : Verdict) (judgements : List Judgement) : Nat :=
  judgements.countP (·.verdict = verdict)

@[simp]
theorem automaticCalls_append (first second : List Judgement) :
    automaticCalls (first ++ second) =
      automaticCalls first ++ automaticCalls second := by
  simp [automaticCalls]

@[simp]
theorem humanCalls_append (first second : List Judgement) :
    humanCalls (first ++ second) = humanCalls first ++ humanCalls second := by
  simp [humanCalls]

/-- The three shapes of judgement an alignment makes. None is unclassified and none is
ignored. -/
inductive Judgement.Aligned : Judgement → Prop
  /-- A true positive carries the automatic call and the human call it matched. -/
  | matched (automatic human : Event) :
      Aligned { verdict := .truePositive, automatic := some automatic,
                human := some human, ignore := false }
  /-- A false positive carries the automatic call only. -/
  | unmatched (automatic : Event) :
      Aligned { verdict := .falsePositive, automatic := some automatic, human := none,
                ignore := false }
  /-- A false negative carries the human call only. -/
  | missed (human : Event) :
      Aligned { verdict := .falseNegative, automatic := none, human := some human,
                ignore := false }

section Counting

variable {judgements : List Judgement}

theorem length_automaticCalls_of_aligned
    (aligned : ∀ judgement ∈ judgements, judgement.Aligned) :
    (automaticCalls judgements).length =
      verdictCount .truePositive judgements +
        verdictCount .falsePositive judgements := by
  induction judgements with
  | nil =>
      rfl
  | cons judgement rest inductionHypothesis =>
      have restCount := inductionHypothesis fun other member =>
        aligned other (List.mem_cons_of_mem judgement member)
      cases aligned judgement List.mem_cons_self <;>
        simp [automaticCalls, verdictCount] at restCount ⊢ <;>
        omega

theorem length_humanCalls_of_aligned
    (aligned : ∀ judgement ∈ judgements, judgement.Aligned) :
    (humanCalls judgements).length =
      verdictCount .truePositive judgements +
        verdictCount .falseNegative judgements := by
  induction judgements with
  | nil =>
      rfl
  | cons judgement rest inductionHypothesis =>
      have restCount := inductionHypothesis fun other member =>
        aligned other (List.mem_cons_of_mem judgement member)
      cases aligned judgement List.mem_cons_self <;>
        simp [humanCalls, verdictCount] at restCount ⊢ <;>
        omega

end Counting

/-- A human call and an automatic call overlap for different commands: neither was issued
too early for the other, and their codes differ. The aligner passes such a human call over
without a judgement. -/
def Clashes (tolerance : Tolerance) (human call : Event) : Prop :=
  human.precedes call tolerance.humanToAuto = false ∧
    call.precedes human tolerance.autoToHuman = false ∧ human.code ≠ call.code

/-! ## Judging one automatic call -/

namespace Alignment

variable (tolerance : Tolerance) (call : Event)

theorem aligned_of_mem_place {humans : List Event} {judgement : Judgement}
    (member : judgement ∈ (place tolerance call humans).1) : judgement.Aligned := by
  fun_induction place tolerance call humans with
  | case1 =>
      simp only [List.mem_singleton] at member
      subst member
      exact .unmatched call
  | case2 human rest _ made left placed inductionHypothesis =>
      rcases List.mem_cons.1 member with first | later
      · subst first
        exact .missed human
      · exact inductionHypothesis (by simpa [placed] using later)
  | case3 =>
      simp only [List.mem_singleton] at member
      subst member
      exact .unmatched call
  | case4 human =>
      simp only [List.mem_singleton] at member
      subst member
      exact .matched call human
  | case5 _ _ _ _ _ inductionHypothesis =>
      exact inductionHypothesis member

/-- One automatic call is judged exactly once. -/
@[simp]
theorem automaticCalls_place (humans : List Event) :
    automaticCalls (place tolerance call humans).1 = [call] := by
  fun_induction place tolerance call humans with
  | case2 _ _ _ _ _ placed inductionHypothesis =>
      simpa [automaticCalls, Judgement.missed, placed] using inductionHypothesis
  | case5 _ _ _ _ _ inductionHypothesis =>
      exact inductionHypothesis
  | _ =>
      rfl

/-- Judging one automatic call consumes a prefix of the open human calls, the rest staying
open. Each consumed human call is labelled: reported by a judgement (`true`) or passed over
by a clash with the automatic call (`false`). -/
theorem place_labels (humans : List Event) :
    ∃ labelled : List (Event × Bool),
      humans = labelled.map Prod.fst ++ (place tolerance call humans).2 ∧
      humanCalls (place tolerance call humans).1 =
        (labelled.filter (·.2)).map Prod.fst ∧
      ∀ entry ∈ labelled, entry.2 = false → Clashes tolerance entry.1 call := by
  fun_induction place tolerance call humans with
  | case1 =>
      exact ⟨[], by simp [humanCalls, Judgement.unmatched]⟩
  | case2 human rest _ made left placed inductionHypothesis =>
      obtain ⟨labelled, split, reported, passed⟩ := inductionHypothesis
      refine ⟨(human, true) :: labelled, ?_, ?_, ?_⟩
      · simpa [placed] using split
      · simpa [humanCalls, Judgement.missed, placed] using reported
      · simpa using passed
  | case3 human rest =>
      exact ⟨[], by simp [humanCalls, Judgement.unmatched]⟩
  | case4 human rest =>
      exact ⟨[(human, true)], by simp [humanCalls, Judgement.matched]⟩
  | case5 human rest humanEarly callEarly differentCode inductionHypothesis =>
      -- the only branch that consumes a human call without reporting it
      obtain ⟨labelled, split, reported, passed⟩ := inductionHypothesis
      refine ⟨(human, false) :: labelled, by simpa using split, by simpa using reported, ?_⟩
      intro entry member unreported
      rcases List.mem_cons.1 member with first | later
      · subst first
        exact ⟨by simpa using humanEarly, by simpa using callEarly, differentCode⟩
      · exact passed entry later unreported

end Alignment

/-! ## Aligning every automatic call -/

section Run

variable (tolerance : Tolerance) (flushTrailing : Bool)

theorem align_nil (humans : List Event) :
    align tolerance flushTrailing humans [] =
      if flushTrailing then humans.map Judgement.missed else [] :=
  rfl

theorem align_cons (humans : List Event) (call : Event) (calls : List Event) :
    align tolerance flushTrailing humans (call :: calls) =
      (Alignment.place tolerance call humans).1 ++
        align tolerance flushTrailing (Alignment.place tolerance call humans).2 calls :=
  rfl

theorem aligned_of_mem_align {humans calls : List Event} {judgement : Judgement}
    (member : judgement ∈ align tolerance flushTrailing humans calls) :
    judgement.Aligned := by
  induction calls generalizing humans with
  | nil =>
      rw [align_nil] at member
      split at member
      · obtain ⟨human, _, rfl⟩ := List.mem_map.1 member
        exact .missed human
      · simp at member
  | cons call calls inductionHypothesis =>
      rw [align_cons] at member
      rcases List.mem_append.1 member with placed | later
      · exact Alignment.aligned_of_mem_place tolerance call placed
      · exact inductionHypothesis later

theorem automaticCalls_align (humans calls : List Event) :
    automaticCalls (align tolerance flushTrailing humans calls) = calls := by
  induction calls generalizing humans with
  | nil =>
      rw [align_nil]
      split <;> simp [automaticCalls, Judgement.missed]
  | cons call calls inductionHypothesis =>
      simp [align_cons, inductionHypothesis]

/-- The human calls, in order, each labelled: reported by a judgement of the alignment
(`true`), or not. A human call that is not reported clashed with some automatic call, unless
the calls left at the end are not flushed. -/
theorem align_labels (humans calls : List Event) :
    ∃ labelled : List (Event × Bool),
      labelled.map Prod.fst = humans ∧
      humanCalls (align tolerance flushTrailing humans calls) =
        (labelled.filter (·.2)).map Prod.fst ∧
      ∀ entry ∈ labelled, entry.2 = false →
        flushTrailing = false ∨ ∃ call ∈ calls, Clashes tolerance entry.1 call := by
  induction calls generalizing humans with
  | nil =>
      refine ⟨humans.map fun human => (human, flushTrailing), by simp [Function.comp_def],
        ?_, ?_⟩
      · cases flushTrailing with
        | false =>
            simp [align_nil, humanCalls, List.filter_map, Function.comp_def]
        | true =>
            have everyOne : humans.filter (fun _ => true) = humans :=
              List.filter_eq_self.2 fun _ _ => rfl
            simp [align_nil, humanCalls, Judgement.missed, List.filterMap_map, List.filter_map,
              Function.comp_def, everyOne]
      · intro entry member unreported
        obtain ⟨_, _, rfl⟩ := List.mem_map.1 member
        exact .inl unreported
  | cons call calls inductionHypothesis =>
      obtain ⟨consumed, split, reported, passed⟩ :=
        Alignment.place_labels tolerance call humans
      obtain ⟨later, laterHumans, laterReported, laterPassed⟩ :=
        inductionHypothesis (Alignment.place tolerance call humans).2
      refine ⟨consumed ++ later, ?_, ?_, ?_⟩
      · rw [List.map_append, laterHumans]
        exact split.symm
      · simp [align_cons, reported, laterReported]
      · intro entry member unreported
        rcases List.mem_append.1 member with here | there
        · exact .inr ⟨call, List.mem_cons_self, passed entry here unreported⟩
        · rcases laterPassed entry there unreported with unflushed | ⟨other, otherMember, clash⟩
          · exact .inl unflushed
          · exact .inr ⟨other, List.mem_cons_of_mem call otherMember, clash⟩

/-- The human calls an alignment reports are a sublist of the human calls: each is reported
at most once, and in order. -/
theorem humanCalls_align_sublist (humans calls : List Event) :
    (humanCalls (align tolerance flushTrailing humans calls)).Sublist humans := by
  obtain ⟨labelled, labelledHumans, reported, _⟩ := align_labels tolerance flushTrailing humans calls
  rw [reported, ← labelledHumans]
  exact List.filter_sublist.map Prod.fst

end Run

/-! ## The alignment accounts for every call -/

/-- Every judgement of an alignment is a match, an unmatched automatic call or a missed human
call, none ignored; the automatic calls they carry are exactly the automatic calls, in order;
the human calls they carry are a sublist of the human calls. So the true and false positives
together number the automatic calls, and the true positives and false negatives together
number at most the human calls. -/
theorem align_accounts_for_every_call (tolerance : Tolerance) (flushTrailing : Bool)
    (humans calls : List Event) :
    let judgements := align tolerance flushTrailing humans calls
    (∀ judgement ∈ judgements, judgement.Aligned) ∧
      automaticCalls judgements = calls ∧
      (humanCalls judgements).Sublist humans ∧
      verdictCount .truePositive judgements + verdictCount .falsePositive judgements =
        calls.length ∧
      verdictCount .truePositive judgements + verdictCount .falseNegative judgements ≤
        humans.length := by
  intro judgements
  have aligned : ∀ judgement ∈ judgements, judgement.Aligned := fun _ member =>
    aligned_of_mem_align tolerance flushTrailing member
  have automatic := automaticCalls_align tolerance flushTrailing humans calls
  have human := humanCalls_align_sublist tolerance flushTrailing humans calls
  refine ⟨aligned, automatic, human, ?_, ?_⟩
  · rw [← length_automaticCalls_of_aligned aligned]
    exact congrArg List.length automatic
  · rw [← length_humanCalls_of_aligned aligned]
    exact human.length_le

/-- With the trailing human calls flushed, label each human call by whether a judgement
reports it: the reported ones are the human calls the judgements carry, in order, and every
one not reported overlapped some automatic call for a different command. So the human calls
number the true positives, the false negatives and the calls passed over. -/
theorem align_unreported_human_call_clashes (tolerance : Tolerance)
    (humans calls : List Event) :
    let judgements := align tolerance true humans calls
    ∃ labelled : List (Event × Bool),
      labelled.map Prod.fst = humans ∧
      humanCalls judgements = (labelled.filter (·.2)).map Prod.fst ∧
      (∀ entry ∈ labelled, entry.2 = false →
        ∃ call ∈ calls, Clashes tolerance entry.1 call) ∧
      humans.length =
        verdictCount .truePositive judgements + verdictCount .falseNegative judgements +
          labelled.countP fun entry => !entry.2 := by
  intro judgements
  obtain ⟨labelled, labelledHumans, reported, passed⟩ :=
    align_labels tolerance true humans calls
  have clashes : ∀ entry ∈ labelled, entry.2 = false →
      ∃ call ∈ calls, Clashes tolerance entry.1 call := by
    intro entry member unreported
    simpa using passed entry member unreported
  have counted : (humanCalls judgements).length = labelled.countP (·.2) := by
    rw [reported, List.length_map, List.countP_eq_length_filter]
  refine ⟨labelled, labelledHumans, reported, clashes, ?_⟩
  rw [← length_humanCalls_of_aligned fun _ member =>
    aligned_of_mem_align tolerance true member, counted, ← labelledHumans, List.length_map]
  have complement : labelled.length =
      labelled.countP (·.2) + labelled.countP fun entry => ¬entry.2 :=
    List.length_eq_countP_add_countP _
  simpa using complement

/- A human goal under way when an automatic referee calls a free kick: the two overlap, so the
human call is passed over and the automatic call stays unmatched. -/
example :
    align {} true [⟨100, 101, 0, 15⟩] [⟨90, 95, 0, 8⟩] = [Judgement.unmatched ⟨90, 95, 0, 8⟩] := by
  decide

/-! ## Flushing the calls left open -/

namespace Alignment

/-- The human calls still open once every automatic call is judged: the calls from the final
cursor on. -/
def leftOpen (tolerance : Tolerance) : List Event → List Event → List Event
  | humans, [] => humans
  | humans, call :: calls => leftOpen tolerance (place tolerance call humans).2 calls

theorem place_consumes_prefix (tolerance : Tolerance) (call : Event) (humans : List Event) :
    ∃ consumed, humans = consumed ++ (place tolerance call humans).2 ∧
      (humanCalls (place tolerance call humans).1).Sublist consumed := by
  obtain ⟨labelled, split, reported, -⟩ := place_labels tolerance call humans
  refine ⟨labelled.map Prod.fst, split, ?_⟩
  rw [reported]
  exact List.filter_sublist.map Prod.fst

end Alignment

section Flush

variable (tolerance : Tolerance)

/-- The flush adds the missed calls left open after the judgements of the alignment that keeps
them out. -/
theorem align_true_eq_append_missed (humans calls : List Event) :
    align tolerance true humans calls =
      align tolerance false humans calls ++
        (Alignment.leftOpen tolerance humans calls).map Judgement.missed := by
  induction calls generalizing humans with
  | nil =>
      simp [align_nil, Alignment.leftOpen]
  | cons call calls inductionHypothesis =>
      rw [align_cons, align_cons, inductionHypothesis, List.append_assoc]
      rfl

theorem align_consumes_prefix (humans calls : List Event) :
    ∃ consumed, humans = consumed ++ Alignment.leftOpen tolerance humans calls ∧
      (humanCalls (align tolerance false humans calls)).Sublist consumed := by
  induction calls generalizing humans with
  | nil =>
      exact ⟨[], rfl, by simp [align_nil, humanCalls]⟩
  | cons call calls inductionHypothesis =>
      obtain ⟨first, split, reported⟩ := Alignment.place_consumes_prefix tolerance call humans
      obtain ⟨later, laterSplit, laterReported⟩ :=
        inductionHypothesis (Alignment.place tolerance call humans).2
      refine ⟨first ++ later, ?_, ?_⟩
      · rw [List.append_assoc, Alignment.leftOpen, ← laterSplit]
        exact split
      · rw [align_cons, humanCalls_append]
        exact reported.append laterReported

/-- Flushing the trailing human calls only appends them as missed: there is a final cursor such
that the flushed alignment is the unflushed one followed by a false negative for each human
call from the cursor on, and the unflushed alignment reports only human calls before the
cursor. So the flush changes no true or false positive. -/
theorem align_flush_appends_trailing_missed (humans calls : List Event) :
    ∃ cursor ≤ humans.length,
      align tolerance true humans calls =
        align tolerance false humans calls ++ (humans.drop cursor).map Judgement.missed ∧
      (humanCalls (align tolerance false humans calls)).Sublist (humans.take cursor) := by
  obtain ⟨consumed, split, reported⟩ := align_consumes_prefix tolerance humans calls
  have passed : humans.take consumed.length = consumed := by
    have taken := congrArg (List.take consumed.length) split
    rwa [List.take_left] at taken
  have open_ : humans.drop consumed.length = Alignment.leftOpen tolerance humans calls := by
    have dropped := congrArg (List.drop consumed.length) split
    rwa [List.drop_left] at dropped
  have within : consumed.length ≤ humans.length := by
    rw [← passed]
    exact List.length_take_le' _ _
  refine ⟨consumed.length, within, ?_, ?_⟩
  · rw [open_]
    exact align_true_eq_append_missed tolerance humans calls
  · rw [passed]
    exact reported

end Flush

end RefereeGrading
