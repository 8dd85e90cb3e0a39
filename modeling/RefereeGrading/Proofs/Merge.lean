import RefereeGrading.Proofs.Sheet

/-!
# What merging a correction sheet can do

The judgements a merge gives are the fresh ones, each with an ignore flag; verdicts and calls
never change. This rests on a call read from a sheet never being written as four zeros. Merging
fails only on a sheet with a field longer than whole-number reading converts.
-/

namespace RefereeGrading

namespace Sheet

/-! ## Calls that their fields tell apart from no call -/

/-- A call that is absent whenever its fields are four zeros, the fields of no call. -/
def FaithfulCall (call : Option Event) : Prop :=
  callFields call = [0, 0, 0, 0] → call = none

/-- A judgement whose calls their fields tell apart from no call. -/
def Faithful (judgement : Judgement) : Prop :=
  FaithfulCall judgement.automatic ∧ FaithfulCall judgement.human

theorem faithfulCall_callOfFields (a1 a2 a3 a4 : Nat) :
    FaithfulCall (callOfFields a1 a2 a3 a4) := by
  intro zeros
  unfold callOfFields at zeros ⊢
  split
  · rfl
  · rename_i notZero
    rw [if_neg notZero] at zeros
    simp only [callFields, List.cons.injEq, and_true] at zeros
    simp only [Bool.and_eq_true, decide_eq_true_eq] at notZero
    omega

theorem faithful_of_writable {judgement : Judgement}
    (writable : ∀ call ∈ judgement.calls, Writable call) : Faithful judgement := by
  have callFaithful : ∀ call : Option Event, (∀ event ∈ call.toList, Writable event) →
      FaithfulCall call := by
    intro call writableCall zeros
    cases call with
    | none => rfl
    | some event => exact absurd zeros (writableCall event (by simp)).2
  exact ⟨callFaithful _ fun event member => writable event (by simp [Judgement.calls, member]),
    callFaithful _ fun event member => writable event (by simp [Judgement.calls, member])⟩

theorem eq_of_callFields_eq {first second : Option Event} (firstFaithful : FaithfulCall first)
    (secondFaithful : FaithfulCall second) (same : callFields first = callFields second) :
    first = second := by
  cases first with
  | none =>
      exact (secondFaithful same.symm).symm
  | some call =>
      cases second with
      | none =>
          exact firstFaithful same
      | some other =>
          simp only [callFields, List.cons.injEq, and_true] at same
          obtain ⟨stopped, issued, counter, code⟩ := same
          cases call
          cases other
          simp_all

theorem eq_of_sameOutcome {fresh loaded : Judgement} (freshFaithful : Faithful fresh)
    (loadedFaithful : Faithful loaded) (same : sameOutcome loaded fresh = true) :
    { fresh with ignore := loaded.ignore } = loaded := by
  simp only [sameOutcome, Bool.and_eq_true, decide_eq_true_eq] at same
  obtain ⟨⟨verdict, automatic⟩, human⟩ := same
  have automaticSame :=
    eq_of_callFields_eq loadedFaithful.1 freshFaithful.1 automatic
  have humanSame := eq_of_callFields_eq loadedFaithful.2 freshFaithful.2 human
  cases loaded
  simp_all

/-! ## Reading lines and records -/

/-- What a line that reads as a judgement holds: eleven fields, namely an index, the judgement's
verdict tag, its ignore flag and eight call fields, where the index and the call fields are
unsigned and within the digit limit, the index is the one expected, and the judgement's calls
are read from the call fields. -/
theorem parseLine_eq_ok {text : List Nat} {expected : Int} {judgement : Judgement}
    (parsed : parseLine text expected = .ok judgement) :
    ∃ index a1 a2 a3 a4 h1 h2 h3 h4,
      Text.pointFields text = [index, Text.pointsOf judgement.verdict.tag,
        Text.pointsOf (if judgement.ignore then "1" else "0"), a1, a2, a3, a4, h1, h2, h3, h4] ∧
      (∀ field ∈ [index, a1, a2, a3, a4, h1, h2, h3, h4],
        isUnsigned field = true ∧ field.length ≤ Text.digitLimit) ∧
      (unsignedValue index : Int) = expected ∧
      judgement.automatic = callOfFields (unsignedValue a1) (unsignedValue a2) (unsignedValue a3)
        (unsignedValue a4) ∧
      judgement.human = callOfFields (unsignedValue h1) (unsignedValue h2) (unsignedValue h3)
        (unsignedValue h4) := by
  unfold parseLine at parsed
  split at parsed
  · rename_i index tag flag a1 a2 a3 a4 h1 h2 h3 h4 cut
    simp only [bind, Except.bind, pure, Except.pure] at parsed
    -- each check either throws or passes on to the next; only the last one returns
    split at parsed
    · cases parsed
    rename_i noneBad
    split at parsed
    · cases parsed
    rename_i verdict named
    split at parsed
    · cases parsed
    rename_i checked
    split at parsed
    · cases parsed
    rename_i indexed
    split at parsed
    · cases parsed
    rename_i flagged
    cases parsed
    have flagBack : Text.pointsOf (if decide (flag = [0x31]) = true then "1" else "0") = flag := by
      by_cases one : flag = [0x31]
      · rw [one]
        rfl
      · have zero : flag = [0x30] := by
          simp only [Bool.and_eq_true, decide_eq_true_eq, not_and, not_not] at flagged
          exact Classical.byContradiction fun notZero => one (flagged notZero)
        rw [zero]
        rfl
    refine ⟨index, a1, a2, a3, a4, h1, h2, h3, h4, ?_, ?_, not_not.1 indexed, rfl, rfl⟩
    · rw [cut, ← tag_of_parse (eq_ok_of_mapError named), flagBack]
    · intro field member
      have digits := List.find?_eq_none.1 noneBad field member
      simp only [Bool.not_eq_true', Bool.not_eq_false] at digits
      exact ⟨digits, forM_check_eq_ok_iff.1 checked field member⟩
  · cases parsed

theorem faithful_of_parseLine {text : List Nat} {expected : Int} {judgement : Judgement}
    (parsed : parseLine text expected = .ok judgement) : Faithful judgement := by
  obtain ⟨-, a1, a2, a3, a4, h1, h2, h3, h4, -, -, -, automatic, human⟩ := parseLine_eq_ok parsed
  rw [Faithful, automatic, human]
  exact ⟨faithfulCall_callOfFields _ _ _ _, faithfulCall_callOfFields _ _ _ _⟩

/-- A field longer than the digits whole-number reading converts. -/
def LongField (points : List Nat) : Prop :=
  ∃ field ∈ Text.pointFields points, Text.digitLimit < field.length

theorem forM_check_eq_error {fields : List (List Nat)} {problem : Text.DigitOverflow}
    (checked : (fields.forM fun field =>
      (Text.DigitOverflow.check field.length).mapError SheetFault.overflow) =
        .error (.overflow problem)) :
    ∃ field ∈ fields, Text.digitLimit < field.length := by
  by_contra short
  simp only [not_exists, not_and, Nat.not_lt] at short
  rw [forM_check_eq_ok_iff.2 short] at checked
  cases checked

theorem mem_record_of_mem_numbers {index tag flag field : List Nat} {numbers : List (List Nat)}
    (member : field ∈ index :: numbers) : field ∈ index :: tag :: flag :: numbers := by
  rcases List.mem_cons.1 member with rfl | later
  · exact List.mem_cons_self
  · exact List.mem_cons_of_mem _ (List.mem_cons_of_mem _ (List.mem_cons_of_mem _ later))

theorem longField_of_parseLine {text : List Nat} {expected : Int} {problem : Text.DigitOverflow}
    (parsed : parseLine text expected = .error (.overflow problem)) : LongField text := by
  unfold parseLine at parsed
  split at parsed
  · rename_i index tag flag a1 a2 a3 a4 h1 h2 h3 h4 cut
    simp only [bind, Except.bind, pure, Except.pure] at parsed
    split at parsed
    · cases parsed
    · split at parsed
      · -- a tag that names no verdict is refused, not overflowed
        rename_i refusal named
        cases parsed
        cases verdict : Verdict.parse tag <;> simp [verdict] at named
      · split at parsed
        · rename_i fault checked
          cases parsed
          obtain ⟨field, member, long⟩ := forM_check_eq_error checked
          refine ⟨field, ?_, long⟩
          rw [cut]
          exact mem_record_of_mem_numbers member
        · split at parsed
          · cases parsed
          · split at parsed
            · cases parsed
            · cases parsed
  · cases parsed

/-- The judgements a sheet's records read as, fresh judgement by fresh judgement: each fresh
one with the ignore flag of its record. -/
def Reflagged (fresh loaded : List Judgement) : Prop :=
  List.Forall₂ (fun fresh loaded => { fresh with ignore := loaded.ignore } = loaded) fresh loaded

theorem readRecords_cons_eq_ok {path : List Nat} {position : Nat} {text : String}
    {texts : List String} {first : Judgement} {rest loaded : List Judgement}
    (read : readRecords path position (text :: texts) (first :: rest) = .ok loaded) :
    ∃ judgement others, parseLine (Text.pointsOf text) position = .ok judgement ∧
      sameOutcome judgement first = true ∧
      readRecords path (position + 1) texts rest = .ok others ∧ loaded = judgement :: others := by
  cases parsed : parseLine (Text.pointsOf text) position with
  | error fault =>
      simp [readRecords, parsed] at read
  | ok judgement =>
  cases agreed : sameOutcome judgement first with
  | false =>
      simp [readRecords, parsed, agreed] at read
      cases read
  | true =>
  cases others : readRecords path (position + 1) texts rest with
  | error fault =>
      simp [readRecords, parsed, agreed, others] at read
  | ok more =>
      simp only [readRecords, parsed, agreed, others, ok_bind, Bool.not_true] at read
      cases read
      exact ⟨judgement, more, rfl, agreed, rfl, rfl⟩

theorem readRecords_reflagged {path : List Nat} {position : Nat} {texts : List String}
    {fresh loaded : List Judgement} (faithful : ∀ judgement ∈ fresh, Faithful judgement)
    (counted : texts.length = fresh.length)
    (read : readRecords path position texts fresh = .ok loaded) : Reflagged fresh loaded := by
  induction texts generalizing position fresh loaded with
  | nil =>
      obtain rfl : fresh = [] := List.length_eq_zero_iff.1 counted.symm
      cases read
      exact .nil
  | cons text texts inductionHypothesis =>
      obtain ⟨first, rest, rfl⟩ := List.exists_cons_of_length_eq_add_one counted.symm
      obtain ⟨judgement, others, parsed, agreed, later, rfl⟩ := readRecords_cons_eq_ok read
      refine .cons ?_ (inductionHypothesis
        (fun other member => faithful other (List.mem_cons_of_mem first member))
        (Nat.succ.inj counted) later)
      exact eq_of_sameOutcome (faithful first List.mem_cons_self)
        (faithful_of_parseLine parsed) agreed

theorem readRecords_eq_overflow {path : List Nat} {position : Nat} {texts : List String}
    {fresh : List Judgement} {problem : Text.DigitOverflow}
    (read : readRecords path position texts fresh = .error (.overflow problem)) :
    ∃ text ∈ texts, LongField (Text.pointsOf text) := by
  induction texts generalizing position fresh with
  | nil =>
      cases read
  | cons text texts inductionHypothesis =>
      cases fresh with
      | nil =>
          cases read
      | cons first rest =>
      cases parsed : parseLine (Text.pointsOf text) position with
      | error fault =>
          simp only [readRecords, parsed, error_bind, Except.error.injEq] at read
          subst read
          exact ⟨text, List.mem_cons_self, longField_of_parseLine parsed⟩
      | ok judgement =>
      cases agreed : sameOutcome judgement first with
      | false =>
          simp [readRecords, parsed, agreed] at read
          cases read
      | true =>
      cases others : readRecords path (position + 1) texts rest with
      | error fault =>
          simp only [readRecords, parsed, agreed, others, ok_bind, Bool.not_true] at read
          cases read
          obtain ⟨other, member, long⟩ := inductionHypothesis others
          exact ⟨other, List.mem_cons_of_mem text member, long⟩
      | ok more =>
          simp [readRecords, parsed, agreed, others] at read

/-! ## Loading and merging -/

/-- The bytes of a sheet that reading cannot take: text with a line that has a field longer than
the digits whole-number reading converts. -/
def Overlong (bytes : List UInt8) : Prop :=
  ∃ text, Text.decode? bytes = some text ∧ ∃ line ∈ Text.lines text, LongField (Text.pointsOf line)

theorem load_reflagged {path : List Nat} {bytes : List UInt8} {fresh loaded : List Judgement}
    (faithful : ∀ judgement ∈ fresh, Faithful judgement)
    (loading : load path bytes fresh = .ok loaded) : Reflagged fresh loaded := by
  unfold load at loading
  cases decoded : Text.decode? bytes with
  | none =>
      simp [decoded] at loading
  | some text =>
      simp only [decoded] at loading
      split at loading
      · cases loading
      · rename_i counted
        exact readRecords_reflagged faithful (not_not.1 counted) loading

theorem load_eq_overflow {path : List Nat} {bytes : List UInt8} {fresh : List Judgement}
    {problem : Text.DigitOverflow} (loading : load path bytes fresh = .error (.overflow problem)) :
    Overlong bytes := by
  unfold load at loading
  cases decoded : Text.decode? bytes with
  | none =>
      simp [decoded] at loading
  | some text =>
      simp only [decoded] at loading
      split at loading
      · cases loading
      · obtain ⟨line, member, long⟩ := readRecords_eq_overflow loading
        have kept : line ∈ Text.lines text := by
          have suffix := List.dropWhile_suffix Text.isBlank (l := (Text.lines text).reverse)
          simpa using suffix.subset (List.mem_reverse.1 member)
        exact ⟨text, decoded, line, kept, long⟩

/-- A merge that succeeds either took the existing sheet, loaded against the fresh judgements
and left as it is, or gives the fresh judgements and writes them as the sheet. -/
theorem merge_eq_ok {path : List Nat} {existing : Option (List UInt8)} {fresh : List Judgement}
    {merged : Merge} (merging : merge path existing fresh = .ok merged) :
    (merged.loaded = true ∧ merged.written = none ∧
      ∃ bytes, existing = some bytes ∧ load path bytes fresh = .ok merged.judgements) ∨
    (merged.loaded = false ∧ merged.written = some (render fresh) ∧ merged.judgements = fresh) := by
  unfold merge at merging
  cases existing with
  | none =>
      cases merging
      exact .inr ⟨rfl, rfl, rfl⟩
  | some bytes =>
      dsimp only at merging
      cases loading : load path bytes fresh with
      | ok loaded =>
          rw [loading] at merging
          cases merging
          exact .inl ⟨rfl, rfl, bytes, rfl, loading⟩
      | error fault =>
          cases fault with
          | refused problem =>
              rw [loading] at merging
              cases merging
              exact .inr ⟨rfl, rfl, rfl⟩
          | overflow problem =>
              rw [loading] at merging
              cases merging

theorem merge_eq_error {path : List Nat} {existing : Option (List UInt8)} {fresh : List Judgement}
    {problem : Text.DigitOverflow} (merging : merge path existing fresh = .error problem) :
    ∃ bytes, existing = some bytes ∧ Overlong bytes := by
  unfold merge at merging
  cases existing with
  | none =>
      cases merging
  | some bytes =>
      dsimp only at merging
      cases loading : load path bytes fresh with
      | ok loaded =>
          rw [loading] at merging
          cases merging
      | error fault =>
          cases fault with
          | refused refusal =>
              rw [loading] at merging
              cases merging
          | overflow overflow =>
              exact ⟨bytes, rfl, load_eq_overflow loading⟩

theorem merge_reflagged {path : List Nat} {existing : Option (List UInt8)} {fresh : List Judgement}
    {merged : Merge} (faithful : ∀ judgement ∈ fresh, Faithful judgement)
    (merging : merge path existing fresh = .ok merged) : Reflagged fresh merged.judgements := by
  rcases merge_eq_ok merging with ⟨-, -, bytes, -, loading⟩ | ⟨-, -, same⟩
  · exact load_reflagged faithful loading
  · rw [same]
    exact List.forall₂_same.2 fun _ _ => rfl

end Sheet

end RefereeGrading
