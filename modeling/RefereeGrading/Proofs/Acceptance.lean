import Mathlib.Data.List.TakeWhile
import RefereeGrading.Proofs.Merge

/-!
# Which sheets reading takes

Reading a correction sheet against fresh judgements takes exactly the sheets that still
describe them (`SheetDescribes`): UTF-8 text with one record per fresh judgement, each holding
its index, verdict tag, an ignore flag and the eight call fields in unsigned digits. It gives
back the fresh judgements with the records' flags; the only other way it stops is a field too
long to read. So merging takes a sheet whole or not at all.
-/

namespace RefereeGrading

namespace Sheet

/-! ## Sheets that describe judgements -/

/-- A field of unsigned decimal digits: not empty, and ASCII digits only. -/
def Unsigned (field : List Nat) : Prop :=
  field ≠ [] ∧ ∀ point ∈ field, 0x30 ≤ point ∧ point ≤ 0x39

/-- A record that describes a fresh judgement at a position, with an ignore flag: its fields are
the position, the tag of the judgement's verdict, the flag and eight numbers, where the position
and the numbers are unsigned and the numbers are the fields of the judgement's calls. -/
def Describes (position : Nat) (fresh : Judgement) (ignore : Bool) (record : String) : Prop :=
  ∃ index numbers,
    Text.pointFields (Text.pointsOf record) =
      index :: Text.pointsOf fresh.verdict.tag :: Text.pointsOf (if ignore then "1" else "0") ::
        numbers ∧
    Unsigned index ∧ unsignedValue index = position ∧ (∀ field ∈ numbers, Unsigned field) ∧
    numbers.map (fun field => (unsignedValue field : Int)) =
      callFields fresh.automatic ++ callFields fresh.human

/-- Records that describe fresh judgements with ignore flags, one record for each judgement, the
first at `position`. -/
inductive RecordsDescribe : Nat → List String → List Judgement → List Bool → Prop
  | nil (position : Nat) : RecordsDescribe position [] [] []
  | cons {position : Nat} {record : String} {records : List String} {fresh : Judgement}
      {rest : List Judgement} {ignore : Bool} {flags : List Bool} :
      Describes position fresh ignore record → RecordsDescribe (position + 1) records rest flags →
      RecordsDescribe position (record :: records) (fresh :: rest) (ignore :: flags)

/-- The records of a sheet's text: its lines, less the blank lines at its end. -/
def records (text : String) : List String :=
  ((Text.lines text).reverse.dropWhile Text.isBlank).reverse

/-- The bytes of a sheet that describes fresh judgements with ignore flags: UTF-8 text whose
records describe them, from position 0. -/
def SheetDescribes (bytes : List UInt8) (fresh : List Judgement) (flags : List Bool) : Prop :=
  ∃ text, Text.decode? bytes = some text ∧ RecordsDescribe 0 (records text) fresh flags

/-- The fresh judgements with the given ignore flags. -/
def reflag (fresh : List Judgement) (flags : List Bool) : List Judgement :=
  List.zipWith (fun judgement ignore => { judgement with ignore }) fresh flags

/-! ## Fields -/

theorem ne_nil_of_mem_closeField {current field : List Nat}
    (member : field ∈ Text.closeField current) : field ≠ [] := by
  unfold Text.closeField at member
  split at member
  · cases member
  · rename_i notEmpty
    rw [List.mem_singleton.1 member]
    simpa using notEmpty

theorem ne_nil_of_mem_fieldsFrom {current points field : List Nat}
    (member : field ∈ Text.fieldsFrom Text.isSeparatorPoint current points) : field ≠ [] := by
  induction points generalizing current with
  | nil =>
      exact ne_nil_of_mem_closeField member
  | cons point rest inductionHypothesis =>
      unfold Text.fieldsFrom at member
      split at member
      · rcases List.mem_append.1 member with closed | later
        · exact ne_nil_of_mem_closeField closed
        · exact inductionHypothesis later
      · exact inductionHypothesis member

theorem ne_nil_of_mem_pointFields {points field : List Nat}
    (member : field ∈ Text.pointFields points) : field ≠ [] :=
  ne_nil_of_mem_fieldsFrom member

theorem unsigned_of_isUnsigned {field : List Nat} (nonempty : field ≠ [])
    (digits : isUnsigned field = true) : Unsigned field := by
  simp only [isUnsigned, List.all_eq_true, Bool.and_eq_true, decide_eq_true_eq] at digits
  exact ⟨nonempty, digits⟩

theorem isUnsigned_of_unsigned {field : List Nat} (unsigned : Unsigned field) :
    isUnsigned field = true := by
  simp only [isUnsigned, List.all_eq_true, Bool.and_eq_true, decide_eq_true_eq]
  exact unsigned.2

theorem pointFields_of_isBlank {line : String} (blank : Text.isBlank line = true) :
    Text.pointFields (Text.pointsOf line) = [] := by
  simp only [Text.isBlank, List.all_eq_true] at blank
  rw [Text.pointFields_pointsOf, Text.fields,
    Text.fieldsFrom_of_separators Text.isSeparator _ blank]
  rfl

@[simp]
theorem length_callFields (call : Option Event) : (callFields call).length = 4 := by
  cases call <;> rfl

theorem callFields_callOfFields (a1 a2 a3 a4 : Nat) :
    callFields (callOfFields a1 a2 a3 a4) = [(a1 : Int), a2, a3, a4] := by
  unfold callOfFields
  split
  · rename_i zeros
    simp only [Bool.and_eq_true, decide_eq_true_eq] at zeros
    obtain ⟨⟨⟨rfl, rfl⟩, rfl⟩, rfl⟩ := zeros
    rfl
  · rfl

/-! ## Reading one record -/

theorem length_tag_le (verdict : Verdict) : (Text.pointsOf verdict.tag).length ≤ Text.digitLimit := by
  cases verdict <;> decide

theorem length_flag_le (ignore : Bool) :
    (Text.pointsOf (if ignore then "1" else "0")).length ≤ Text.digitLimit := by
  cases ignore <;> decide

theorem describes_of_parseLine {position : Nat} {fresh judgement : Judgement} {record : String}
    (parsed : parseLine (Text.pointsOf record) position = .ok judgement)
    (same : sameOutcome judgement fresh = true) :
    Describes position fresh judgement.ignore record ∧ ¬LongField (Text.pointsOf record) := by
  obtain ⟨index, a1, a2, a3, a4, h1, h2, h3, h4, cut, checked, indexed, automatic, human⟩ :=
    parseLine_eq_ok parsed
  simp only [sameOutcome, Bool.and_eq_true, decide_eq_true_eq] at same
  obtain ⟨⟨verdict, sameAutomatic⟩, sameHuman⟩ := same
  have inFields : ∀ field ∈ [index, a1, a2, a3, a4, h1, h2, h3, h4],
      field ∈ Text.pointFields (Text.pointsOf record) := by
    intro field member
    rw [cut]
    exact mem_record_of_mem_numbers member
  have unsigned : ∀ field ∈ [index, a1, a2, a3, a4, h1, h2, h3, h4], Unsigned field :=
    fun field member => unsigned_of_isUnsigned (ne_nil_of_mem_pointFields (inFields field member))
      (checked field member).1
  have values : [a1, a2, a3, a4, h1, h2, h3, h4].map (fun field => (unsignedValue field : Int)) =
      callFields fresh.automatic ++ callFields fresh.human := by
    rw [← sameAutomatic, ← sameHuman, automatic, human, callFields_callOfFields,
      callFields_callOfFields]
    rfl
  refine ⟨⟨index, [a1, a2, a3, a4, h1, h2, h3, h4], by rw [cut, verdict],
    unsigned index List.mem_cons_self, by exact_mod_cast indexed,
    fun field member => unsigned field (List.mem_cons_of_mem _ member), values⟩, ?_⟩
  rintro ⟨field, member, long⟩
  rw [cut] at member
  rcases List.mem_cons.1 member with rfl | member
  · exact absurd (checked field List.mem_cons_self).2 (Nat.not_le.2 long)
  rcases List.mem_cons.1 member with rfl | member
  · exact absurd (length_tag_le judgement.verdict) (Nat.not_le.2 long)
  rcases List.mem_cons.1 member with rfl | member
  · exact absurd (length_flag_le judgement.ignore) (Nat.not_le.2 long)
  · exact absurd (checked field (List.mem_cons_of_mem _ member)).2 (Nat.not_le.2 long)

theorem parseLine_of_describes {position : Nat} {fresh : Judgement} {ignore : Bool}
    {record : String} (faithful : Faithful fresh) (describes : Describes position fresh ignore record)
    (short : ¬LongField (Text.pointsOf record)) :
    parseLine (Text.pointsOf record) position = .ok { fresh with ignore } := by
  obtain ⟨index, numbers, cut, indexUnsigned, indexed, numbersUnsigned, values⟩ := describes
  have eight : numbers.length = 8 := by
    simpa using congrArg List.length values
  rcases numbers with
    _ | ⟨a1, _ | ⟨a2, _ | ⟨a3, _ | ⟨a4, _ | ⟨h1, _ | ⟨h2, _ | ⟨h3, _ | ⟨h4, _ | ⟨_, _⟩⟩⟩⟩⟩⟩⟩⟩⟩
  all_goals simp at eight
  have split := List.append_inj
    (show [(unsignedValue a1 : Int), unsignedValue a2, unsignedValue a3, unsignedValue a4] ++
      [(unsignedValue h1 : Int), unsignedValue h2, unsignedValue h3, unsignedValue h4] =
        callFields fresh.automatic ++ callFields fresh.human from values) (by simp)
  have automatic : callOfFields (unsignedValue a1) (unsignedValue a2) (unsignedValue a3)
      (unsignedValue a4) = fresh.automatic :=
    eq_of_callFields_eq (faithfulCall_callOfFields _ _ _ _) faithful.1
      (by rw [callFields_callOfFields]; exact split.1)
  have human : callOfFields (unsignedValue h1) (unsignedValue h2) (unsignedValue h3)
      (unsignedValue h4) = fresh.human :=
    eq_of_callFields_eq (faithfulCall_callOfFields _ _ _ _) faithful.2
      (by rw [callFields_callOfFields]; exact split.2)
  have digits : ∀ field ∈ [index, a1, a2, a3, a4, h1, h2, h3, h4], isUnsigned field = true := by
    intro field member
    rcases List.mem_cons.1 member with rfl | later
    · exact isUnsigned_of_unsigned indexUnsigned
    · exact isUnsigned_of_unsigned (numbersUnsigned field later)
  have noneBad : [index, a1, a2, a3, a4, h1, h2, h3, h4].find? (fun field => !isUnsigned field) =
      none :=
    List.find?_eq_none.2 fun field member => by simp [digits field member]
  have checked : ([index, a1, a2, a3, a4, h1, h2, h3, h4].forM fun field =>
      (Text.DigitOverflow.check field.length).mapError SheetFault.overflow) = .ok () :=
    forM_check_eq_ok_iff.2 fun field member => Nat.not_lt.1 fun long =>
      short ⟨field, by rw [cut]; exact mem_record_of_mem_numbers member, long⟩
  rw [parseLine, cut]
  cases ignore <;>
    simp [noneBad, parse_tag, checked, indexed, automatic, human, pointsOf_zero, pointsOf_one]

/-! ## Reading the records of a sheet -/

theorem RecordsDescribe.length_eq {position : Nat} {records : List String} {fresh : List Judgement}
    {flags : List Bool} (describe : RecordsDescribe position records fresh flags) :
    records.length = fresh.length := by
  induction describe with
  | nil => rfl
  | cons _ _ inductionHypothesis => simp [inductionHypothesis]

theorem readRecords_of_describe {path : List Nat} {position : Nat} {records : List String}
    {fresh : List Judgement} {flags : List Bool} (faithful : ∀ judgement ∈ fresh, Faithful judgement)
    (describe : RecordsDescribe position records fresh flags)
    (short : ∀ record ∈ records, ¬LongField (Text.pointsOf record)) :
    readRecords path position records fresh = .ok (reflag fresh flags) := by
  induction describe with
  | nil =>
      rfl
  | @cons position record records first rest ignore flags describes _ inductionHypothesis =>
      have parsed := parseLine_of_describes (faithful first List.mem_cons_self) describes
        (short record List.mem_cons_self)
      have agreed : sameOutcome { first with ignore } first = true := by
        simp [sameOutcome]
      have restRead := inductionHypothesis
        (fun judgement member => faithful judgement (List.mem_cons_of_mem first member))
        (fun other member => short other (List.mem_cons_of_mem record member))
      simp only [readRecords, parsed, agreed, ok_bind, Bool.not_true, Bool.false_eq_true, if_false,
        restRead]
      rfl

theorem describe_of_readRecords {path : List Nat} {position : Nat} {records : List String}
    {fresh loaded : List Judgement} (faithful : ∀ judgement ∈ fresh, Faithful judgement)
    (counted : records.length = fresh.length)
    (read : readRecords path position records fresh = .ok loaded) :
    ∃ flags, RecordsDescribe position records fresh flags ∧
      (∀ record ∈ records, ¬LongField (Text.pointsOf record)) ∧ loaded = reflag fresh flags := by
  induction records generalizing position fresh loaded with
  | nil =>
      obtain rfl : fresh = [] := List.length_eq_zero_iff.1 counted.symm
      cases read
      exact ⟨[], .nil position, by simp, rfl⟩
  | cons record records inductionHypothesis =>
      obtain ⟨first, rest, rfl⟩ := List.exists_cons_of_length_eq_add_one counted.symm
      obtain ⟨judgement, others, parsed, agreed, later, rfl⟩ := readRecords_cons_eq_ok read
      obtain ⟨describes, short⟩ := describes_of_parseLine parsed agreed
      obtain ⟨flags, describeRest, restShort, rfl⟩ := inductionHypothesis
        (fun other member => faithful other (List.mem_cons_of_mem first member))
        (Nat.succ.inj counted) later
      have reflagged : { first with ignore := judgement.ignore } = judgement :=
        eq_of_sameOutcome (faithful first List.mem_cons_self) (faithful_of_parseLine parsed) agreed
      refine ⟨judgement.ignore :: flags, .cons describes describeRest, ?_, ?_⟩
      · intro other member
        rcases List.mem_cons.1 member with rfl | later
        · exact short
        · exact restShort other later
      · exact congrArg (· :: reflag rest flags) reflagged.symm

/-! ## Reading a sheet -/

/-- The blank lines at the end of a text hold no field, so a field too long to read stands in a
record. -/
theorem overlong_iff {bytes : List UInt8} {text : String} (decoded : Text.decode? bytes = some text) :
    Overlong bytes ↔ ∃ record ∈ records text, LongField (Text.pointsOf record) := by
  constructor
  · rintro ⟨other, otherDecoded, line, member, long⟩
    rw [decoded, Option.some.injEq] at otherDecoded
    subst otherDecoded
    refine ⟨line, ?_, long⟩
    -- a line is a record or one of the blank lines dropped at the end
    have inReversed : line ∈ (Text.lines text).reverse := List.mem_reverse.2 member
    rw [← List.takeWhile_append_dropWhile (p := Text.isBlank) (l := (Text.lines text).reverse)]
      at inReversed
    rcases List.mem_append.1 inReversed with dropped | kept
    · obtain ⟨field, inFields, _⟩ := long
      rw [pointFields_of_isBlank (List.mem_takeWhile_imp dropped)] at inFields
      cases inFields
    · exact List.mem_reverse.2 kept
  · rintro ⟨record, member, long⟩
    have suffix := List.dropWhile_suffix Text.isBlank (l := (Text.lines text).reverse)
    exact ⟨text, decoded, record, by simpa using suffix.subset (List.mem_reverse.1 member), long⟩

/-- A sheet read against fresh judgements whose calls their fields tell apart from no call reads
exactly when it describes them and has no field too long to read, and then gives the fresh
judgements with its flags. -/
theorem load_eq_ok_iff {path : List Nat} {bytes : List UInt8} {fresh loaded : List Judgement}
    (faithful : ∀ judgement ∈ fresh, Faithful judgement) :
    load path bytes fresh = .ok loaded ↔
      ∃ flags, SheetDescribes bytes fresh flags ∧ ¬Overlong bytes ∧
        loaded = reflag fresh flags := by
  constructor
  · intro loading
    unfold load at loading
    cases decoded : Text.decode? bytes with
    | none =>
        simp [decoded] at loading
    | some text =>
        simp only [decoded] at loading
        split at loading
        · cases loading
        · rename_i counted
          obtain ⟨flags, describe, short, rfl⟩ :=
            describe_of_readRecords faithful (not_not.1 counted) loading
          refine ⟨flags, ⟨text, decoded, describe⟩, ?_, rfl⟩
          rw [overlong_iff decoded]
          rintro ⟨record, member, long⟩
          exact short record member long
  · rintro ⟨flags, ⟨text, decoded, describe⟩, notOverlong, rfl⟩
    have short : ∀ record ∈ records text, ¬LongField (Text.pointsOf record) :=
      fun record member long => notOverlong ((overlong_iff decoded).2 ⟨record, member, long⟩)
    unfold load
    simp only [decoded]
    rw [if_neg (not_not.2 (show ((Text.lines text).reverse.dropWhile Text.isBlank).reverse.length =
      fresh.length from describe.length_eq))]
    exact readRecords_of_describe faithful describe short

theorem load_eq_error {path : List Nat} {bytes : List UInt8} {fresh : List Judgement}
    {fault : SheetFault} (loading : load path bytes fresh = .error fault) :
    (∃ refusal, fault = .refused refusal) ∨
      (∃ problem, fault = .overflow problem) ∧ Overlong bytes := by
  cases fault with
  | refused refusal =>
      exact .inl ⟨refusal, rfl⟩
  | overflow problem =>
      exact .inr ⟨⟨problem, rfl⟩, load_eq_overflow loading⟩

/-- Reading a sheet against fresh judgements whose calls are never written as four zeros takes it
exactly when it describes them: valid UTF-8 whose records, one for each judgement, each hold the
record's position in unsigned digits, the judgement's verdict tag, an ignore flag `0` or `1` and
the eight fields of the judgement's calls in unsigned digits, where no field has more digits than
whole-number reading converts. It then gives the fresh judgements with the records' flags. It
stops otherwise by refusing the sheet, or on a field too long to read. -/
theorem load_accepts_exactly_describing_sheets (path : List Nat) (bytes : List UInt8)
    (fresh : List Judgement) (faithful : ∀ judgement ∈ fresh, Faithful judgement)
    (loaded : List Judgement) :
    (load path bytes fresh = .ok loaded ↔
      ∃ flags, SheetDescribes bytes fresh flags ∧ ¬Overlong bytes ∧
        loaded = reflag fresh flags) ∧
    ∀ fault, load path bytes fresh = .error fault →
      (∃ refusal, fault = .refused refusal) ∨
        (∃ problem, fault = .overflow problem) ∧ Overlong bytes :=
  ⟨load_eq_ok_iff faithful, fun _ loading => load_eq_error loading⟩

/- Leading zeros, a tab between fields and a blank line at the end do not matter; the flag
does. -/
example :
    load [] (Text.encode "000\tTP 1 01 2 3 14 1 2 3 14\n \n")
        [Judgement.matched ⟨1, 2, 3, 14⟩ ⟨1, 2, 3, 14⟩] =
      .ok [{ Judgement.matched ⟨1, 2, 3, 14⟩ ⟨1, 2, 3, 14⟩ with ignore := true }] := by
  rfl

theorem faithful_matched_call :
    ∀ judgement ∈ [Judgement.matched ⟨1, 2, 3, 14⟩ ⟨1, 2, 3, 14⟩], Faithful judgement := by
  intro judgement member
  rw [List.mem_singleton.1 member]
  refine ⟨fun zeros => ?_, fun zeros => ?_⟩ <;>
    simp [Judgement.matched, callFields] at zeros

theorem load_accepts_exactly_describing_sheets_of_match :
    let call : Event := ⟨1, 2, 3, 14⟩
    let fresh := [Judgement.matched call call]
    let bytes := Text.encode "  0 TP 1 1 2 3 14 1 2 3 14\n"
    let loaded := [{ Judgement.matched call call with ignore := true }]
    (∀ judgement ∈ fresh, Faithful judgement) ∧
      (load [] bytes fresh = .ok loaded ↔
        ∃ flags, SheetDescribes bytes fresh flags ∧ ¬Overlong bytes ∧
          loaded = reflag fresh flags) ∧
      ∀ fault, load [] bytes fresh = .error fault →
        (∃ refusal, fault = .refused refusal) ∨
          (∃ problem, fault = .overflow problem) ∧ Overlong bytes :=
  ⟨faithful_matched_call,
    load_accepts_exactly_describing_sheets [] _ _ faithful_matched_call _⟩

/-! ## Merging -/

end Sheet

end RefereeGrading
