import Mathlib
import RefereeGrading.Sheet
import RefereeGrading.Proofs.Text

/-!
# Correction sheets read back what they write

A sheet written from judgements reads back as those judgements, ignore flags included, when
every call has whole-number fields that are not all zero and no number has more digits than
reading converts.
-/

namespace RefereeGrading

/-- The calls a judgement carries: its automatic call, then its human call. -/
def Judgement.calls (judgement : Judgement) : List Event :=
  judgement.automatic.toList ++ judgement.human.toList

namespace Sheet

/-! ## Numerals -/

/-- The code points of the decimal numeral of a whole number. -/
def numeral (n : Nat) : List Nat :=
  Text.pointsOf (toString n)

theorem numeral_eq_toDigits (n : Nat) : numeral n = (Nat.toDigits 10 n).map Char.toNat := by
  simp [numeral, Text.pointsOf]

theorem digit_of_mem_numeral {n : Nat} {c : Char} (member : c ∈ (toString n).toList) :
    0x30 ≤ c.toNat ∧ c.toNat ≤ 0x39 := by
  simp only [Nat.toString_eq_repr, Nat.toList_repr] at member
  have digit := Nat.isDigit_of_mem_toDigits (by decide) (by decide) member
  simp only [Char.isDigit, Bool.and_eq_true, decide_eq_true_eq] at digit
  exact ⟨digit.1, digit.2⟩

theorem isUnsigned_numeral (n : Nat) : isUnsigned (numeral n) = true := by
  simp only [isUnsigned, numeral, Text.pointsOf, List.all_map, List.all_eq_true,
    Function.comp_apply, Bool.and_eq_true, decide_eq_true_eq]
  exact fun _ member => digit_of_mem_numeral member

theorem unsignedValue_numeral (n : Nat) : unsignedValue (numeral n) = n := by
  have sameStep : (fun acc c => acc * 10 + (Char.toNat c - 0x30)) =
      fun sofar c => 10 * sofar + (c.toNat - '0'.toNat) := by
    funext acc c
    rw [Nat.mul_comm]
    rfl
  rw [numeral_eq_toDigits, unsignedValue, List.foldl_map, sameStep]
  exact Nat.ofDigitChars_ten_toDigits

theorem length_numeral_le_iff (n : Nat) :
    (numeral n).length ≤ Text.digitLimit ↔ n < 10 ^ Text.digitLimit := by
  rw [numeral_eq_toDigits, List.length_map]
  exact Nat.length_toDigits_le_iff (by decide) (by decide)

theorem toString_of_nonneg {x : Int} (whole : 0 ≤ x) : toString x = toString x.toNat := by
  obtain ⟨n, rfl⟩ := Int.eq_ofNat_of_zero_le whole
  rfl

theorem char_of_mem_numeral {x : Int} {c : Char} (member : c ∈ (toString x).toList) :
    c = '-' ∨ 0x30 ≤ c.toNat ∧ c.toNat ≤ 0x39 := by
  cases x with
  | ofNat n =>
      exact .inr (digit_of_mem_numeral member)
  | negSucc n =>
      change c ∈ ("-" ++ toString (n + 1)).toList at member
      rw [String.toList_append] at member
      rcases List.mem_append.1 member with sign | digits
      · exact .inl (by simpa using sign)
      · exact .inr (digit_of_mem_numeral digits)

theorem numeral_ne_nil (x : Int) : (toString x).toList ≠ [] := by
  cases x with
  | ofNat n =>
      change (toString n).toList ≠ []
      simp
  | negSucc n =>
      change ("-" ++ toString (n + 1)).toList ≠ []
      simp

/-! ## The line of a judgement -/

theorem toList_line (index : Int) (judgement : Judgement) :
    (line index judgement).toList =
      List.replicate (3 - (toString index).length) ' ' ++
        [' '].intercalate ((toString index :: judgement.verdict.tag ::
          (if judgement.ignore then "1" else "0") ::
            (callFields judgement.automatic ++ callFields judgement.human).map toString).map
              String.toList) := by
  have tagWidth : judgement.verdict.tag.length = 2 := by
    cases judgement.verdict <;> rfl
  have automaticNumbers : callFields judgement.automatic ≠ [] := by
    cases judgement.automatic <;> simp [callFields]
  simp [line, padLeft, tagWidth, List.intercalate_cons_of_ne_nil, automaticNumbers]

theorem numeral_word (x : Int) :
    (toString x).toList ≠ [] ∧ ∀ c ∈ (toString x).toList, Text.isSeparator c = false := by
  refine ⟨numeral_ne_nil x, fun c member => ?_⟩
  rcases char_of_mem_numeral member with rfl | ⟨low, high⟩
  · decide
  · simp only [Text.isSeparator, Text.isSeparatorPoint, Text.isWhiteSpacePoint, Bool.or_eq_false_iff,
      Bool.and_eq_false_iff, decide_eq_false_iff_not]
    omega

theorem fields_line (index : Int) (judgement : Judgement) :
    Text.fields (line index judgement) =
      toString index :: judgement.verdict.tag :: (if judgement.ignore then "1" else "0") ::
        (callFields judgement.automatic ++ callFields judgement.human).map toString := by
  have words : ∀ word ∈ (toString index :: judgement.verdict.tag ::
      (if judgement.ignore then "1" else "0") ::
        (callFields judgement.automatic ++ callFields judgement.human).map toString).map
          String.toList,
      word ≠ [] ∧ ∀ c ∈ word, Text.isSeparator c = false := by
    intro word member
    simp only [List.map_cons, List.mem_cons, List.map_map, List.mem_map,
      Function.comp_apply] at member
    rcases member with rfl | rfl | rfl | ⟨x, _, rfl⟩
    · exact numeral_word index
    · cases judgement.verdict <;> simp [Verdict.tag] <;> decide
    · cases judgement.ignore <;> simp <;> decide
    · exact numeral_word x
  rw [Text.fields, toList_line, Text.fieldsFrom_replicate_append Text.isSeparator (by decide),
    Text.fieldsFrom_intercalate Text.isSeparator (by decide) _ words, List.map_map,
    String.ofList_comp_toList, List.map_id]

/-! ## Reading one line -/

section Results

variable {ε ε' α β : Type}

@[simp]
theorem mapError_ok (change : ε → ε') (value : α) :
    (Except.ok value : Except ε α).mapError change = .ok value :=
  rfl

@[simp]
theorem mapError_error (change : ε → ε') (problem : ε) :
    (Except.error problem : Except ε α).mapError change = .error (change problem) :=
  rfl

@[simp]
theorem ok_bind (value : α) (next : α → Except ε β) : (Except.ok value >>= next) = next value :=
  rfl

@[simp]
theorem error_bind (problem : ε) (next : α → Except ε β) :
    (Except.error problem >>= next) = .error problem :=
  rfl

theorem map_eq_error_iff {f : α → β} {outcome : Except ε α} {problem : ε} :
    outcome.map f = .error problem ↔ outcome = .error problem := by
  cases outcome <;> simp [Except.map]

theorem eq_ok_of_mapError {outcome : Except ε α} {change : ε → ε'} {value : α}
    (mapped : outcome.mapError change = .ok value) : outcome = .ok value := by
  cases outcome with
  | error problem => cases mapped
  | ok found => cases mapped; rfl

end Results

theorem parse_tag (verdict : Verdict) : Verdict.parse (Text.pointsOf verdict.tag) = .ok verdict := by
  cases verdict <;> rfl

theorem tag_of_parse {tag : List Nat} {verdict : Verdict} (parsed : Verdict.parse tag = .ok verdict) :
    tag = Text.pointsOf verdict.tag := by
  unfold Verdict.parse at parsed
  split at parsed
  · rename_i found named
    cases parsed
    simpa [eq_comm] using List.find?_some named
  · cases parsed

theorem pointsOf_zero : Text.pointsOf "0" = [0x30] :=
  rfl

theorem pointsOf_one : Text.pointsOf "1" = [0x31] :=
  rfl

theorem parseLine_of_fields {text : List Nat} {index : Nat} {verdict : Verdict} {ignore : Bool}
    {a1 a2 a3 a4 h1 h2 h3 h4 : Nat}
    (cut : Text.pointFields text =
      [numeral index, Text.pointsOf verdict.tag, Text.pointsOf (if ignore then "1" else "0"),
        numeral a1, numeral a2, numeral a3, numeral a4,
        numeral h1, numeral h2, numeral h3, numeral h4]) :
    parseLine text index =
      (fun _ => { verdict, automatic := callOfFields a1 a2 a3 a4,
                  human := callOfFields h1 h2 h3 h4, ignore }) <$>
        ([index, a1, a2, a3, a4, h1, h2, h3, h4].map numeral).forM fun field =>
          (Text.DigitOverflow.check field.length).mapError SheetFault.overflow := by
  rw [parseLine, cut]
  cases ignore <;>
    simp [isUnsigned_numeral, parse_tag, unsignedValue_numeral, pointsOf_zero, pointsOf_one]

/-! ## Reading the line of a judgement -/

/-- A call that a line writes as numerals and reads back as the same call: its fields are
whole numbers, and they are not all zero, since four zeros stand for no call. -/
def Writable (call : Event) : Prop :=
  (∀ field ∈ callFields (some call), 0 ≤ field) ∧ callFields (some call) ≠ [0, 0, 0, 0]

/-- The eight numbers a line writes for the calls of a judgement. -/
def callNumbers (judgement : Judgement) : List Nat :=
  (callFields judgement.automatic ++ callFields judgement.human).map Int.toNat

theorem callOfFields_of_writable {call : Event} (writable : Writable call) :
    callOfFields call.stoppedAt.toNat call.issuedAt.toNat call.counter.toNat call.code.toNat =
      some call := by
  obtain ⟨whole, present⟩ := writable
  simp only [callFields, List.mem_cons, List.not_mem_nil, or_false, forall_eq_or_imp,
    forall_eq, ne_eq, List.cons.injEq, not_and, and_true] at whole present
  obtain ⟨stoppedWhole, issuedWhole, counterWhole, codeWhole⟩ := whole
  have notAllZero : ¬(((call.stoppedAt.toNat = 0 ∧ call.issuedAt.toNat = 0) ∧
      call.counter.toNat = 0) ∧ call.code.toNat = 0) := by
    rintro ⟨⟨⟨stopped, issued⟩, counter⟩, code⟩
    exact present (by omega) (by omega) (by omega) (by omega)
  simp only [callOfFields, Bool.and_eq_true, decide_eq_true_eq, notAllZero, if_false,
    Int.toNat_of_nonneg stoppedWhole, Int.toNat_of_nonneg issuedWhole,
    Int.toNat_of_nonneg counterWhole, Int.toNat_of_nonneg codeWhole]

theorem pointFields_line (index : Nat) (judgement : Judgement)
    (whole : ∀ field ∈ callFields judgement.automatic ++ callFields judgement.human, 0 ≤ field) :
    Text.pointFields (Text.pointsOf (line index judgement)) =
      numeral index :: Text.pointsOf judgement.verdict.tag ::
        Text.pointsOf (if judgement.ignore then "1" else "0") ::
          (callNumbers judgement).map numeral := by
  have numerals : (callFields judgement.automatic ++ callFields judgement.human).map
      (Text.pointsOf ∘ toString) = (callNumbers judgement).map numeral := by
    simp only [callNumbers, List.map_map]
    exact List.map_congr_left fun field member => by
      simp [numeral, toString_of_nonneg (whole field member)]
  rw [Text.pointFields_pointsOf, fields_line]
  simp only [List.map_cons, List.map_map, numerals]
  rfl

theorem callOfFields_zero : callOfFields 0 0 0 0 = none :=
  rfl

/-- The line of a judgement whose calls are writable reads back as that judgement, as soon as
its index and its call fields pass the digit limit. -/
theorem parseLine_line (index : Nat) (judgement : Judgement)
    (writable : ∀ call ∈ judgement.calls, Writable call) :
    parseLine (Text.pointsOf (line index judgement)) index =
      (fun _ => judgement) <$> ((index :: callNumbers judgement).map numeral).forM fun field =>
        (Text.DigitOverflow.check field.length).mapError SheetFault.overflow := by
  obtain ⟨verdict, automatic, human, ignore⟩ := judgement
  have whole : ∀ field ∈ callFields automatic ++ callFields human, 0 ≤ field := by
    intro field member
    rcases List.mem_append.1 member with early | late
    · cases automatic with
      | none => simp_all [callFields]
      | some call => exact (writable call (by simp [Judgement.calls])).1 field early
    · cases human with
      | none => simp_all [callFields]
      | some call => exact (writable call (by simp [Judgement.calls])).1 field late
  have cut := pointFields_line index ⟨verdict, automatic, human, ignore⟩ whole
  cases automatic <;> cases human <;>
    simp only [callNumbers, callFields, List.map_cons, List.map_nil, List.cons_append,
      List.nil_append, Int.toNat_zero] at cut ⊢ <;>
    rw [parseLine_of_fields cut] <;>
    simp [callOfFields_zero, Judgement.calls] at writable ⊢
  · rw [callOfFields_of_writable writable]
  · rw [callOfFields_of_writable writable]
  · rw [callOfFields_of_writable writable.1, callOfFields_of_writable writable.2]

theorem forM_check_eq_ok_iff {fields : List (List Nat)} :
    (fields.forM fun field =>
      (Text.DigitOverflow.check field.length).mapError SheetFault.overflow) = .ok () ↔
        ∀ field ∈ fields, field.length ≤ Text.digitLimit := by
  induction fields with
  | nil =>
      simp only [List.not_mem_nil, false_implies, implies_true, iff_true]
      rfl
  | cons field rest inductionHypothesis =>
      simp only [List.forM_eq_forM, List.forM_cons] at inductionHypothesis ⊢
      by_cases long : Text.digitLimit < field.length
      · rw [Text.DigitOverflow.check, if_pos long, mapError_error, error_bind]
        simp only [reduceCtorEq, List.mem_cons, forall_eq_or_imp, false_iff, not_and]
        intro within
        omega
      · rw [Text.DigitOverflow.check, if_neg long, mapError_ok, ok_bind, inductionHypothesis]
        simp only [List.mem_cons, forall_eq_or_imp]
        exact ⟨fun restShort => ⟨Nat.le_of_not_lt long, restShort⟩, fun both => both.2⟩

theorem forM_check_numerals {numbers : List Nat}
    (short : ∀ n ∈ numbers, n < 10 ^ Text.digitLimit) :
    ((numbers.map numeral).forM fun field =>
      (Text.DigitOverflow.check field.length).mapError SheetFault.overflow) = .ok () := by
  apply forM_check_eq_ok_iff.2
  intro field member
  obtain ⟨n, inNumbers, rfl⟩ := List.mem_map.1 member
  exact (length_numeral_le_iff n).2 (short n inNumbers)

/-- A call that a sheet reads back: writable, with every field below `10 ^ Text.digitLimit`,
the most digits reading converts. -/
def Legible (call : Event) : Prop :=
  Writable call ∧ ∀ field ∈ callFields (some call), field < 10 ^ Text.digitLimit

theorem callNumbers_short {judgement : Judgement}
    (legible : ∀ call ∈ judgement.calls, Legible call) :
    ∀ n ∈ callNumbers judgement, n < 10 ^ Text.digitLimit := by
  have positive : 0 < 10 ^ Text.digitLimit := Nat.pow_pos (by decide)
  intro n member
  simp only [callNumbers, List.mem_map, List.mem_append] at member
  obtain ⟨field, early | late, rfl⟩ := member
  · cases automatic : judgement.automatic with
    | none =>
        simp_all [callFields]
    | some call =>
        rw [automatic] at early
        have bound := (legible call (by simp [Judgement.calls, automatic])).2 field early
        exact (Int.toNat_lt' positive).2 (by rw [Int.natCast_pow]; exact bound)
  · cases human : judgement.human with
    | none =>
        simp_all [callFields]
    | some call =>
        rw [human] at late
        have bound := (legible call (by simp [Judgement.calls, human])).2 field late
        exact (Int.toNat_lt' positive).2 (by rw [Int.natCast_pow]; exact bound)

theorem parseLine_line_eq_ok (index : Nat) (judgement : Judgement)
    (legible : ∀ call ∈ judgement.calls, Legible call) (indexShort : index < 10 ^ Text.digitLimit) :
    parseLine (Text.pointsOf (line index judgement)) index = .ok judgement := by
  have short : ∀ n ∈ index :: callNumbers judgement, n < 10 ^ Text.digitLimit := fun n member =>
    (List.mem_cons.1 member).elim (fun same => same ▸ indexShort) (callNumbers_short legible n)
  rw [parseLine_line index judgement fun call member => (legible call member).1,
    forM_check_numerals short]
  rfl

/-! ## Reading a whole sheet -/

theorem printable_of_mem_line {index : Int} {judgement : Judgement} {c : Char}
    (member : c ∈ (line index judgement).toList) : 0x20 ≤ c.toNat ∧ c.toNat < 0x7F := by
  have numerals : ∀ x : Int, ∀ c ∈ (toString x).toList, 0x20 ≤ c.toNat ∧ c.toNat < 0x7F := by
    intro x c inNumeral
    rcases char_of_mem_numeral inNumeral with rfl | ⟨low, high⟩
    · decide
    · omega
  have tags : ∀ c ∈ judgement.verdict.tag.toList, 0x20 ≤ c.toNat ∧ c.toNat < 0x7F := by
    cases judgement.verdict <;> simp [Verdict.tag]
  have flags : ∀ c ∈ (if judgement.ignore then "1" else "0").toList,
      0x20 ≤ c.toNat ∧ c.toNat < 0x7F := by
    cases judgement.ignore <;> simp
  rw [toList_line] at member
  rcases List.mem_append.1 member with padding | written
  · rw [(List.mem_replicate.1 padding).2]
    decide
  · rcases Text.mem_intercalate written with space | ⟨word, wordMember, inWord⟩
    · rw [List.mem_singleton.1 space]
      decide
    · simp only [List.map_cons, List.mem_cons, List.map_map, List.mem_map,
        Function.comp_apply] at wordMember
      rcases wordMember with rfl | rfl | rfl | ⟨x, _, rfl⟩
      · exact numerals index c inWord
      · exact tags c inWord
      · exact flags c inWord
      · exact numerals x c inWord

theorem isBlank_line (index : Int) (judgement : Judgement) :
    Text.isBlank (line index judgement) = false := by
  cases blank : Text.isBlank (line index judgement)
  · rfl
  · have noFields : Text.fields (line index judgement) = [] := by
      simp only [Text.isBlank, List.all_eq_true] at blank
      simp [Text.fields, Text.fieldsFrom_of_separators Text.isSeparator _ blank]
    rw [fields_line] at noFields
    exact absurd noFields (List.cons_ne_nil _ _)

theorem lines_render (judgements : List Judgement) :
    Text.lines (render judgements) =
      judgements.zipIdx.map fun (judgement, index) => line index judgement := by
  have unbroken : ∀ text ∈ judgements.zipIdx.map (fun (judgement, index) => line index judgement),
      ∀ c ∈ text.toList, Text.isLineBreak c = false := by
    intro text member c inText
    obtain ⟨⟨judgement, index⟩, _, rfl⟩ := List.mem_map.1 member
    have printable := printable_of_mem_line inText
    simp only [Text.isLineBreak, Bool.or_eq_false_iff, Bool.and_eq_false_iff,
      decide_eq_false_iff_not]
    omega
  rw [render, ← Text.lines_join_lineFeed _ unbroken, List.map_map]
  rfl

theorem ascii_of_mem_render {judgements : List Judgement} {c : Char}
    (member : c ∈ (render judgements).toList) : c.toNat < 0x80 := by
  simp only [render, String.toList_join, List.mem_flatMap, List.mem_map] at member
  obtain ⟨text, ⟨⟨judgement, index⟩, _, rfl⟩, inText⟩ := member
  rw [String.toList_append] at inText
  rcases List.mem_append.1 inText with inLine | lineFeed
  · have printable := printable_of_mem_line inLine
    omega
  · rw [show ("\n" : String).toList = ['\n'] from rfl] at lineFeed
    rw [List.mem_singleton.1 lineFeed]
    decide

theorem records_lines (judgements : List Judgement) :
    ((Text.lines (render judgements)).reverse.dropWhile Text.isBlank).reverse =
      judgements.zipIdx.map fun (judgement, index) => line index judgement := by
  rw [lines_render]
  cases last : (judgements.zipIdx.map fun (judgement, index) => line index judgement).reverse with
  | nil =>
      simp_all
  | cons final earlier =>
      have finalMember : final ∈ judgements.zipIdx.map
          (fun (judgement, index) => line index judgement) := by
        rw [← List.mem_reverse, last]
        exact List.mem_cons_self
      obtain ⟨⟨judgement, index⟩, _, rfl⟩ := List.mem_map.1 finalMember
      rw [List.dropWhile_cons_of_neg (by simp [isBlank_line]), ← last, List.reverse_reverse]

/-- Reading the lines of edited judgements against the fresh ones they were edited from gives
back the edited judgements, while every index and call field passes the digit limit. -/
theorem readRecords_lines (path : List Nat) {fresh edited : List Judgement}
    (edits : List.Forall₂ (fun fresh edited => { fresh with ignore := edited.ignore } = edited)
      fresh edited)
    (position : Nat) (legible : ∀ judgement ∈ fresh, ∀ call ∈ judgement.calls, Legible call)
    (indexed : position + fresh.length ≤ 10 ^ Text.digitLimit) :
    readRecords path position
        ((edited.zipIdx position).map fun (judgement, index) => line index judgement) fresh =
      .ok edited := by
  induction edits generalizing position with
  | nil =>
      rfl
  | @cons first edit freshRest editedRest same _ inductionHypothesis =>
      have sameCalls : edit.calls = first.calls := by
        rw [← same]
        rfl
      have restLength : position + 1 + freshRest.length ≤ 10 ^ Text.digitLimit := by
        simp only [List.length_cons] at indexed
        omega
      have parsed : parseLine (Text.pointsOf (line position edit)) position = .ok edit :=
        parseLine_line_eq_ok position edit (sameCalls ▸ legible first List.mem_cons_self)
          (by omega)
      have kept : sameOutcome edit first = true := by
        rw [← same]
        simp [sameOutcome]
      have restRead := inductionHypothesis (position + 1)
        (fun judgement member => legible judgement (List.mem_cons_of_mem first member)) restLength
      simp only [List.zipIdx_cons, List.map_cons, readRecords, parsed, kept, ok_bind,
        Bool.not_true, Bool.false_eq_true, if_false, restRead]
      rfl

/-- A sheet written from judgements that differ from the fresh ones at most in their ignore
flags reads back as exactly those judgements, when every call is writable, every call field
is below `10 ^ Text.digitLimit` and there are at most `10 ^ Text.digitLimit` judgements, so
that every index has at most `Text.digitLimit` digits too. -/
theorem load_render (path : List Nat) (fresh edited : List Judgement)
    (legible : ∀ judgement ∈ fresh, ∀ call ∈ judgement.calls, Legible call)
    (indexed : fresh.length ≤ 10 ^ Text.digitLimit)
    (edits : List.Forall₂ (fun fresh edited => { fresh with ignore := edited.ignore } = edited)
      fresh edited) :
    load path (Text.encode (render edited)) fresh = .ok edited := by
  have lengths : edited.length = fresh.length := edits.length_eq.symm
  rw [load, Text.decode?_encode_of_ascii _ fun _ member => ascii_of_mem_render member]
  simp only [records_lines, List.length_map, List.length_zipIdx, lengths, ne_eq,
    not_true_eq_false, if_false]
  exact readRecords_lines path edits 0 legible (by omega)

end Sheet

end RefereeGrading
