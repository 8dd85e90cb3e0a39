import Mathlib
import RefereeGrading.Log
import RefereeGrading.Wire.Proto2

/-!
# Logs that read whole

A log reads to its end exactly when it is a run of complete records, and gives back the bodies
it was framed from. A log cut short is read up to the longest run of complete records it starts
with, and the failure names what cuts the next record short. Decoding keeps the envelopes that
decode and warns, by position, about the others.
-/

namespace RefereeGrading

namespace Log

/-- A log made of complete records: the records of some bodies, one after another. -/
def Framed (log : List UInt8) : Prop :=
  ∃ bodies : List (List UInt8), frames bodies = some log

/-! ## The length bytes -/

theorem toUInt8_eq_of_toNat {k : Nat} {b : UInt8} (same : k % 256 = b.toNat) :
    k.toUInt8 = b := by
  apply UInt8.toNat_inj.1
  simpa using same

theorem bytes_value_lt (b0 b1 b2 b3 : UInt8) :
    b0.toNat + 256 * b1.toNat + 65536 * b2.toNat + 16777216 * b3.toNat < 2 ^ 32 := by
  have low0 := UInt8.toNat_lt_size b0
  have low1 := UInt8.toNat_lt_size b1
  have low2 := UInt8.toNat_lt_size b2
  have low3 := UInt8.toNat_lt_size b3
  simp only [UInt8.size] at low0 low1 low2 low3
  omega

theorem lengthBytes_of_lt {n : Nat} (below : n < 2 ^ 32) :
    lengthBytes n = some [(n % 256).toUInt8, (n / 256 % 256).toUInt8, (n / 65536 % 256).toUInt8,
      (n / 16777216 % 256).toUInt8] :=
  if_pos (show n < 0x100000000 from below)

theorem lengthBytes_of_bytes (b0 b1 b2 b3 : UInt8) :
    lengthBytes (b0.toNat + 256 * b1.toNat + 65536 * b2.toNat + 16777216 * b3.toNat) =
      some [b0, b1, b2, b3] := by
  have low0 := UInt8.toNat_lt_size b0
  have low1 := UInt8.toNat_lt_size b1
  have low2 := UInt8.toNat_lt_size b2
  have low3 := UInt8.toNat_lt_size b3
  simp only [UInt8.size] at low0 low1 low2 low3
  simp only [lengthBytes_of_lt (bytes_value_lt b0 b1 b2 b3), Option.some.injEq,
    List.cons.injEq, and_true]
  refine ⟨toUInt8_eq_of_toNat ?_, toUInt8_eq_of_toNat ?_, toUInt8_eq_of_toNat ?_,
    toUInt8_eq_of_toNat ?_⟩ <;> omega

theorem lengthBytes_eq_some {n : Nat} {header : List UInt8} (written : lengthBytes n = some header) :
    n < 2 ^ 32 ∧ ∃ b0 b1 b2 b3 : UInt8, header = [b0, b1, b2, b3] ∧
      b0.toNat + 256 * b1.toNat + 65536 * b2.toNat + 16777216 * b3.toNat = n := by
  unfold lengthBytes at written
  split at written
  case isFalse => cases written
  case isTrue below =>
    cases written
    refine ⟨below, _, _, _, _, rfl, ?_⟩
    simp only [Nat.toUInt8, UInt8.toNat_ofNat']
    omega

theorem lengthBytes_isSome {n : Nat} (below : n < 2 ^ 32) : (lengthBytes n).isSome := by
  rw [lengthBytes_of_lt below]
  rfl

@[simp] theorem length_of_lengthBytes {n : Nat} {header : List UInt8}
    (written : lengthBytes n = some header) : header.length = 4 := by
  obtain ⟨-, _, _, _, _, rfl, -⟩ := lengthBytes_eq_some written
  rfl

/-! ## Records -/

theorem frame_eq_some {body record : List UInt8} :
    frame body = some record ↔ ∃ header, lengthBytes body.length = some header ∧
      record = header ++ body := by
  simp [frame, eq_comm]

theorem frame_isSome {body : List UInt8} : (frame body).isSome ↔ body.length < 2 ^ 32 := by
  constructor
  · intro some
    obtain ⟨record, framed⟩ := Option.isSome_iff_exists.1 some
    obtain ⟨header, written, -⟩ := frame_eq_some.1 framed
    exact (lengthBytes_eq_some written).1
  · intro below
    simpa [frame] using lengthBytes_isSome below

@[simp] theorem frames_nil : frames [] = some [] := rfl

theorem frames_cons {body : List UInt8} {rest : List (List UInt8)} {log : List UInt8} :
    frames (body :: rest) = some log ↔
      ∃ record more, frame body = some record ∧ frames rest = some more ∧ log = record ++ more := by
  simp only [frames, List.mapM_cons, Option.map_eq_some_iff]
  constructor
  · rintro ⟨records, found, rfl⟩
    simp only [bind, Option.bind_eq_some_iff, pure, Option.some.injEq] at found
    obtain ⟨record, framed, more, restFramed, rfl⟩ := found
    exact ⟨record, _, framed, ⟨more, restFramed, rfl⟩, by simp⟩
  · rintro ⟨record, _, framed, ⟨more, restFramed, rfl⟩, rfl⟩
    exact ⟨record :: more, by simp [framed, restFramed], by simp⟩

/-! ## Reading records -/

theorem bodiesFrom_lengthBytes (offset : Nat) {n : Nat} {header : List UInt8}
    (written : lengthBytes n = some header) (rest : List UInt8) :
    bodiesFrom offset (header ++ rest) =
      if (rest.take n).length < n then ([], some (.truncatedRecord offset n rest.length))
      else
        let (more, failure) := bodiesFrom (offset + 4 + n) (rest.drop n)
        (rest.take n :: more, failure) := by
  obtain ⟨-, b0, b1, b2, b3, rfl, value⟩ := lengthBytes_eq_some written
  rw [List.cons_append, List.cons_append, List.cons_append, List.cons_append,
    List.nil_append, bodiesFrom, value]

/-- Records in front of any bytes read back as their bodies, and reading goes on from where
they end. -/
theorem bodiesFrom_frames_append (offset : Nat) {bodies : List (List UInt8)} {log : List UInt8}
    (framed : frames bodies = some log) (rest : List UInt8) :
    bodiesFrom offset (log ++ rest) =
      (bodies ++ (bodiesFrom (offset + log.length) rest).1,
        (bodiesFrom (offset + log.length) rest).2) := by
  induction bodies generalizing offset log with
  | nil =>
      cases framed
      simp
  | cons body more inductionHypothesis =>
      obtain ⟨record, written, recordIs, moreFramed, rfl⟩ := frames_cons.1 framed
      obtain ⟨header, headerIs, rfl⟩ := frame_eq_some.1 recordIs
      have whole : ¬(List.take body.length (body ++ (written ++ rest))).length < body.length := by
        simp
      have offsets : offset + (header ++ body ++ written).length =
          offset + 4 + body.length + written.length := by
        simp only [List.length_append, length_of_lengthBytes headerIs]
        omega
      rw [offsets, List.append_assoc, List.append_assoc,
        bodiesFrom_lengthBytes offset headerIs, if_neg whole, List.drop_left, List.take_left,
        inductionHypothesis _ moreFramed]
      rfl

theorem bodiesFrom_frames (offset : Nat) {bodies : List (List UInt8)} {log : List UInt8}
    (framed : frames bodies = some log) : bodiesFrom offset log = (bodies, none) := by
  simpa [bodiesFrom] using bodiesFrom_frames_append offset framed []

theorem frames_of_bodiesFrom {offset : Nat} {input : List UInt8}
    (whole : (bodiesFrom offset input).2 = none) :
    frames (bodiesFrom offset input).1 = some input := by
  fun_induction bodiesFrom offset input with
  | case1 offset =>
      rfl
  | case2 offset b0 b1 b2 b3 rest size body short =>
      simp at whole
  | case3 offset b0 b1 b2 b3 rest size body long more failure later inductionHypothesis =>
      rw [later] at inductionHypothesis
      have bodyLength : body.length = size := by
        simp only [body, List.length_take] at long ⊢
        omega
      refine frames_cons.2 ⟨[b0, b1, b2, b3] ++ body, _, ?_, inductionHypothesis whole, ?_⟩
      · rw [frame_eq_some, bodyLength]
        exact ⟨_, lengthBytes_of_bytes b0 b1 b2 b3, rfl⟩
      · simp only [body, List.cons_append, List.nil_append, List.take_append_drop]
  | case4 offset input notEmpty notRecord =>
      cases whole

theorem read_failure_eq_none_iff (pb : Protobuf) (log : List UInt8) :
    (read pb log).failure = none ↔ Framed log := by
  have failure : (read pb log).failure = (bodies log).2 := by
    unfold read
    rfl
  rw [failure]
  constructor
  · intro whole
    exact ⟨_, frames_of_bodiesFrom whole⟩
  · rintro ⟨found, framed⟩
    rw [bodies, bodiesFrom_frames 0 framed]

/-! ## Logs cut short -/

/-- What stops reading at `offset`: one to three bytes of a length, or a length with fewer bytes
than it declares; the failure names the offset, and the declared length and the bytes that
remain. -/
def CutTail (offset : Nat) (rest : List UInt8) (failure : LogFormatError) : Prop :=
  (1 ≤ rest.length ∧ rest.length ≤ 3 ∧ failure = .truncatedLength offset) ∨
    ∃ size header more, lengthBytes size = some header ∧ rest = header ++ more ∧
      more.length < size ∧ failure = .truncatedRecord offset size more.length

/-- A log cut short after some records: the records, then what stops reading at their end. -/
def CutShort (log : List UInt8) (found : List (List UInt8)) (failure : LogFormatError) : Prop :=
  ∃ written rest, frames found = some written ∧ log = written ++ rest ∧
    CutTail written.length rest failure

/-- When reading from `offset` fails, the bodies read are complete records, and what follows
them stops reading at an offset counted on from `offset`. -/
theorem cutTail_of_bodiesFrom {offset : Nat} {input : List UInt8} {problem : LogFormatError}
    (read : (bodiesFrom offset input).2 = some problem) :
    ∃ written rest, frames (bodiesFrom offset input).1 = some written ∧ input = written ++ rest ∧
      CutTail (offset + written.length) rest problem := by
  fun_induction bodiesFrom offset input with
  | case1 offset =>
      cases read
  | case2 offset b0 b1 b2 b3 rest size body cut =>
      cases read
      have remaining : rest.length < size := by
        simp only [body, List.length_take] at cut
        omega
      exact ⟨[], _, rfl, rfl,
        .inr ⟨size, _, rest, lengthBytes_of_bytes b0 b1 b2 b3, rfl, remaining, by simp⟩⟩
  | case3 offset b0 b1 b2 b3 rest size body whole more failure later inductionHypothesis =>
      rw [later] at inductionHypothesis
      obtain ⟨written, tail, moreFramed, restIs, stops⟩ := inductionHypothesis read
      have bodyLength : body.length = size := by
        simp only [body, List.length_take] at whole ⊢
        omega
      refine ⟨[b0, b1, b2, b3] ++ body ++ written, tail, ?_, ?_, ?_⟩
      · refine frames_cons.2 ⟨_, written, ?_, moreFramed, rfl⟩
        rw [frame_eq_some, bodyLength]
        exact ⟨_, lengthBytes_of_bytes b0 b1 b2 b3, rfl⟩
      · rw [List.append_assoc, ← restIs]
        simp only [body, List.cons_append, List.nil_append, List.take_append_drop]
      · have offsets : offset + 4 + size + written.length =
            offset + ([b0, b1, b2, b3] ++ body ++ written).length := by
          simp only [List.length_append, bodyLength]
          simp
          omega
        rwa [← offsets]
  | case4 offset input notEmpty notRecord =>
      cases read
      refine ⟨[], input, rfl, rfl, .inl ⟨?_, ?_, by simp⟩⟩
      · exact List.length_pos_iff.2 notEmpty
      · match input, notRecord with
        | [], _ => simp
        | [_], _ => simp
        | [_, _], _ => simp
        | [_, _, _], _ => simp
        | b0 :: b1 :: b2 :: b3 :: rest, notRecord => exact absurd rfl (notRecord b0 b1 b2 b3 rest)

/-- A log reads to its end exactly when it is the records of the bodies read. -/
theorem bodies_eq_none_iff {log : List UInt8} {found : List (List UInt8)} :
    bodies log = (found, none) ↔ frames found = some log := by
  constructor
  · intro read
    have whole : (bodiesFrom 0 log).2 = none := by rw [← bodies, read]
    have found_eq : (bodiesFrom 0 log).1 = found := by rw [← bodies, read]
    rw [← found_eq]
    exact frames_of_bodiesFrom whole
  · intro framed
    exact bodiesFrom_frames 0 framed

theorem eq_of_frames_eq {found others : List (List UInt8)} {log : List UInt8}
    (foundFramed : frames found = some log) (othersFramed : frames others = some log) :
    found = others := by
  have readFound := bodiesFrom_frames 0 foundFramed
  rw [bodiesFrom_frames 0 othersFramed, Prod.mk.injEq] at readFound
  exact readFound.1.symm

theorem cutShort_of_bodies {log : List UInt8} {found : List (List UInt8)}
    {failure : LogFormatError} (read : bodies log = (found, some failure)) :
    CutShort log found failure := by
  have stopped : (bodiesFrom 0 log).2 = some failure := by rw [← bodies, read]
  have found_eq : (bodiesFrom 0 log).1 = found := by rw [← bodies, read]
  obtain ⟨written, rest, framed, split, stops⟩ := cutTail_of_bodiesFrom stopped
  rw [found_eq, Nat.zero_add] at *
  exact ⟨written, rest, framed, split, stops⟩

theorem prefix_of_frames_prefix {log written : List UInt8} {earlier : List (List UInt8)}
    (framed : frames earlier = some written) (starts : written <+: log) :
    earlier <+: (bodies log).1 := by
  obtain ⟨rest, rfl⟩ := starts
  rw [bodies, bodiesFrom_frames_append 0 framed rest]
  exact List.prefix_append _ _

variable (pb : Protobuf)

/-- The warning for the record at `index` whose body does not decode as an envelope. -/
def skipWarning (body : List UInt8) (index : Nat) : Option String :=
  match Datagram.decode pb body with
  | .ok _ => none
  | .error problem =>
    let reason := problem.message
    some s!"Skipping record {index}: {reason}"

theorem decodeFrom_eq (index : Nat) (found : List (List UInt8)) :
    decodeFrom pb index found =
      (found.filterMap fun body => (Datagram.decode pb body).toOption,
        (found.zipIdx index).filterMap fun (body, position) => skipWarning pb body position) := by
  induction found generalizing index with
  | nil =>
      rfl
  | cons body rest inductionHypothesis =>
      rw [decodeFrom, inductionHypothesis, List.filterMap_cons, List.zipIdx_cons,
        List.filterMap_cons]
      cases decoded : Datagram.decode pb body <;> simp [decoded, skipWarning, Except.toOption]

end Log

/-- A log reads to its end exactly when it is a run of complete records, and then gives back their
bodies, which are the only bodies framed into it. A log that is not is read up to the longest run
of complete records it starts with, and the failure names what cuts the next record short: one to
three bytes of a length, or a length with fewer bytes than it declares. Decoding keeps the
envelopes that decode, in order, and warns by position about each body that does not, so a body
that does not decode changes nothing about the records after it. -/
theorem log_reads_exactly_its_records (pb : Protobuf) :
    (∀ (log : List UInt8) (found : List (List UInt8)),
      Log.bodies log = (found, none) ↔ Log.frames found = some log) ∧
    (∀ (found others : List (List UInt8)) (log : List UInt8),
      Log.frames found = some log → Log.frames others = some log → found = others) ∧
    (∀ (log : List UInt8) (found : List (List UInt8)) (failure : LogFormatError),
      Log.bodies log = (found, some failure) →
        Log.CutShort log found failure ∧
        ∀ (earlier : List (List UInt8)) (written : List UInt8),
          Log.frames earlier = some written → written <+: log → earlier <+: found) ∧
    ∀ log : List UInt8,
      (Log.read pb log).datagrams =
          (Log.bodies log).1.filterMap (fun body => (Datagram.decode pb body).toOption) ∧
        (Log.read pb log).warnings =
          (Log.bodies log).1.zipIdx.filterMap (fun (body, index) => Log.skipWarning pb body index) ∧
        (Log.read pb log).failure = (Log.bodies log).2 := by
  refine ⟨fun log found => Log.bodies_eq_none_iff,
    fun found others log => Log.eq_of_frames_eq, ?_, ?_⟩
  · intro log found failure read
    refine ⟨Log.cutShort_of_bodies read, fun earlier written framed starts => ?_⟩
    have first := Log.prefix_of_frames_prefix framed starts
    rwa [read] at first
  · intro log
    have decoded := Log.decodeFrom_eq pb 0 (Log.bodies log).1
    simp only [Log.read, decoded, and_self]

/-- A record holding the byte 7 and an empty record read back whole; the record holding 7 followed
by a length of 2 with one byte after it is read, and the second record is cut short at offset 5,
declaring 2 bytes of which 1 remains. -/
theorem log_reads_exactly_its_records_cut_body :
    Log.bodies [1, 0, 0, 0, 7, 0, 0, 0, 0] = ([[7], []], none) ∧
      Log.CutShort [1, 0, 0, 0, 7, 2, 0, 0, 0, 9] [[7]] (.truncatedRecord 5 2 1) ∧
      [[7]] <+: (Log.bodies [1, 0, 0, 0, 7, 2, 0, 0, 0, 9]).1 := by
  obtain ⟨whole, -, cut, -⟩ := log_reads_exactly_its_records Wire.proto2
  have sevenFramed : Log.frames [[7]] = some [1, 0, 0, 0, 7] := by decide
  have read : Log.bodies [1, 0, 0, 0, 7, 2, 0, 0, 0, 9] =
      ([[7]], some (.truncatedRecord 5 2 1)) := by
    have framed := Log.bodiesFrom_frames_append 0 sevenFramed [2, 0, 0, 0, 9]
    rw [Log.bodies, show ([1, 0, 0, 0, 7, 2, 0, 0, 0, 9] : List UInt8) =
      [1, 0, 0, 0, 7] ++ [2, 0, 0, 0, 9] from rfl, framed]
    simp [Log.bodiesFrom]
  have first : (Log.bodies [1, 0, 0, 0, 7, 2, 0, 0, 0, 9]).1 = [[7]] := by rw [read]
  obtain ⟨cutShort, longest⟩ := cut _ _ _ read
  exact ⟨(whole _ _).2 (by decide), cutShort, first ▸ longest [[7]] _ sevenFramed
    ⟨[2, 0, 0, 0, 9], rfl⟩⟩

end RefereeGrading
