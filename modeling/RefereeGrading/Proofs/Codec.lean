import RefereeGrading.Proofs.Framing
import RefereeGrading.Proofs.Proto2

/-!
# What a capture reads back

With any lawful runtime, an envelope whose address is a string and whose fields fit reads back
as its datagram, a command whose numbers fit reads back from its referee message, and a log of
such datagrams reads back whole. An address with an unpaired surrogate cannot be written. The
proto2 runtime shows the length bounds are needed.
-/

namespace RefereeGrading

/-! ## Range checks -/

theorem Scalar.fits_eq_true {type : Scalar} {value : Int} :
    type.fits value = true ↔ type.least ≤ value ∧ value < type.bound := by
  simp [Scalar.fits]

section Ranges

variable {α : Type} (message : α)

theorem checkRanges_of_fits {values : List (Scalar × Int)}
    (fit : ∀ entry ∈ values, entry.1.fits entry.2 = true) :
    checkRanges values message = .ok message := by
  unfold checkRanges
  split
  next found =>
    have refused := List.find?_some found
    simp [fit _ (List.mem_of_find?_eq_some found)] at refused
  next => rfl

theorem checkRanges_eq_error {values : List (Scalar × Int)}
    (misfit : ∃ entry ∈ values, entry.1.fits entry.2 = false) :
    ∃ value, checkRanges values message = .error (.outOfRange value) := by
  unfold checkRanges
  split
  next value _ => exact ⟨value, rfl⟩
  next found =>
    obtain ⟨entry, member, refused⟩ := misfit
    have fits := List.find?_eq_none.1 found entry member
    simp [refused] at fits

theorem checkRanges_cons_of_fits {type : Scalar} {value : Int} (rest : List (Scalar × Int))
    (fit : type.fits value = true) :
    checkRanges ((type, value) :: rest) message = checkRanges rest message := by
  simp [checkRanges, fit]

theorem checkRanges_cons_of_misfit {type : Scalar} {value : Int} (rest : List (Scalar × Int))
    (misfit : type.fits value = false) :
    checkRanges ((type, value) :: rest) message = .error (.outOfRange value) := by
  simp [checkRanges, misfit]

end Ranges

variable {pb : Protobuf}

/-! ## Envelopes -/

namespace Datagram

/-- A datagram a capture can write and read back: its address is a string, whose UTF-8 form, like
its payload, is shorter than `2 ^ 31 - 1` bytes, and its port and time fit their 32-bit and
64-bit fields. -/
structure Encodable (datagram : Datagram) : Prop where
  address : ∃ text : String, datagram.address = Address.ofString text ∧
    (Text.encode text).length < 2 ^ 31 - 1
  portNonneg : 0 ≤ datagram.port
  portBelow : datagram.port < 2 ^ 32
  timestampNonneg : 0 ≤ datagram.timestamp
  timestampBelow : datagram.timestamp < 2 ^ 64
  payloadShort : datagram.payload.length < 2 ^ 31 - 1

theorem encode_ofString (laws : pb.Lawful) (text : String) {port timestamp : Int}
    (payload : List UInt8) (portNonneg : 0 ≤ port) (portBelow : port < 2 ^ 32)
    (timestampNonneg : 0 ≤ timestamp) (timestampBelow : timestamp < 2 ^ 64) :
    encode pb ⟨Address.ofString text, port, timestamp, payload⟩ =
      .ok (pb.writeEnvelope ⟨some (.ofString text), some (.ofNat port.toNat),
        some (.ofNat timestamp.toNat), some payload⟩) := by
  have fit : ∀ entry ∈ [(Scalar.uint32, port), (.uint64, timestamp)], entry.1.fits entry.2 = true := by
    simp only [List.mem_cons, List.not_mem_nil, or_false, forall_eq_or_imp, forall_eq,
      Scalar.fits_eq_true, Scalar.least, Scalar.bound]
    omega
  rw [encode, laws.envelope_ofString, checkRanges_of_fits _ fit]
  rfl

theorem encode_of_time_outside (laws : pb.Lawful) (text : String) {port timestamp : Int}
    (payload : List UInt8) (portNonneg : 0 ≤ port) (portBelow : port < 2 ^ 32)
    (outside : ¬(0 ≤ timestamp ∧ timestamp < 2 ^ 64)) :
    encode pb ⟨Address.ofString text, port, timestamp, payload⟩ =
      .error (.outOfRange timestamp) := by
  have portFits : Scalar.uint32.fits port = true := by
    rw [Scalar.fits_eq_true]
    exact ⟨portNonneg, portBelow⟩
  have timeMisfit : Scalar.uint64.fits timestamp = false := by
    rw [← Bool.not_eq_true, Scalar.fits_eq_true]
    exact outside
  rw [encode, laws.envelope_ofString, checkRanges_cons_of_fits _ _ portFits,
    checkRanges_cons_of_misfit _ _ timeMisfit]
  rfl

theorem encode_of_unencodable (laws : pb.Lawful) {points : List Nat} {run : Text.SurrogateRun}
    (refused : Text.encodePoints points = .error run) (port timestamp : Int)
    (payload : List UInt8) :
    encode pb ⟨.text points, port, timestamp, payload⟩ = .error (.unencodable run) := by
  rw [encode, laws.envelope_unencodable points run port timestamp payload refused]
  rfl

theorem decode_write (laws : pb.Lawful) (text : String) (port : UInt32) (timestamp : UInt64)
    (payload : List UInt8) (addressShort : (Text.encode text).length < 2 ^ 31 - 1)
    (payloadShort : payload.length < 2 ^ 31 - 1) :
    decode pb (pb.writeEnvelope ⟨some (.ofString text), some port, some timestamp, some payload⟩) =
      .ok ⟨.ofString text, port.toNat, timestamp.toNat, payload⟩ := by
  rw [decode, laws.readEnvelope_write text port timestamp payload addressShort payloadShort]
  rfl

/-- A datagram a capture can write reads back from its envelope. -/
theorem decode_encode (laws : pb.Lawful) {datagram : Datagram} (encodable : datagram.Encodable) :
    ∃ bytes, datagram.encode pb = .ok bytes ∧ decode pb bytes = .ok datagram := by
  obtain ⟨⟨text, addressIs, addressShort⟩, portNonneg, portBelow, timestampNonneg, timestampBelow,
    payloadShort⟩ := encodable
  obtain ⟨address, port, timestamp, payload⟩ := datagram
  dsimp only at addressIs portNonneg portBelow timestampNonneg timestampBelow payloadShort
  subst addressIs
  refine ⟨_, encode_ofString laws text payload portNonneg portBelow timestampNonneg timestampBelow,
    ?_⟩
  rw [decode_write laws text _ _ payload addressShort payloadShort]
  have portBack : ((UInt32.ofNat port.toNat).toNat : Int) = port := by
    simp only [UInt32.toNat_ofNat']
    omega
  have timeBack : ((UInt64.ofNat timestamp.toNat).toNat : Int) = timestamp := by
    simp only [UInt64.toNat_ofNat']
    omega
  rw [portBack, timeBack]

end Datagram

/-! ## Referee messages -/

namespace Command

/-- Numbers a referee message can carry: a signed 32-bit code, an unsigned 32-bit counter, and
unsigned 64-bit command and packet times. -/
structure Sendable (code counter issuedAt packetTime : Int) : Prop where
  codeAbove : -2 ^ 31 ≤ code
  codeBelow : code < 2 ^ 31
  counterNonneg : 0 ≤ counter
  counterBelow : counter < 2 ^ 32
  issuedNonneg : 0 ≤ issuedAt
  issuedBelow : issuedAt < 2 ^ 64
  packetNonneg : 0 ≤ packetTime
  packetBelow : packetTime < 2 ^ 64

variable {code counter issuedAt packetTime : Int}

theorem fits_iff_sendable :
    (∀ entry ∈ [(Scalar.uint64, if packetTime = 0 then issuedAt else packetTime), (.int32, 0),
        (.int32, code), (.uint32, counter), (.uint64, issuedAt)], entry.1.fits entry.2 = true) ↔
      Sendable code counter issuedAt packetTime := by
  simp only [List.mem_cons, List.not_mem_nil, or_false, forall_eq_or_imp, forall_eq,
    Scalar.fits_eq_true, Scalar.least, Scalar.bound]
  constructor
  · rintro ⟨packet, -, codeFits, counterFits, issuedFits⟩
    refine ⟨codeFits.1, codeFits.2, counterFits.1, counterFits.2, issuedFits.1, issuedFits.2, ?_,
      ?_⟩ <;> split at packet <;> omega
  · intro sendable
    obtain ⟨_, _, _, _, _, _, _, _⟩ := sendable
    refine ⟨?_, by decide, ⟨?_, ?_⟩, ⟨?_, ?_⟩, ⟨?_, ?_⟩⟩ <;> (try split) <;> omega

theorem encode_eq_ok (laws : pb.Lawful) (sendable : Sendable code counter issuedAt packetTime) :
    encode pb code counter issuedAt packetTime =
      .ok (pb.writeReferee ⟨some (.ofNat (if packetTime = 0 then issuedAt else packetTime).toNat),
        some (.ofInt 0), some (.ofInt code), some (.ofNat counter.toNat),
        some (.ofNat issuedAt.toNat)⟩) := by
  rw [encode, laws.referee_checked, checkRanges_of_fits _ (fits_iff_sendable.2 sendable)]
  rfl

theorem encode_eq_error (laws : pb.Lawful) (outside : ¬Sendable code counter issuedAt packetTime) :
    ∃ value, encode pb code counter issuedAt packetTime = .error (.outOfRange value) := by
  have misfit : ∃ entry ∈ [(Scalar.uint64, if packetTime = 0 then issuedAt else packetTime),
      (.int32, 0), (.int32, code), (.uint32, counter), (.uint64, issuedAt)],
        entry.1.fits entry.2 = false := by
    by_contra allFit
    refine outside (fits_iff_sendable.1 fun entry member => ?_)
    by_contra refused
    exact allFit ⟨entry, member, by simpa using refused⟩
  obtain ⟨value, refused⟩ := checkRanges_eq_error
    ((⟨some (.ofNat (if packetTime = 0 then issuedAt else packetTime).toNat), some (.ofInt 0),
      some (.ofInt code), some (.ofNat counter.toNat), some (.ofNat issuedAt.toNat)⟩ :
        RefereeMessage)) misfit
  refine ⟨value, ?_⟩
  rw [encode, laws.referee_checked, refused]
  rfl

/-- A command whose numbers fit their fields reads back from its referee message, at any
source. -/
theorem decode_encode (laws : pb.Lawful) (sendable : Sendable code counter issuedAt packetTime)
    (source : Int) :
    ∃ bytes, encode pb code counter issuedAt packetTime = .ok bytes ∧
      decode pb bytes source = .ok ⟨source, counter, issuedAt, code⟩ := by
  refine ⟨_, encode_eq_ok laws sendable, ?_⟩
  obtain ⟨codeAbove, codeBelow, counterNonneg, counterBelow, issuedNonneg, issuedBelow, -, -⟩ :=
    sendable
  rw [decode, laws.readReferee_write]
  have codeBack : (Int32.ofInt code).toInt = code := Int32.toInt_ofInt_of_le codeAbove codeBelow
  have counterBack : ((UInt32.ofNat counter.toNat).toNat : Int) = counter := by
    simp only [UInt32.toNat_ofNat']
    omega
  have issuedBack : ((UInt64.ofNat issuedAt.toNat).toNat : Int) = issuedAt := by
    simp only [UInt64.toNat_ofNat']
    omega
  simp only [Except.mapError, bind, Except.bind, Option.map_some, Option.getD_some, codeBack,
    counterBack, issuedBack]
  rfl

end Command

/-! ## Logs -/

namespace Log

theorem write_cons (datagram : Datagram) (rest : List Datagram) :
    write pb (datagram :: rest) = do
      let first ← record pb datagram
      let more ← write pb rest
      return first ++ more := by
  simp only [write, List.mapM_cons, bind_assoc, pure_bind, List.flatten_cons]

theorem write_cons_eq_ok {datagram : Datagram} {rest : List Datagram} {log : List UInt8}
    (written : write pb (datagram :: rest) = .ok log) :
    ∃ bytes restLog, record pb datagram = .ok bytes ∧ write pb rest = .ok restLog ∧
      log = bytes ++ restLog := by
  rw [write_cons] at written
  cases recorded : record pb datagram with
  | error problem => simp [recorded, bind, Except.bind] at written
  | ok bytes =>
    cases restWritten : write pb rest with
    | error problem => simp [recorded, restWritten, bind, Except.bind] at written
    | ok restLog =>
      simp only [recorded, restWritten, bind, Except.bind, pure, Except.pure,
        Except.ok.injEq] at written
      exact ⟨bytes, restLog, rfl, rfl, written.symm⟩

theorem record_eq_ok {datagram : Datagram} {envelope : List UInt8}
    (encoded : datagram.encode pb = .ok envelope) (short : envelope.length < 2 ^ 32) :
    ∃ bytes, record pb datagram = .ok bytes ∧ frame envelope = some bytes := by
  obtain ⟨bytes, framed⟩ := Option.isSome_iff_exists.1 (frame_isSome.2 short)
  refine ⟨bytes, ?_, framed⟩
  rw [record, encoded]
  simp [Except.mapError, bind, Except.bind, framed, pure, Except.pure]

/-- Datagrams a capture can write, each envelope short enough for its four-byte length, read
back from the log written for them, in order and with no warning. -/
theorem read_write (laws : pb.Lawful) {datagrams : List Datagram}
    (writable : ∀ datagram ∈ datagrams, datagram.Encodable ∧
      ∀ bytes, datagram.encode pb = .ok bytes → bytes.length < 2 ^ 32) :
    ∃ log, write pb datagrams = .ok log ∧ read pb log = ⟨datagrams, [], none⟩ := by
  -- the log is the records of the envelopes, which decode back from any position
  have framed : ∃ log envelopes, write pb datagrams = .ok log ∧ frames envelopes = some log ∧
      ∀ index, decodeFrom pb index envelopes = (datagrams, []) := by
    induction datagrams with
    | nil =>
        exact ⟨[], [], rfl, rfl, fun _ => rfl⟩
    | cons datagram rest inductionHypothesis =>
        have headWritable := writable datagram List.mem_cons_self
        obtain ⟨envelope, encoded, decoded⟩ := Datagram.decode_encode laws headWritable.1
        obtain ⟨bytes, recorded, framedHead⟩ := record_eq_ok encoded (headWritable.2 _ encoded)
        obtain ⟨log, envelopes, written, framedRest, decodedRest⟩ :=
          inductionHypothesis fun other member => writable other (List.mem_cons_of_mem datagram member)
        refine ⟨bytes ++ log, envelope :: envelopes, ?_, frames_cons.2 ⟨bytes, log, framedHead,
          framedRest, rfl⟩, fun index => ?_⟩
        · rw [write_cons, recorded, written]
          rfl
        · simp [decodeFrom, decodedRest, decoded]
  obtain ⟨log, envelopes, written, framedLog, decoded⟩ := framed
  refine ⟨log, written, ?_⟩
  simp [read, bodies_eq_none_iff.2 framedLog, decoded]

end Log

/-! ## Envelopes of the proto2 runtime -/

theorem Datagram.length_encode_proto2_le {text : String} {port timestamp : Int}
    {payload bytes : List UInt8} (addressShort : (Text.encode text).length < 2 ^ 35)
    (payloadShort : payload.length < 2 ^ 35)
    (encoded : Datagram.encode Wire.proto2 ⟨Address.ofString text, port, timestamp, payload⟩ =
      .ok bytes) :
    bytes.length ≤ (Text.encode text).length + payload.length + 29 := by
  rw [Datagram.encode, Wire.proto2_lawful.envelope_ofString, checkRanges] at encoded
  split at encoded
  · cases encoded
  · have written : Wire.writeEnvelope ⟨some (.ofString text), some (.ofNat port.toNat),
        some (.ofNat timestamp.toNat), some payload⟩ = bytes := Except.ok.inj encoded
    rw [← written, ← Wire.addressBytes_ofString]
    exact Wire.length_writeEnvelope_le _ _ _ _ (by rwa [Wire.addressBytes_ofString]) payloadShort

/-- An envelope holding `2 ^ 31 - 1` bytes of payload or more is written by the proto2 runtime,
but does not decode. -/
theorem Datagram.decode_proto2_of_long (text : String) {port timestamp : Int}
    {payload : List UInt8} (addressShort : (Text.encode text).length < 2 ^ 31 - 1)
    (portNonneg : 0 ≤ port) (portBelow : port < 2 ^ 32) (timestampNonneg : 0 ≤ timestamp)
    (timestampBelow : timestamp < 2 ^ 64) (payloadLong : 2 ^ 31 - 1 ≤ payload.length)
    (payloadFits : payload.length < 2 ^ 35) :
    ∃ bytes, Datagram.encode Wire.proto2 ⟨Address.ofString text, port, timestamp, payload⟩ =
        .ok bytes ∧
      Datagram.decode Wire.proto2 bytes =
        .error (.malformed .envelope bytes.length (Wire.corrupt .envelope)) := by
  refine ⟨_, Datagram.encode_ofString Wire.proto2_lawful text payload portNonneg portBelow
    timestampNonneg timestampBelow, ?_⟩
  have refused := Wire.readEnvelope_of_long text (.ofNat port.toNat) (.ofNat timestamp.toNat)
    addressShort payloadLong payloadFits
  rw [Datagram.decode]
  simp only [Wire.proto2] at refused ⊢
  rw [refused]
  rfl

/-! ## The three round trips -/

/-- What a capture writes reads back, with any lawful runtime: an envelope whose address is a
string and whose fields fit decodes to its datagram; a command whose numbers fit their fields
reads back from its referee message at any source, while a number outside its field fails the
encoding; a log of such datagrams whose envelopes fit the four-byte frame length reads back
whole; and an address with no UTF-8 form can be neither encoded nor logged. -/
theorem wire_formats_read_back (pb : Protobuf) (laws : pb.Lawful) :
    (∀ datagram : Datagram, datagram.Encodable →
      ∃ bytes, datagram.encode pb = .ok bytes ∧ Datagram.decode pb bytes = .ok datagram) ∧
    (∀ code counter issuedAt packetTime source : Int,
      (Command.Sendable code counter issuedAt packetTime →
        ∃ bytes, Command.encode pb code counter issuedAt packetTime = .ok bytes ∧
          Command.decode pb bytes source = .ok ⟨source, counter, issuedAt, code⟩) ∧
      (¬Command.Sendable code counter issuedAt packetTime →
        ∃ value, Command.encode pb code counter issuedAt packetTime = .error (.outOfRange value))) ∧
    (∀ datagrams : List Datagram,
      (∀ datagram ∈ datagrams, datagram.Encodable ∧
        ∀ bytes, datagram.encode pb = .ok bytes → bytes.length < 2 ^ 32) →
      ∃ log, Log.write pb datagrams = .ok log ∧ Log.read pb log = ⟨datagrams, [], none⟩) ∧
    ∀ (points : List Nat) (run : Text.SurrogateRun) (port timestamp : Int) (payload : List UInt8),
      Text.encodePoints points = .error run →
        Datagram.encode pb ⟨.text points, port, timestamp, payload⟩ = .error (.unencodable run) ∧
        Log.write pb [⟨.text points, port, timestamp, payload⟩] =
          .error (.encode (.unencodable run)) := by
  refine ⟨fun datagram encodable => Datagram.decode_encode laws encodable, ?_,
    fun datagrams writable => Log.read_write laws writable, ?_⟩
  · intro code counter issuedAt packetTime source
    exact ⟨fun sendable => Command.decode_encode laws sendable source,
      Command.encode_eq_error laws⟩
  · intro points run port timestamp payload refused
    have refusedEnvelope := Datagram.encode_of_unencodable laws refused port timestamp payload
    refine ⟨refusedEnvelope, ?_⟩
    rw [Log.write_cons, Log.record, refusedEnvelope]
    rfl

/-- The datagram sent to `a` on port 1 at time 0 with an empty payload. -/
def sampleDatagram : Datagram := ⟨Address.ofString "a", 1, 0, []⟩

theorem sampleDatagram_encodable : sampleDatagram.Encodable :=
  ⟨⟨"a", rfl, by decide⟩, by decide, by decide, by decide, by decide, by decide⟩

theorem wire_formats_read_back_sample :
    (∃ bytes, sampleDatagram.encode Wire.proto2 = .ok bytes ∧
      Datagram.decode Wire.proto2 bytes = .ok sampleDatagram) ∧
    (∃ bytes, Command.encode Wire.proto2 (-1) 0 5 0 = .ok bytes ∧
      Command.decode Wire.proto2 bytes 2 = .ok ⟨2, 0, 5, -1⟩) ∧
    ∃ log, Log.write Wire.proto2 [sampleDatagram] = .ok log ∧
      Log.read Wire.proto2 log = ⟨[sampleDatagram], [], none⟩ := by
  obtain ⟨envelope, referee, logs, -⟩ := wire_formats_read_back Wire.proto2 Wire.proto2_lawful
  have sendable : Command.Sendable (-1) 0 5 0 :=
    ⟨by decide, by decide, by decide, by decide, by decide, by decide, by decide, by decide⟩
  refine ⟨envelope _ sampleDatagram_encodable, (referee (-1) 0 5 0 2).1 sendable, logs _ ?_⟩
  intro datagram member
  rw [List.mem_singleton] at member
  subst member
  refine ⟨sampleDatagram_encodable, fun bytes encoded => ?_⟩
  have addressLength : (Text.encode "a").length = 1 := by decide
  have bound := Datagram.length_encode_proto2_le (by omega) (by decide) encoded
  rw [List.length_nil] at bound
  omega

/-- Two datagrams a capture cannot round-trip with the proto2 runtime: an address holding a
lone surrogate cannot be written, so neither the envelope nor a log of it is, and a payload of
`2 ^ 31 - 1` bytes is written but the envelope holding it does not decode. -/
theorem wire_formats_refuse_surrogates_and_long_payloads :
    Datagram.encode Wire.proto2 ⟨.text [0xD800], 1, 0, []⟩ =
      .error (.unencodable ⟨[0xD800], 0, 1⟩) ∧
    Log.write Wire.proto2 [⟨.text [0xD800], 1, 0, []⟩] =
      .error (.encode (.unencodable ⟨[0xD800], 0, 1⟩)) ∧
    ∃ bytes, Datagram.encode Wire.proto2
        ⟨Address.ofString "a", 1, 0, List.replicate (2 ^ 31 - 1) 0⟩ = .ok bytes ∧
      Datagram.decode Wire.proto2 bytes =
        .error (.malformed .envelope bytes.length (Wire.corrupt .envelope)) :=
  ⟨by decide, by decide, Datagram.decode_proto2_of_long "a" (by decide) (by decide) (by decide)
    (by decide) (by decide) (by rw [List.length_replicate]) (by rw [List.length_replicate]; decide)⟩

end RefereeGrading
