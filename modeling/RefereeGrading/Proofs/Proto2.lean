import Mathlib
import RefereeGrading.Wire.Proto2
import RefereeGrading.Proofs.Text

/-!
# The proto2 runtime keeps the laws

A message written as varint and length-delimited fields under positive numbers scans back as
those fields when each length-delimited value is shorter than `2 ^ 31 - 1` bytes; a longer one
makes the input corrupt. So complete messages read back, and `proto2` is lawful.
-/

namespace RefereeGrading

namespace Wire

/-! ## Varints -/

theorem encodeVarint_of_lt {n : Nat} (small : n < 128) : encodeVarint n = [n.toUInt8] := by
  rw [encodeVarint, if_pos small]

theorem encodeVarint_of_le {n : Nat} (large : 128 ≤ n) :
    encodeVarint n = (n % 128 + 128).toUInt8 :: encodeVarint (n / 128) := by
  rw [encodeVarint, if_neg (by omega)]

theorem encodeVarint_ne_nil (n : Nat) : encodeVarint n ≠ [] := by
  by_cases small : n < 128
  · simp [encodeVarint_of_lt small]
  · simp [encodeVarint_of_le (Nat.le_of_not_lt small)]

theorem length_encodeVarint_le {n k : Nat} (below : n < 2 ^ (7 * (k + 1))) :
    (encodeVarint n).length ≤ k + 1 := by
  induction k generalizing n with
  | zero =>
      rw [encodeVarint_of_lt (by simpa using below)]
      rfl
  | succ k inductionHypothesis =>
      by_cases small : n < 128
      · rw [encodeVarint_of_lt small]
        simp
      · rw [encodeVarint_of_le (Nat.le_of_not_lt small), List.length_cons]
        have shifted : n / 128 < 2 ^ (7 * (k + 1)) := by
          rw [Nat.div_lt_iff_lt_mul (by decide)]
          have power : 2 ^ (7 * (k + 1 + 1)) = 2 ^ (7 * (k + 1)) * 128 := by
            rw [show 7 * (k + 1 + 1) = 7 * (k + 1) + 7 by omega, Nat.pow_add]
          omega
        have := inductionHypothesis shifted
        omega

theorem any_lt_encodeVarint (n : Nat) : (encodeVarint n).any (· < 0x80) = true := by
  induction n using Nat.strong_induction_on with
  | _ n inductionHypothesis =>
      by_cases small : n < 128
      · rw [encodeVarint_of_lt small]
        simp only [List.any_cons, List.any_nil, Bool.or_false, decide_eq_true_eq]
        rw [UInt8.lt_iff_toNat_lt]
        simp only [Nat.toUInt8, UInt8.toNat_ofNat']
        simp
        omega
      · rw [encodeVarint_of_le (Nat.le_of_not_lt small), List.any_cons,
          inductionHypothesis (n / 128) (by omega), Bool.or_true]

/-- Reading a varint from byte `index` on, with `acc` added up before it, gives the encoded
number in its place, as long as the bytes stay within the limit. -/
theorem readVarintFrom_encodeVarint (n : Nat) {index acc : Nat} (rest : List UInt8)
    (fits : index + (encodeVarint n).length ≤ varintLimit) :
    readVarintFrom index acc (encodeVarint n ++ rest) =
      some ((acc + n * 2 ^ (7 * index)) % 2 ^ 64, rest) := by
  induction n using Nat.strong_induction_on generalizing index acc with
  | _ n inductionHypothesis =>
      by_cases small : n < 128
      · have byte : n.toUInt8.toNat = n := by
          simp only [Nat.toUInt8, UInt8.toNat_ofNat']
          omega
        rw [encodeVarint_of_lt small, List.singleton_append, readVarintFrom, byte,
          if_pos small, Nat.mod_eq_of_lt small, Nat.shiftLeft_eq]
        rfl
      · rw [encodeVarint_of_le (Nat.le_of_not_lt small)] at fits ⊢
        have byte : (n % 128 + 128).toUInt8.toNat = n % 128 + 128 := by
          simp only [Nat.toUInt8, UInt8.toNat_ofNat']
          omega
        have more := List.length_pos_iff.2 (encodeVarint_ne_nil (n / 128))
        simp only [List.length_cons] at fits
        rw [List.cons_append, readVarintFrom, byte, Nat.shiftLeft_eq, if_neg (by omega),
          if_neg (by simp only [varintLimit] at fits ⊢; omega),
          inductionHypothesis (n / 128) (by omega) (by omega)]
        have power : 2 ^ (7 * (index + 1)) = 2 ^ (7 * index) * 128 := by
          rw [show 7 * (index + 1) = 7 * index + 7 by omega, Nat.pow_add]
        -- the low seven bits go in at this byte's place, the rest one place higher
        have placed : acc + (n % 128 + 128) % 128 * 2 ^ (7 * index) +
            n / 128 * (2 ^ (7 * index) * 128) = acc + n * 2 ^ (7 * index) := by
          have low : (n % 128 + 128) % 128 = n % 128 := by omega
          calc acc + (n % 128 + 128) % 128 * 2 ^ (7 * index) + n / 128 * (2 ^ (7 * index) * 128)
              = acc + (n % 128 + 128 * (n / 128)) * 2 ^ (7 * index) := by rw [low]; ring
            _ = acc + n * 2 ^ (7 * index) := by rw [Nat.mod_add_div]
        rw [power, placed]

/-! ## Reading back varints, tags and lengths -/

theorem readVarint_encodeVarint {n : Nat} (rest : List UInt8)
    (fits : (encodeVarint n).length ≤ varintLimit) :
    readVarint (encodeVarint n ++ rest) = some (n % 2 ^ 64, rest) := by
  rw [readVarint, readVarintFrom_encodeVarint n rest (by omega)]
  simp

theorem length_encodeVarint_le_five {n : Nat} (below : n < 2 ^ 35) :
    (encodeVarint n).length ≤ 5 :=
  length_encodeVarint_le (k := 4) below

theorem any_take_five {n : Nat} (short : (encodeVarint n).length ≤ 5) (rest : List UInt8) :
    ((encodeVarint n ++ rest).take 5).any (· < 0x80) = true := by
  rw [List.take_append, List.take_of_length_le short, List.any_append,
    any_lt_encodeVarint, Bool.true_or]

theorem readTag_encodeVarint {tag : Nat} (below : tag < 2 ^ 32) (rest : List UInt8) :
    readTag (encodeVarint tag ++ rest) = some (tag, rest) := by
  have short := length_encodeVarint_le_five (n := tag) (by omega)
  rw [readTag, readVarint_encodeVarint rest (by simp only [varintLimit]; omega),
    Nat.mod_eq_of_lt (by omega), any_take_five short]
  dsimp only
  rw [if_pos (by simp only [Bool.true_and, decide_eq_true_eq]; exact below)]

theorem readLength_encodeVarint {size : Nat} (below : size < 2 ^ 35) (rest : List UInt8) :
    readLength (encodeVarint size ++ rest) = if size < 2 ^ 31 - 1 then some (size, rest) else none := by
  have short := length_encodeVarint_le_five below
  rw [readLength, readVarint_encodeVarint rest (by simp only [varintLimit]; omega),
    Nat.mod_eq_of_lt (by omega), any_take_five short]
  simp

theorem takeExactly_append (front rest : List UInt8) :
    takeExactly front.length (front ++ rest) = some (front, rest) := by
  simp [takeExactly]

/-! ## Scanning the fields an encoder writes -/

section Scan

variable {declared : Bool} {fuel depth : Nat} {closing : Option Nat}

theorem scanFields_of_readTag {input afterTag : List UInt8} {tag : Nat}
    (tagRead : readTag input = some (tag, afterTag)) (notEnd : tag % 8 ≠ 4)
    (notGroup : tag % 8 ≠ 3) (placed : tag / 8 ≠ 0) :
    scanFields declared (fuel + 1) depth closing input =
      (readValue (tag % 8) afterTag).bind fun (value, after) =>
        (scanFields declared fuel depth closing after).map fun (more, final) =>
          (⟨tag / 8, value⟩ :: more, final) := by
  cases input with
  | nil =>
      simp [readTag, readVarint, readVarintFrom] at tagRead
  | cons b bytes =>
      rw [scanFields]
      simp only [Option.bind_eq_bind, tagRead, Option.bind_some, notEnd, notGroup, placed,
        if_false, decide_false, Bool.and_false]
      cases readValue (tag % 8) afterTag with
      | none => rfl
      | some found =>
          obtain ⟨value, after⟩ := found
          simp only [Option.bind_some, Option.pure_def]
          cases scanFields declared fuel depth closing after <;> rfl

theorem scanFields_nil (fuel : Nat) : scanFields declared (fuel + 1) depth none [] = some ([], []) := by
  rw [scanFields]
  rfl

theorem scanFields_varintField {number value : Nat} (positive : 0 < number)
    (small : number < 2 ^ 29) (valueBelow : value < 2 ^ 64) (rest : List UInt8) :
    scanFields declared (fuel + 1) depth closing (varintField number value ++ rest) =
      (scanFields declared fuel depth closing rest).map fun (more, final) =>
        (⟨number, .varint value⟩ :: more, final) := by
  have tagRead : readTag (encodeVarint (number * 8) ++ (encodeVarint value ++ rest)) =
      some (number * 8, encodeVarint value ++ rest) :=
    readTag_encodeVarint (by omega) _
  rw [varintField, List.append_assoc,
    scanFields_of_readTag tagRead (by omega) (by omega) (by omega)]
  have typed : number * 8 % 8 = 0 := by omega
  have numbered : number * 8 / 8 = number := by omega
  have valueRead := readVarint_encodeVarint (n := value) rest
    (length_encodeVarint_le (k := 9) (by omega))
  rw [typed, numbered, Nat.mod_eq_of_lt valueBelow] at *
  simp [readValue, valueRead]

theorem scanFields_bytesField {number : Nat} {content : List UInt8} (positive : 0 < number)
    (small : number < 2 ^ 29) (short : content.length < 2 ^ 31 - 1) (rest : List UInt8) :
    scanFields declared (fuel + 1) depth closing (bytesField number content ++ rest) =
      (scanFields declared fuel depth closing rest).map fun (more, final) =>
        (⟨number, .bytes content⟩ :: more, final) := by
  have tagRead : readTag (encodeVarint (number * 8 + 2) ++
      (encodeVarint content.length ++ (content ++ rest))) =
        some (number * 8 + 2, encodeVarint content.length ++ (content ++ rest)) :=
    readTag_encodeVarint (by omega) _
  simp only [bytesField, List.append_assoc]
  rw [scanFields_of_readTag tagRead (by omega) (by omega) (by omega)]
  have typed : (number * 8 + 2) % 8 = 2 := by omega
  have numbered : (number * 8 + 2) / 8 = number := by omega
  have lengthRead := readLength_encodeVarint (show content.length < 2 ^ 35 by omega) (content ++ rest)
  rw [if_pos short] at lengthRead
  rw [typed, numbered]
  simp [readValue, lengthRead, takeExactly_append]

theorem scanFields_bytesField_of_long {number : Nat} {content : List UInt8} (positive : 0 < number)
    (small : number < 2 ^ 29) (long : 2 ^ 31 - 1 ≤ content.length) (fits : content.length < 2 ^ 35)
    (rest : List UInt8) :
    scanFields declared (fuel + 1) depth closing (bytesField number content ++ rest) = none := by
  have tagRead : readTag (encodeVarint (number * 8 + 2) ++
      (encodeVarint content.length ++ (content ++ rest))) =
        some (number * 8 + 2, encodeVarint content.length ++ (content ++ rest)) :=
    readTag_encodeVarint (by omega) _
  simp only [bytesField, List.append_assoc]
  rw [scanFields_of_readTag tagRead (by omega) (by omega) (by omega)]
  have typed : (number * 8 + 2) % 8 = 2 := by omega
  have lengthRead := readLength_encodeVarint fits (content ++ rest)
  rw [if_neg (by omega)] at lengthRead
  rw [typed]
  simp [readValue, lengthRead]

/-- A field as an encoder writes it: a varint or a length-delimited value under a positive
number below `2 ^ 29`, with a value the reader takes back. -/
inductive Writable : WireField → Prop
  | varint {number value : Nat} (positive : 0 < number) (small : number < 2 ^ 29)
      (valueBelow : value < 2 ^ 64) : Writable ⟨number, .varint value⟩
  | bytes {number : Nat} {content : List UInt8} (positive : 0 < number) (small : number < 2 ^ 29)
      (short : content.length < 2 ^ 31 - 1) : Writable ⟨number, .bytes content⟩

/-- The bytes an encoder writes for a varint or length-delimited field. -/
def writeField : WireField → List UInt8
  | ⟨number, .varint value⟩ => varintField number value
  | ⟨number, .bytes content⟩ => bytesField number content
  | ⟨_, .fixed64 _⟩ | ⟨_, .fixed32 _⟩ => []

theorem writeField_ne_nil {field : WireField} (writable : Writable field) : writeField field ≠ [] := by
  cases writable with
  | varint => simp [writeField, varintField, encodeVarint_ne_nil]
  | bytes => simp [writeField, bytesField, encodeVarint_ne_nil]

theorem scanFields_writeField {field : WireField} (writable : Writable field) (rest : List UInt8) :
    scanFields declared (fuel + 1) depth closing (writeField field ++ rest) =
      (scanFields declared fuel depth closing rest).map fun (more, final) =>
        (field :: more, final) := by
  cases writable with
  | varint positive small valueBelow => exact scanFields_varintField positive small valueBelow rest
  | bytes positive small short => exact scanFields_bytesField positive small short rest

/-- Written fields read back in front of what follows them, one unit of fuel each. -/
theorem scanFields_flatMap_append {fields : List WireField}
    (writable : ∀ field ∈ fields, Writable field) (rest : List UInt8) :
    scanFields declared (fuel + fields.length) depth closing (fields.flatMap writeField ++ rest) =
      (scanFields declared fuel depth closing rest).map fun (more, final) =>
        (fields ++ more, final) := by
  induction fields with
  | nil =>
      simp
  | cons field fields inductionHypothesis =>
      have restWritable := fun other member => writable other (List.mem_cons_of_mem field member)
      rw [List.length_cons, ← Nat.add_assoc, List.flatMap_cons, List.append_assoc,
        scanFields_writeField (writable field List.mem_cons_self),
        inductionHypothesis restWritable, Option.map_map]
      rfl

theorem length_le_flatMap_writeField {fields : List WireField}
    (writable : ∀ field ∈ fields, Writable field) :
    fields.length ≤ (fields.flatMap writeField).length := by
  induction fields with
  | nil =>
      simp
  | cons field fields inductionHypothesis =>
      have restWritable := fun other member => writable other (List.mem_cons_of_mem field member)
      have headLength := List.length_pos_iff.2 (writeField_ne_nil (writable field List.mem_cons_self))
      simp only [List.flatMap_cons, List.length_append, List.length_cons]
      have := inductionHypothesis restWritable
      omega

theorem scan_flatMap_writeField {fields : List WireField}
    (writable : ∀ field ∈ fields, Writable field) :
    scan declared (fields.flatMap writeField) = some fields := by
  obtain ⟨spare, grown⟩ := Nat.exists_eq_add_of_le (length_le_flatMap_writeField writable)
  have fuel : (fields.flatMap writeField).length + 1 = spare + 1 + fields.length := by
    omega
  rw [scan, fuel, ← List.append_nil (fields.flatMap writeField),
    scanFields_flatMap_append writable, scanFields_nil]
  simp

theorem scan_flatMap_append_of_long {fields : List WireField}
    (writable : ∀ field ∈ fields, Writable field) {number : Nat} {content : List UInt8}
    (positive : 0 < number) (small : number < 2 ^ 29) (long : 2 ^ 31 - 1 ≤ content.length)
    (fits : content.length < 2 ^ 35) :
    scan declared (fields.flatMap writeField ++ bytesField number content) = none := by
  have front := length_le_flatMap_writeField writable
  have total : fields.length ≤ (fields.flatMap writeField ++ bytesField number content).length := by
    rw [List.length_append]
    omega
  obtain ⟨spare, grown⟩ := Nat.exists_eq_add_of_le total
  have fuel : (fields.flatMap writeField ++ bytesField number content).length + 1 =
      spare + 1 + fields.length := by
    omega
  rw [scan, fuel, ← List.append_nil (bytesField number content),
    scanFields_flatMap_append writable,
    scanFields_bytesField_of_long positive small long fits]
  rfl

end Scan

/-! ## Messages -/

theorem writeEnvelope_complete (address : Address) (port : UInt32) (time : UInt64)
    (data : List UInt8) :
    writeEnvelope ⟨some address, some port, some time, some data⟩ =
      [⟨1, .bytes (addressBytes address)⟩, ⟨2, .varint port.toNat⟩, ⟨3, .varint time.toNat⟩,
        ⟨4, .bytes data⟩].flatMap writeField := by
  simp [writeEnvelope, optionalField, writeField]

theorem writeReferee_complete (packet : UInt64) (stage command : Int32) (counter : UInt32)
    (issued : UInt64) :
    writeReferee ⟨some packet, some stage, some command, some counter, some issued⟩ =
      [⟨1, .varint packet.toNat⟩, ⟨2, .varint (pattern stage)⟩, ⟨4, .varint (pattern command)⟩,
        ⟨5, .varint counter.toNat⟩, ⟨6, .varint issued.toNat⟩].flatMap writeField := by
  simp [writeReferee, optionalField, writeField]

theorem pattern_lt (value : Int32) : pattern value < 2 ^ 64 := by
  unfold pattern
  omega

theorem asSigned32_pattern (value : Int32) : asSigned32 (pattern value) = value.toInt := by
  have above := Int32.le_toInt value
  have below := Int32.toInt_lt value
  unfold asSigned32 pattern
  dsimp only
  split <;> omega

theorem addressBytes_ofString (text : String) :
    addressBytes (Address.ofString text) = Text.encode text := by
  rw [Address.ofString, addressBytes, Text.encode, List.flatMap_map]

theorem addressOf_encode (text : String) : addressOf (Text.encode text) = Address.ofString text := by
  rw [addressOf, Text.decodePoints_encode]
  rfl

/-- A complete envelope to a text address reads back, when its address and data are shorter
than `2 ^ 31 - 1` bytes. -/
theorem readEnvelope_write (text : String) (port : UInt32) (time : UInt64) (data : List UInt8)
    (addressShort : (Text.encode text).length < 2 ^ 31 - 1)
    (dataShort : data.length < 2 ^ 31 - 1) :
    readEnvelope (writeEnvelope ⟨some (.ofString text), some port, some time, some data⟩) =
      .ok ⟨some (.ofString text), some port, some time, some data⟩ := by
  have writable : ∀ field ∈ [(⟨1, .bytes (Text.encode text)⟩ : WireField),
      ⟨2, .varint port.toNat⟩, ⟨3, .varint time.toNat⟩, ⟨4, .bytes data⟩], Writable field := by
    simp only [List.mem_cons, List.not_mem_nil, or_false, forall_eq_or_imp, forall_eq]
    exact ⟨.bytes (by decide) (by decide) addressShort,
      .varint (by decide) (by decide) (by have := port.toNat_lt; omega),
      .varint (by decide) (by decide) time.toNat_lt, .bytes (by decide) (by decide) dataShort⟩
  have scanned : scan true _ = _ := scan_flatMap_writeField writable
  rw [writeEnvelope_complete, addressBytes_ofString]
  simp only [readEnvelope, fieldsOf, MessageKind.declaresFields, scanned]
  simp [bind, Except.bind, pure, Except.pure, lastBytes, lastVarint, addressOf_encode]

theorem readReferee_write (packet : UInt64) (stage command : Int32) (counter : UInt32)
    (issued : UInt64) :
    readReferee (writeReferee ⟨some packet, some stage, some command, some counter, some issued⟩) =
      .ok ⟨some packet, some stage, some command, some counter, some issued⟩ := by
  have writable : ∀ field ∈ [(⟨1, .varint packet.toNat⟩ : WireField),
      ⟨2, .varint (pattern stage)⟩, ⟨4, .varint (pattern command)⟩, ⟨5, .varint counter.toNat⟩,
      ⟨6, .varint issued.toNat⟩], Writable field := by
    simp only [List.mem_cons, List.not_mem_nil, or_false, forall_eq_or_imp, forall_eq]
    exact ⟨.varint (by decide) (by decide) packet.toNat_lt,
      .varint (by decide) (by decide) (pattern_lt stage),
      .varint (by decide) (by decide) (pattern_lt command),
      .varint (by decide) (by decide) (by have := counter.toNat_lt; omega),
      .varint (by decide) (by decide) issued.toNat_lt⟩
  have scanned : scan true _ = _ := scan_flatMap_writeField writable
  rw [writeReferee_complete]
  simp only [readReferee, fieldsOf, MessageKind.declaresFields, scanned]
  simp [bind, Except.bind, pure, Except.pure, lastVarint, asSigned32_pattern]

/-- The proto2 runtime keeps the laws. -/
theorem proto2_lawful : proto2.Lawful where
  envelope_ofString text port time data := by
    simp only [proto2, envelope, Address.ofString, Text.encodePoints_toList]
  envelope_unencodable points run port time data refused := by
    simp only [proto2, envelope, refused]
    rfl
  referee_checked packet stage command counter issued := rfl
  readEnvelope_write := readEnvelope_write
  readReferee_write := readReferee_write

theorem readEnvelope_of_long (text : String) (port : UInt32) (time : UInt64) {data : List UInt8}
    (addressShort : (Text.encode text).length < 2 ^ 31 - 1) (dataLong : 2 ^ 31 - 1 ≤ data.length)
    (dataFits : data.length < 2 ^ 35) :
    readEnvelope (writeEnvelope ⟨some (.ofString text), some port, some time, some data⟩) =
      .error (corrupt .envelope) := by
  have writable : ∀ field ∈ [(⟨1, .bytes (Text.encode text)⟩ : WireField),
      ⟨2, .varint port.toNat⟩, ⟨3, .varint time.toNat⟩], Writable field := by
    simp only [List.mem_cons, List.not_mem_nil, or_false, forall_eq_or_imp, forall_eq]
    exact ⟨.bytes (by decide) (by decide) addressShort,
      .varint (by decide) (by decide) (by have := port.toNat_lt; omega),
      .varint (by decide) (by decide) time.toNat_lt⟩
  have written : writeEnvelope ⟨some (.ofString text), some port, some time, some data⟩ =
      [(⟨1, .bytes (Text.encode text)⟩ : WireField), ⟨2, .varint port.toNat⟩,
        ⟨3, .varint time.toNat⟩].flatMap writeField ++ bytesField 4 data := by
    simp [writeEnvelope, optionalField, writeField, addressBytes_ofString]
  rw [written]
  simp only [readEnvelope, fieldsOf, MessageKind.declaresFields,
    scan_flatMap_append_of_long writable (show 0 < 4 by decide) (show 4 < 2 ^ 29 by decide)
      dataLong dataFits]
  rfl

/-- A complete envelope holds its address and data and at most 29 bytes more: four one-byte
tags, two lengths and a port of at most five bytes each, and a time of at most ten. -/
theorem length_writeEnvelope_le (address : Address) (port : UInt32) (time : UInt64)
    (data : List UInt8) (addressShort : (addressBytes address).length < 2 ^ 35)
    (dataShort : data.length < 2 ^ 35) :
    (writeEnvelope ⟨some address, some port, some time, some data⟩).length ≤
      (addressBytes address).length + data.length + 29 := by
  have addressLength := length_encodeVarint_le_five addressShort
  have portLength := @length_encodeVarint_le_five port.toNat (by have := port.toNat_lt; omega)
  have timeLength := @length_encodeVarint_le time.toNat 9 (by have := time.toNat_lt; omega)
  have dataLength := length_encodeVarint_le_five dataShort
  simp only [writeEnvelope, optionalField, Function.comp_apply, bytesField, varintField,
    List.length_append, encodeVarint_of_lt (show 1 * 8 + 2 < 128 by decide),
    encodeVarint_of_lt (show 2 * 8 < 128 by decide), encodeVarint_of_lt (show 3 * 8 < 128 by decide),
    encodeVarint_of_lt (show 4 * 8 + 2 < 128 by decide), List.length_singleton]
  omega

end Wire

end RefereeGrading
