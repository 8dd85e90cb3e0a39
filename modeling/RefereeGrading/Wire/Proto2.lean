import RefereeGrading.Wire.Scan
import RefereeGrading.Protobuf

/-!
# A proto2 runtime

The runtime the program runs with. Every field set is written, in field order; reading keeps
the last value of a field with its declared wire type, and numbers keep the low bits their
type holds. An address that is not UTF-8 is kept as bytes.
-/

namespace RefereeGrading.Wire

/-- Why a message of a type could not be read. -/
def corrupt (kind : MessageKind) : String :=
  s!"Error parsing message with type '{kind.typeName}': Wire format was corrupt"

/-- The scanned fields of a payload, or why it is corrupt. -/
def fieldsOf (kind : MessageKind) (payload : List UInt8) : Except String (List WireField) :=
  match scan kind.declaresFields payload with
  | some fields => .ok fields
  | none => .error (corrupt kind)

def varintField (number value : Nat) : List UInt8 :=
  encodeVarint (number * 8) ++ encodeVarint value

def bytesField (number : Nat) (content : List UInt8) : List UInt8 :=
  encodeVarint (number * 8 + 2) ++ encodeVarint content.length ++ content

/-- A field that is written only when it is set. -/
def optionalField {α : Type} (write : α → List UInt8) : Option α → List UInt8
  | some value => write value
  | none => []

/-- The 64-bit pattern of a signed 32-bit number. -/
def pattern (value : Int32) : Nat :=
  (value.toInt % 0x10000000000000000).toNat

/-- The low 32 bits of a value read as a signed number. -/
def asSigned32 (value : Nat) : Int :=
  let low : Nat := value % 0x100000000
  if low < 0x80000000 then (low : Int) else (low : Int) - 0x100000000

/-- The bytes written for an address: UTF-8 for text. -/
def addressBytes : Address → List UInt8
  | .text points => points.flatMap Text.encodePoint
  | .bytes raw => raw

/-- The address read from its bytes: text when they are UTF-8. -/
def addressOf (raw : List UInt8) : Address :=
  match Text.decodePoints raw with
  | some points => .text points
  | none => .bytes raw

/-- Builds an envelope, refusing an address with no UTF-8 form before the numbers. -/
def envelope (address : Address) (port time : Int) (data : List UInt8) :
    Except EncodeError Envelope := do
  if let .text points := address then
    if let .error run := Text.encodePoints points then throw (.unencodable run)
  checkRanges [(.uint32, port), (.uint64, time)]
    ⟨some address, some (.ofNat port.toNat), some (.ofNat time.toNat), some data⟩

/-- Builds a referee message. -/
def referee (packet stage command counter issued : Int) : Except EncodeError RefereeMessage :=
  checkRanges [(.uint64, packet), (.int32, stage), (.int32, command), (.uint32, counter),
      (.uint64, issued)]
    ⟨some (.ofNat packet.toNat), some (.ofInt stage), some (.ofInt command),
      some (.ofNat counter.toNat), some (.ofNat issued.toNat)⟩

def writeEnvelope (message : Envelope) : List UInt8 :=
  optionalField (bytesField 1 ∘ addressBytes) message.address ++
    optionalField (varintField 2 ∘ UInt32.toNat) message.port ++
    optionalField (varintField 3 ∘ UInt64.toNat) message.timestamp ++
    optionalField (bytesField 4) message.data

def writeReferee (message : RefereeMessage) : List UInt8 :=
  optionalField (varintField 1 ∘ UInt64.toNat) message.packetTime ++
    optionalField (varintField 2 ∘ pattern) message.stage ++
    optionalField (varintField 4 ∘ pattern) message.command ++
    optionalField (varintField 5 ∘ UInt32.toNat) message.counter ++
    optionalField (varintField 6 ∘ UInt64.toNat) message.issuedAt

def readEnvelope (payload : List UInt8) : Except String Envelope := do
  let fields ← fieldsOf .envelope payload
  return ⟨(lastBytes fields 1).map addressOf, (lastVarint fields 2).map .ofNat,
    (lastVarint fields 3).map .ofNat, lastBytes fields 4⟩

def readReferee (payload : List UInt8) : Except String RefereeMessage := do
  let fields ← fieldsOf .referee payload
  let signed (value : Nat) : Int32 := .ofInt (asSigned32 value)
  return ⟨(lastVarint fields 1).map .ofNat, (lastVarint fields 2).map signed,
    (lastVarint fields 4).map signed, (lastVarint fields 5).map .ofNat,
    (lastVarint fields 6).map .ofNat⟩

def proto2 : Protobuf where
  envelope := envelope
  referee := referee
  writeEnvelope := writeEnvelope
  writeReferee := writeReferee
  readEnvelope := readEnvelope
  readReferee := readReferee
  readVision payload := (fieldsOf .vision payload).map fun _ => ()

end RefereeGrading.Wire
