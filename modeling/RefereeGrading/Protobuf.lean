import RefereeGrading.Text.Utf8

/-!
# The protocol-buffer runtime

The messages of a capture are built, written and read by a protocol-buffer runtime that the
grader takes as given. `Protobuf` is what the grader asks of it: to build an envelope or a
referee message from field values, to write a message, and to read one back or say why the
bytes are corrupt. `Protobuf.Lawful` is what the grader relies on: each value is checked
against its field's type in turn, a built message has every field it was given, even a zero
or empty one, and a complete message reads back from what is written for it.
-/

namespace RefereeGrading

/-- The address a datagram was sent to: text (as code points) or, when the bytes on the wire
are not UTF-8, the bytes themselves. -/
inductive Address where
  | text (points : List Nat)
  | bytes (raw : List UInt8)
  deriving Repr, DecidableEq, Inhabited

def Address.ofString (text : String) : Address :=
  .text (text.toList.map Char.toNat)

/-- The three message types of a capture. -/
inductive MessageKind where
  | envelope
  | referee
  | vision
  deriving Repr, DecidableEq

def MessageKind.typeName : MessageKind → String
  | .envelope => "autoref_eval.wire.UDPMessageWrapper"
  | .referee => "autoref_eval.wire.SSL_Referee"
  | .vision => "autoref_eval.wire.SSL_WrapperPacket"

/-- Whether a message type declares fields; vision packets declare none. -/
def MessageKind.declaresFields : MessageKind → Bool
  | .vision => false
  | _ => true

/-- Why a value could not be put in a message. -/
inductive EncodeError where
  | outOfRange (value : Int)
  | unencodable (run : Text.SurrogateRun)
  deriving Repr, DecidableEq

/-- A code point as an escape: two, four or eight hexadecimal digits. -/
def pointEscape (n : Nat) : String :=
  let digits := Nat.toDigits 16 n
  let pad (width : Nat) := String.ofList (List.replicate (width - digits.length) '0' ++ digits)
  if n < 0x100 then "\\x" ++ pad 2 else if n < 0x10000 then "\\u" ++ pad 4 else "\\U" ++ pad 8

def EncodeError.message : EncodeError → String
  | .outOfRange value => s!"Value out of range: {value}"
  | .unencodable run =>
    let head := "'utf-8' codec can't encode "
    let reason := ": surrogates not allowed"
    if run.stop = run.start + 1 then
      let shown := pointEscape (run.points.getD run.start 0)
      head ++ "character '" ++ shown ++ "' in position " ++ toString run.start ++ reason
    else
      head ++ "characters in position " ++ toString run.start ++ "-" ++ toString (run.stop - 1) ++
        reason

/-- The integer types of the fields the grader writes. -/
inductive Scalar where
  | uint32
  | uint64
  | int32
  deriving Repr, DecidableEq

def Scalar.least : Scalar → Int
  | .int32 => -0x80000000
  | _ => 0

def Scalar.bound : Scalar → Int
  | .uint32 => 0x100000000
  | .uint64 => 0x10000000000000000
  | .int32 => 0x80000000

def Scalar.fits (type : Scalar) (value : Int) : Bool :=
  decide (type.least ≤ value) && decide (value < type.bound)

/-- A message built from values of the given types, or the first value that does not fit. -/
def checkRanges {α : Type} (values : List (Scalar × Int)) (message : α) :
    Except EncodeError α :=
  match values.find? fun (type, value) => !type.fits value with
  | some (_, value) => .error (.outOfRange value)
  | none => .ok message

/-- An envelope as the runtime holds it; a field is present once it is set. -/
structure Envelope where
  address : Option Address
  port : Option UInt32
  timestamp : Option UInt64
  data : Option (List UInt8)
  deriving Repr, DecidableEq

/-- A referee message as the runtime holds it: the packet time, the stage, the command, the
command counter and the command time. -/
structure RefereeMessage where
  packetTime : Option UInt64
  stage : Option Int32
  command : Option Int32
  counter : Option UInt32
  issuedAt : Option UInt64
  deriving Repr, DecidableEq

/-- A protocol-buffer runtime for the messages of a capture. -/
structure Protobuf where
  /-- Builds an envelope from an address, a port, a time and data. -/
  envelope : Address → Int → Int → List UInt8 → Except EncodeError Envelope
  /-- Builds a referee message from a packet time, a stage, a command, a command counter and
  a command time. -/
  referee : Int → Int → Int → Int → Int → Except EncodeError RefereeMessage
  writeEnvelope : Envelope → List UInt8
  writeReferee : RefereeMessage → List UInt8
  /-- Reads an envelope, or says why the bytes are corrupt. -/
  readEnvelope : List UInt8 → Except String Envelope
  readReferee : List UInt8 → Except String RefereeMessage
  readVision : List UInt8 → Except String Unit

/-- What the grader relies on in a runtime. -/
structure Protobuf.Lawful (pb : Protobuf) : Prop where
  /-- An envelope to a text address checks its port and then its time, and sets all four
  fields. -/
  envelope_ofString : ∀ (text : String) (port time : Int) (data : List UInt8),
    pb.envelope (.ofString text) port time data =
      checkRanges [(.uint32, port), (.uint64, time)]
        ⟨some (.ofString text), some (.ofNat port.toNat), some (.ofNat time.toNat), some data⟩
  /-- An address with no UTF-8 form is refused before any number is checked. -/
  envelope_unencodable : ∀ (points : List Nat) (run : Text.SurrogateRun) (port time : Int)
    (data : List UInt8), Text.encodePoints points = .error run →
      pb.envelope (.text points) port time data = .error (.unencodable run)
  /-- A referee message checks its five numbers in turn and sets all five fields. -/
  referee_checked : ∀ packet stage command counter issued : Int,
    pb.referee packet stage command counter issued =
      checkRanges [(.uint64, packet), (.int32, stage), (.int32, command), (.uint32, counter),
          (.uint64, issued)]
        ⟨some (.ofNat packet.toNat), some (.ofInt stage), some (.ofInt command),
          some (.ofNat counter.toNat), some (.ofNat issued.toNat)⟩
  /-- A complete envelope to a text address reads back, when its address and data are shorter
  than `2 ^ 31 - 1` bytes. -/
  readEnvelope_write : ∀ (text : String) (port : UInt32) (time : UInt64) (data : List UInt8),
    (Text.encode text).length < 0x7FFFFFFF → data.length < 0x7FFFFFFF →
      pb.readEnvelope (pb.writeEnvelope ⟨some (.ofString text), some port, some time, some data⟩) =
        .ok ⟨some (.ofString text), some port, some time, some data⟩
  /-- A complete referee message reads back. -/
  readReferee_write : ∀ packet stage command counter issued,
    pb.readReferee (pb.writeReferee ⟨some packet, some stage, some command, some counter,
        some issued⟩) =
      .ok ⟨some packet, some stage, some command, some counter, some issued⟩

end RefereeGrading
