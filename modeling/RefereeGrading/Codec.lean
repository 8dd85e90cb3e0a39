import RefereeGrading.Protobuf
import RefereeGrading.Command

/-!
# Captured datagrams and referee messages

The envelope of a datagram holds its address, port (32 bits), receive time in microseconds
(64 bits) and payload; a referee message holds the command code (signed 32 bits), counter
(32 bits) and time (64 bits). Decoding needs an envelope's address and port and a referee
message's command and counter; an absent time reads as zero and absent data as empty.
Messages are built, written and read by the runtime `pb`.
-/

namespace RefereeGrading

/-- A received datagram with where and when it arrived. -/
structure Datagram where
  address : Address
  port : Int
  timestamp : Int
  payload : List UInt8
  deriving Repr, DecidableEq, Inhabited

def MessageKind.noun : MessageKind → String
  | .envelope => "envelope"
  | .referee => "referee message"
  | .vision => "vision packet"

/-- Why a payload could not be decoded. -/
inductive CodecError where
  | malformed (kind : MessageKind) (length : Nat) (reason : String)
  | envelopeWithoutSource
  | refereeWithoutCommand
  deriving Repr, DecidableEq

def CodecError.message : CodecError → String
  | .malformed kind length reason => s!"malformed {kind.noun} ({length} bytes): {reason}"
  | .envelopeWithoutSource => "envelope without source address or port"
  | .refereeWithoutCommand => "referee message without command or command counter"

variable (pb : Protobuf)

namespace Datagram

def decode (payload : List UInt8) : Except CodecError Datagram := do
  let message ← (pb.readEnvelope payload).mapError (.malformed .envelope payload.length)
  match message.address, message.port with
  | some address, some port =>
    return { address, port := port.toNat, timestamp := (message.timestamp.map (·.toNat)).getD 0,
             payload := message.data.getD [] }
  | _, _ => throw .envelopeWithoutSource

/-- Encodes a datagram in an envelope with all four fields. -/
def encode (datagram : Datagram) : Except EncodeError (List UInt8) :=
  pb.writeEnvelope <$>
    pb.envelope datagram.address datagram.port datagram.timestamp datagram.payload

end Datagram

namespace Command

/-- Decodes a referee message into a command of the given source. -/
def decode (payload : List UInt8) (source : Int) : Except CodecError Command := do
  let message ← (pb.readReferee payload).mapError (.malformed .referee payload.length)
  match message.command, message.counter with
  | some code, some counter =>
    return { source, counter := counter.toNat,
             issuedAt := (message.issuedAt.map (·.toNat)).getD 0, code := code.toInt }
  | _, _ => throw .refereeWithoutCommand

/-- Encodes a referee message; a packet time of zero stands for the command time, and the
stage is zero. -/
def encode (code counter issuedAt packetTime : Int) : Except EncodeError (List UInt8) :=
  pb.writeReferee <$>
    pb.referee (if packetTime = 0 then issuedAt else packetTime) 0 code counter issuedAt

end Command

/-- Checks that a vision payload is a well-formed message. -/
def validateVision (payload : List UInt8) : Except CodecError Unit :=
  (pb.readVision payload).mapError (.malformed .vision payload.length)

end RefereeGrading
