import RefereeGrading.Codec

/-!
# Capture logs

A capture log is a sequence of records, each a four-byte little-endian length followed by
that many bytes of envelope; an envelope of `2 ^ 32` bytes or more has no record. Reading stops
cleanly at the end of the input, and fails when a length is cut short or a record is shorter
than its length says; the records read before the failure are kept. Decoding the envelopes
skips those that do not decode, with a warning that names the record's position in the log.
-/

namespace RefereeGrading

/-- How a log is cut short. -/
inductive LogFormatError where
  | truncatedLength (offset : Nat)
  | truncatedRecord (offset size remaining : Nat)
  deriving Repr, DecidableEq

def LogFormatError.message : LogFormatError → String
  | .truncatedLength offset => s!"truncated record length at offset {offset}"
  | .truncatedRecord offset size remaining =>
    s!"record at offset {offset} declares {size} bytes but only {remaining} remain"

namespace Log

/-- The four-byte little-endian form of a length, if it has one. -/
def lengthBytes (n : Nat) : Option (List UInt8) :=
  if n < 0x100000000 then
    some [(n % 256).toUInt8, (n / 256 % 256).toUInt8, (n / 65536 % 256).toUInt8,
      (n / 16777216 % 256).toUInt8]
  else none

/-- A record: the payload's length, then the payload. -/
def frame (payload : List UInt8) : Option (List UInt8) :=
  (lengthBytes payload.length).map (· ++ payload)

/-- The records of payloads, one after another. -/
def frames (payloads : List (List UInt8)) : Option (List UInt8) :=
  (payloads.mapM frame).map List.flatten

/-- The record bodies of the rest of a log that starts at `offset`, and the failure that ended
reading, if any. -/
def bodiesFrom (offset : Nat) (input : List UInt8) :
    List (List UInt8) × Option LogFormatError :=
  match input with
  | [] => ([], none)
  | b0 :: b1 :: b2 :: b3 :: rest =>
    let size := b0.toNat + 256 * b1.toNat + 65536 * b2.toNat + 16777216 * b3.toNat
    let body := rest.take size
    if body.length < size then ([], some (.truncatedRecord offset size rest.length))
    else
      let (more, failure) := bodiesFrom (offset + 4 + size) (rest.drop size)
      (body :: more, failure)
  | _ => ([], some (.truncatedLength offset))
termination_by input.length
decreasing_by simp; omega

def bodies (log : List UInt8) : List (List UInt8) × Option LogFormatError :=
  bodiesFrom 0 log

/-- What reading a log gives: the datagrams that decode, the warnings for those that do not,
and the failure that ended reading, if any. -/
structure Reading where
  datagrams : List Datagram
  warnings : List String
  failure : Option LogFormatError

variable (pb : Protobuf)

/-- Decodes record bodies, counting positions from `index`. -/
def decodeFrom (index : Nat) : List (List UInt8) → List Datagram × List String
  | [] => ([], [])
  | body :: rest =>
    let (datagrams, warnings) := decodeFrom (index + 1) rest
    match Datagram.decode pb body with
    | .ok datagram => (datagram :: datagrams, warnings)
    | .error problem =>
      let reason := problem.message
      (datagrams, s!"Skipping record {index}: {reason}" :: warnings)

def read (log : List UInt8) : Reading :=
  let (found, failure) := bodies log
  let (datagrams, warnings) := decodeFrom pb 0 found
  { datagrams, warnings, failure }

/-- Why a record could not be written: its datagram has no envelope, or its envelope is too
long for a record. -/
inductive WriteError where
  | encode (problem : EncodeError)
  | tooLong (length : Nat)
  deriving Repr, DecidableEq

def WriteError.message : WriteError → String
  | .encode problem => problem.message
  | .tooLong _ => "'I' format requires 0 <= number <= 4294967295"

/-- The record of a datagram. -/
def record (datagram : Datagram) : Except WriteError (List UInt8) := do
  let envelope ← (datagram.encode pb).mapError .encode
  match frame envelope with
  | some bytes => return bytes
  | none => throw (.tooLong envelope.length)

def write (datagrams : List Datagram) : Except WriteError (List UInt8) := do
  let records ← datagrams.mapM (record pb)
  return records.flatten

end Log

end RefereeGrading
