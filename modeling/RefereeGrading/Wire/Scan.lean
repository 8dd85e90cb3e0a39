import RefereeGrading.Wire.Varint

/-!
# Scanning protocol-buffer fields

A message is a sequence of fields, each a tag (field number times eight plus a wire type) and
a value. The scanner returns the fields in order, with groups skipped, or says that the input
is corrupt. Field number zero is corrupt only at the top of a message that declares fields.
-/

namespace RefereeGrading.Wire

inductive WireValue where
  | varint (value : Nat)
  | fixed64 (value : Nat)
  | bytes (content : List UInt8)
  | fixed32 (value : Nat)
  deriving Repr, DecidableEq

structure WireField where
  number : Nat
  value : WireValue
  deriving Repr, DecidableEq

/-- How deep groups may nest. -/
def groupDepthLimit : Nat := 100

/-- Reads a tag: a varint of at most five bytes and at most 32 bits. -/
def readTag (input : List UInt8) : Option (Nat × List UInt8) :=
  match readVarint input with
  | some (tag, rest) =>
    if (input.take 5).any (· < 0x80) && tag < 0x100000000 then some (tag, rest) else none
  | none => none

/-- Reads the length of a length-delimited value: a varint of at most five bytes, below
`2^31 - 1`. -/
def readLength (input : List UInt8) : Option (Nat × List UInt8) :=
  match readVarint input with
  | some (size, rest) =>
    if (input.take 5).any (· < 0x80) && size < 0x7FFFFFFF then some (size, rest) else none
  | none => none

def littleEndian (bytes : List UInt8) : Nat :=
  bytes.foldr (fun b acc => b.toNat + 256 * acc) 0

/-- Reads `count` bytes, if there are that many. -/
def takeExactly (count : Nat) (input : List UInt8) : Option (List UInt8 × List UInt8) :=
  let taken := input.take count
  if taken.length = count then some (taken, input.drop count) else none

/-- Reads the value of a field of wire type 0, 1, 2 or 5. -/
def readValue (wireType : Nat) (input : List UInt8) : Option (WireValue × List UInt8) :=
  match wireType with
  | 0 => do
    let (v, rest) ← readVarint input
    return (.varint v, rest)
  | 1 => do
    let (bytes, rest) ← takeExactly 8 input
    return (.fixed64 (littleEndian bytes), rest)
  | 2 => do
    let (size, rest) ← readLength input
    let (content, after) ← takeExactly size rest
    return (.bytes content, after)
  | 5 => do
    let (bytes, rest) ← takeExactly 4 input
    return (.fixed32 (littleEndian bytes), rest)
  | _ => none

/-- Reads fields until the input ends, or, inside the group of field `closing`, until its end
tag; `depth` more groups may open, and `declared` says whether the message declares fields, so
that field number zero at its top is corrupt. Gives `none` when the input is corrupt. `fuel`
bounds the steps and is never the binding limit when it exceeds the input length. -/
def scanFields (declared : Bool) : Nat → Nat → Option Nat → List UInt8 →
    Option (List WireField × List UInt8)
  | 0, _, _, _ => none
  | fuel + 1, depth, closing, input =>
    match input with
    | [] => if closing.isNone then some ([], []) else none
    | _ :: _ => do
      let (tag, rest) ← readTag input
      let number := tag / 8
      let wireType := tag % 8
      let misplaced := declared && closing.isNone && number = 0
      if wireType = 4 then
        if closing = some number then some ([], rest) else none
      else if wireType = 3 then
        if misplaced || depth = 0 then none
        else
          let (_, after) ← scanFields declared fuel (depth - 1) (some number) rest
          scanFields declared fuel depth closing after
      else
        let (value, after) ← readValue wireType rest
        if misplaced then none
        let (more, final) ← scanFields declared fuel depth closing after
        return (⟨number, value⟩ :: more, final)

/-- The fields of a message, in order, with groups skipped, or `none` when it is corrupt;
`declared` says whether the message declares fields. -/
def scan (declared : Bool) (input : List UInt8) : Option (List WireField) :=
  (scanFields declared (input.length + 1) groupDepthLimit none input).map (·.1)

example : scan false [0, 0] = some [⟨0, .varint 0⟩] := by decide

example : scan true [0, 0] = none := by decide

/-- The last varint given for a field number, if any. -/
def lastVarint (fields : List WireField) (number : Nat) : Option Nat :=
  fields.foldl (fun found field =>
    match field.value with
    | .varint v => if field.number = number then some v else found
    | _ => found) none

/-- The last byte string given for a field number, if any. -/
def lastBytes (fields : List WireField) (number : Nat) : Option (List UInt8) :=
  fields.foldl (fun found field =>
    match field.value with
    | .bytes content => if field.number = number then some content else found
    | _ => found) none

end RefereeGrading.Wire
