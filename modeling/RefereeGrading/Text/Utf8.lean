import RefereeGrading.Text.Quoted

/-!
# UTF-8

Decoding is strict: it refuses overlong forms, encoded surrogates, code points above
`U+10FFFF`, stray continuation bytes and truncated sequences. Bytes that are no UTF-8 have a
first fault: a byte that cannot start a sequence, a byte that cannot continue the sequence
begun before it (the second byte of a sequence has a narrower range after `E0`, `ED`, `F0` and
`F4`), or an end inside a sequence. Encoding works on code points, so that text which holds an
unpaired surrogate can be told apart: such text has no UTF-8 form, and the encoder names the
first run of surrogates.
-/

namespace RefereeGrading.Text

def isSurrogate (n : Nat) : Bool := 0xD800 ≤ n && n ≤ 0xDFFF

def isContinuation (b : UInt8) : Bool := b.toNat / 64 = 2

/-- The code point of a two-, three- or four-byte sequence, if it is allowed. -/
def decodeSequence (lead : Nat) (tail : List UInt8) : Option Nat :=
  let bits := tail.foldl (fun acc b => acc * 64 + b.toNat % 64) 0
  match tail.length with
  | 1 =>
    let n := (lead % 32) * 64 + bits
    if 0x80 ≤ n then some n else none
  | 2 =>
    let n := (lead % 16) * 4096 + bits
    if 0x800 ≤ n && !isSurrogate n then some n else none
  | 3 =>
    let n := (lead % 8) * 262144 + bits
    if 0x10000 ≤ n && n ≤ 0x10FFFF then some n else none
  | _ => none

/-- The number of continuation bytes a lead byte announces, if it can lead a sequence. -/
def continuationCount (lead : Nat) : Option Nat :=
  if lead < 0x80 then some 0
  else if 0xC2 ≤ lead && lead < 0xE0 then some 1
  else if 0xE0 ≤ lead && lead < 0xF0 then some 2
  else if 0xF0 ≤ lead && lead < 0xF5 then some 3
  else none

/-- The code point of a lead byte and its continuation bytes, read on after it. -/
def withSequence (lead : UInt8) (tail : List UInt8) (rest : Option (List Nat)) :
    Option (List Nat) :=
  if tail.all isContinuation then
    match decodeSequence lead.toNat tail with
    | some n => rest.map (n :: ·)
    | none => none
  else none

/-- Decodes UTF-8 into code points, or fails. -/
def decodePoints : List UInt8 → Option (List Nat)
  | [] => some []
  | b :: rest =>
    match continuationCount b.toNat, rest with
    | some 0, rest0 => (decodePoints rest0).map (b.toNat :: ·)
    | some 1, c1 :: rest1 => withSequence b [c1] (decodePoints rest1)
    | some 2, c1 :: c2 :: rest2 => withSequence b [c1, c2] (decodePoints rest2)
    | some 3, c1 :: c2 :: c3 :: rest3 => withSequence b [c1, c2, c3] (decodePoints rest3)
    | _, _ => none

def decode? (bytes : List UInt8) : Option String :=
  (decodePoints bytes).map fun points => String.ofList (points.map Char.ofNat)

/-- What is wrong at the first fault of bytes that are no UTF-8. -/
inductive DecodeReason where
  | invalidStart
  | invalidContinuation
  | unexpectedEnd
  deriving Repr, DecidableEq

def DecodeReason.text : DecodeReason → String
  | .invalidStart => "invalid start byte"
  | .invalidContinuation => "invalid continuation byte"
  | .unexpectedEnd => "unexpected end of data"

/-- The first fault of bytes that are no UTF-8: the bytes it covers (a lead byte and the bytes
accepted after it), the position of the first of them, and why they fail. -/
structure DecodeFault where
  bytes : List UInt8
  start : Nat
  reason : DecodeReason
  deriving Repr, DecidableEq

/-- The text of a decoding fault, naming one byte by its value or several by their span. -/
def DecodeFault.message (fault : DecodeFault) : String :=
  let head := "'utf-8' codec can't decode "
  let tail := ": " ++ fault.reason.text
  match fault.bytes with
  | [b] => head ++ "byte 0x" ++ String.ofList (hexDigits 2 b.toNat) ++ " in position " ++
      toString fault.start ++ tail
  | bytes => head ++ "bytes in position " ++ toString fault.start ++ "-" ++
      toString (fault.start + bytes.length - 1) ++ tail

/-- The least and greatest byte that may follow a lead byte. The range is narrower than that
of continuation bytes after `E0`, `ED`, `F0` and `F4`, where the full range would give
overlong forms, surrogates or code points above `U+10FFFF`. -/
def secondRange (lead : Nat) : Nat × Nat :=
  if lead = 0xE0 then (0xA0, 0xBF) else if lead = 0xED then (0x80, 0x9F)
  else if lead = 0xF0 then (0x90, 0xBF) else if lead = 0xF4 then (0x80, 0x8F)
  else (0x80, 0xBF)

/-- How many bytes after a lead byte are accepted, in order: the first within `secondRange`,
the later ones continuation bytes. -/
def acceptedAfter (lead : Nat) : List UInt8 → Nat
  | [] => 0
  | c :: rest =>
    if (secondRange lead).1 ≤ c.toNat && c.toNat ≤ (secondRange lead).2 then
      1 + (rest.takeWhile isContinuation).length
    else 0

/-- The fault in the bytes after a lead byte, given the bytes there are up to the count the
lead byte announces; `complete` tells whether they reach that count. -/
def tailFault (lead : UInt8) (position : Nat) (tail : List UInt8) (complete : Bool) :
    Option DecodeFault :=
  let accepted := acceptedAfter lead.toNat tail
  if accepted < tail.length then
    some ⟨lead :: tail.take accepted, position, .invalidContinuation⟩
  else if complete then none
  else some ⟨lead :: tail, position, .unexpectedEnd⟩

/-- The first fault of bytes that start at `position`, or `none` when they are UTF-8. -/
def firstFault (position : Nat) : List UInt8 → Option DecodeFault
  | [] => none
  | b :: rest =>
    match continuationCount b.toNat, rest with
    | none, _ => some ⟨[b], position, .invalidStart⟩
    | some 0, rest0 => firstFault (position + 1) rest0
    | some 1, c1 :: rest1 =>
      match tailFault b position [c1] true with
      | some fault => some fault
      | none => firstFault (position + 2) rest1
    | some 2, c1 :: c2 :: rest2 =>
      match tailFault b position [c1, c2] true with
      | some fault => some fault
      | none => firstFault (position + 3) rest2
    | some 3, c1 :: c2 :: c3 :: rest3 =>
      match tailFault b position [c1, c2, c3] true with
      | some fault => some fault
      | none => firstFault (position + 4) rest3
    | some _, short => tailFault b position short false

/-- Decodes UTF-8 into text, or names its first fault. -/
def decodeText (bytes : List UInt8) : Except DecodeFault String :=
  match firstFault 0 bytes, decode? bytes with
  | _, some text => .ok text
  | some fault, none => .error fault
  | none, none => .error ⟨bytes, 0, .invalidStart⟩

/-- The UTF-8 bytes of one code point. -/
def encodePoint (n : Nat) : List UInt8 :=
  if n < 0x80 then [n.toUInt8]
  else if n < 0x800 then [(0xC0 + n / 64).toUInt8, (0x80 + n % 64).toUInt8]
  else if n < 0x10000 then
    [(0xE0 + n / 4096).toUInt8, (0x80 + n / 64 % 64).toUInt8, (0x80 + n % 64).toUInt8]
  else
    [(0xF0 + n / 262144).toUInt8, (0x80 + n / 4096 % 64).toUInt8,
     (0x80 + n / 64 % 64).toUInt8, (0x80 + n % 64).toUInt8]

def encode (text : String) : List UInt8 :=
  text.toList.flatMap fun c => encodePoint c.toNat

/-- The text that code points spell, when none of them is a surrogate. -/
def textOf? (points : List Nat) : Option String :=
  if points.any isSurrogate then none else some (String.ofList (points.map Char.ofNat))

/-- A run of unpaired surrogates that keeps a text from being encoded: the code points, and
the positions where the run starts and ends (exclusive). -/
structure SurrogateRun where
  points : List Nat
  start : Nat
  stop : Nat
  deriving Repr, DecidableEq

/-- Position of the first surrogate and the end of the run of surrogates it starts. -/
def surrogateRun? (points : List Nat) : Option (Nat × Nat) :=
  match points.findIdx? isSurrogate with
  | none => none
  | some start =>
    let run := (points.drop start).takeWhile isSurrogate
    some (start, start + run.length)

/-- The UTF-8 bytes of a sequence of code points, or the first run of surrogates in it. -/
def encodePoints (points : List Nat) : Except SurrogateRun (List UInt8) :=
  match surrogateRun? points with
  | some (start, stop) => .error ⟨points, start, stop⟩
  | none => .ok (points.flatMap encodePoint)

example : (firstFault 0 [0x61, 0xE4, 0xB8]).map DecodeFault.message =
    some "'utf-8' codec can't decode bytes in position 1-2: unexpected end of data" := by
  decide

end RefereeGrading.Text
