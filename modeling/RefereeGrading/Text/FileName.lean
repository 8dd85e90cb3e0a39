import RefereeGrading.Text.Utf8

/-!
# File names as bytes

A path text and the bytes of a file name are tied by UTF-8 with escaped bytes: the code points
U+DC80 to U+DCFF stand for the single bytes 0x80 to 0xFF. Writing a text fails at its first
surrogate that stands for no byte; reading never fails.
-/

namespace RefereeGrading.Text

/-- Whether a code point stands for a raw byte of a file name. -/
def isEscapedByte (n : Nat) : Bool := 0xDC80 ≤ n && n ≤ 0xDCFF

/-- Whether a code point keeps a text from being written as a file name. -/
def isUnwritable (n : Nat) : Bool := isSurrogate n && !isEscapedByte n

/-- The bytes of one code point of a file name. -/
def fileNameBytes (n : Nat) : List UInt8 :=
  if isEscapedByte n then [(n - 0xDC00).toUInt8] else encodePoint n

/-- The bytes of a file name given as text, or the run of surrogates that keeps it from being
written: it starts at the first surrogate that stands for no byte and ends where the run of
surrogates around it ends. -/
def encodeFileName (points : List Nat) : Except SurrogateRun (List UInt8) :=
  match points.findIdx? isUnwritable with
  | some start =>
    .error ⟨points, start, start + ((points.drop start).takeWhile isSurrogate).length⟩
  | none => .ok (points.flatMap fileNameBytes)

/-- The code point of a lead byte and its continuation bytes, if they form one. -/
def sequence? (lead : UInt8) (tail : List UInt8) : Option Nat :=
  if tail.all isContinuation then decodeSequence lead.toNat tail else none

def escapeByte (b : UInt8) : Nat := 0xDC00 + b.toNat

/-- The first code point of a file name that starts with byte `b`, and the bytes after it: a
well-formed UTF-8 sequence gives its code point, any other byte its escape. -/
def readPoint (b : UInt8) (rest : List UInt8) : Nat × List UInt8 :=
  match continuationCount b.toNat with
  | some 0 => (b.toNat, rest)
  | some k =>
    let tail := rest.take k
    match (if tail.length = k then sequence? b tail else none) with
    | some n => (n, rest.drop k)
    | none => (escapeByte b, rest)
  | none => (escapeByte b, rest)

/-- The code points of a file name read point by point; `fuel` bounds the steps, and every
step reads at least one byte. -/
def decodeFileNameFrom : Nat → List UInt8 → List Nat
  | 0, _ => []
  | _ + 1, [] => []
  | fuel + 1, b :: rest =>
    let (n, after) := readPoint b rest
    n :: decodeFileNameFrom fuel after

/-- The text of a file name: UTF-8 sequences read as their code points, any other byte read
as its escape. -/
def decodeFileName (bytes : List UInt8) : List Nat :=
  decodeFileNameFrom bytes.length bytes

example :
    (encodeFileName [0x61, 0xDCFF]).toOption = some [0x61, 0xFF] := by
  decide

example :
    decodeFileName [0x61, 0xC3, 0xA9, 0xFF] = [0x61, 0xE9, 0xDCFF] := by
  decide

end RefereeGrading.Text
