/-!
# Varints

A varint writes a natural number seven bits at a time, low bits first, with the high bit of
each byte marking that more follow. Reading accepts at most ten bytes and keeps the value
modulo `2^64`, as a 64-bit reader does; an eleventh byte or a missing last byte is refused.
-/

namespace RefereeGrading.Wire

/-- The largest number of bytes a varint may take. -/
def varintLimit : Nat := 10

def encodeVarint (n : Nat) : List UInt8 :=
  if n < 128 then [n.toUInt8]
  else (n % 128 + 128).toUInt8 :: encodeVarint (n / 128)
termination_by n
decreasing_by omega

/-- Reads the rest of a varint whose first `index` bytes added up to `acc`. -/
def readVarintFrom (index acc : Nat) : List UInt8 → Option (Nat × List UInt8)
  | [] => none
  | b :: rest =>
    let acc := acc + (b.toNat % 128) <<< (7 * index)
    if b.toNat < 128 then some (acc % 0x10000000000000000, rest)
    else if index + 1 = varintLimit then none
    else readVarintFrom (index + 1) acc rest

/-- Reads a varint from the front of the input, returning its value and the rest. -/
def readVarint (input : List UInt8) : Option (Nat × List UInt8) :=
  readVarintFrom 0 0 input

end RefereeGrading.Wire
