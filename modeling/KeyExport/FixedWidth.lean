import KeyExport.Binary
import KeyExport.Bytes
import KeyExport.Failure.Basic

set_option autoImplicit false

/-!
# Fixed-width numbers

Non-negative integers as big-endian byte strings of a length that the caller fixes. A number
that does not fit is refused, never cut; leading zeros are kept.
-/

namespace KeyExport.FixedWidth

open Binary

/-- The length of the shortest byte string with room for the magnitude and a sign bit. -/
def signedLength (value : Int) : Nat :=
  bitLength value.natAbs / 8 + 1

/-- Looks for the faults of a number, in their order. -/
def check (value length : Int) : Except Failure Unit :=
  if length < 0 then .error (.naming .negativeLength length)
  else if value < 0 then .error .negativeValue
  else if bitLength value.toNat > length.toNat * 8 then
    .error (.tooWide (bitLength value.toNat) length.toNat)
  else .ok ()

/-- Encodes a number, memory aside: there is room for every byte string. -/
def encode (value length : Int) : Except Failure Bytes := do
  check value length
  return Bytes.ofNat length.toNat value.toNat

/-- Encodes a number where byte strings have limited room, such as `Sizes.maxBytes`. -/
def encodeWithin (room : Nat) (value length : Int) : Except Failure Bytes := do
  check value length
  if room < length.toNat then .error (.tooManyBytes length.toNat)
  else return Bytes.ofNat length.toNat value.toNat

def decode (data : Bytes) : Nat :=
  data.toNat

end KeyExport.FixedWidth
