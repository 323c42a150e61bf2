set_option autoImplicit false

/-!
# Byte strings

A byte string is a list of bytes. Read as a number, its first byte weighs most; `ofNat` writes
a number in a given number of bytes and keeps only what fits.
-/

namespace KeyExport

abbrev Bytes := List UInt8

namespace Bytes

/-- The number that a byte string writes, most significant byte first. -/
def toNat (data : Bytes) : Nat :=
  data.foldl (fun n b => n * 256 + b.toNat) 0

/-- The low `length` bytes of a number, most significant byte first. -/
def ofNat : (length n : Nat) → Bytes
  | 0, _ => []
  | k + 1, n => UInt8.ofNat (n >>> (8 * k)) :: ofNat k n

@[simp] theorem length_ofNat (k n : Nat) : (ofNat k n).length = k := by
  induction k with
  | zero => rfl
  | succ k ih => simp [ofNat, ih]

@[simp] theorem toNat_nil : toNat [] = 0 := rfl

/-- Exclusive or, byte by byte, as far as the shorter of the two reaches. -/
def xor (a b : Bytes) : Bytes :=
  a.zipWith (· ^^^ ·) b

@[simp] theorem length_xor (a b : Bytes) : (a.xor b).length = min a.length b.length :=
  List.length_zipWith

/-- A run of zero bytes. -/
def zeros (count : Nat) : Bytes :=
  List.replicate count 0

@[simp] theorem length_zeros (count : Nat) : (zeros count).length = count :=
  List.length_replicate

/-- Cuts off `count` pieces of `size` bytes from the front; the last may be short. -/
def pieces (size : Nat) : (count : Nat) → Bytes → List Bytes
  | 0, _ => []
  | k + 1, data => data.take size :: pieces size k (data.drop size)

@[simp] theorem length_pieces (size count : Nat) (data : Bytes) :
    (pieces size count data).length = count := by
  induction count generalizing data with
  | zero => rfl
  | succ k ih => simp [pieces, ih]

/-- The number of pieces of `size` bytes, the last one short, that cover `length` bytes. -/
def pieceCount (size length : Nat) : Nat :=
  (length + size - 1) / size

/-- The bytes of an ASCII text. -/
def ofText (text : String) : Bytes :=
  text.toList.map fun c => UInt8.ofNat c.toNat

end Bytes
end KeyExport
