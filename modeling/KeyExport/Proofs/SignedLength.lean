import KeyExport.Proofs.FixedWidth
import Mathlib.Algebra.Group.Nat.Defs
import Mathlib.Algebra.Order.Group.Nat
import Mathlib.Order.Nat

set_option autoImplicit false

/-!
# Signed length and the sign byte

In two's complement the leading bit of a byte string is its sign. `signedLength` is the length of
the shortest such form of a number, except at the least number of each length, where it is one too
many. A number that is not negative fits into a length when its shortest form does, or when that
form is one byte longer and begins with a zero byte; the bytes behind this sign byte are the number.
-/

namespace KeyExport

namespace Bytes

variable {form : Bytes} {k : Nat}

/-- The number that a byte string writes in two's complement. -/
def toInt : Bytes → Int
  | [] => 0
  | b :: rest =>
    if b < 128 then toNat (b :: rest) else toNat (b :: rest) - 256 ^ (rest.length + 1)

/-- The leading bit tells the lower half of the numbers of one length from the upper half. -/
theorem lt_128_iff (b : UInt8) (rest : Bytes) :
    b < 128 ↔ toNat (b :: rest) < 128 * 256 ^ rest.length := by
  have below := toNat_lt rest
  rw [toNat_cons, UInt8.lt_iff_toNat_lt]
  constructor
  · exact fun less => mul_add_lt_of_lt less below 0
  · intro less
    by_contra more
    have heavier := Nat.mul_le_mul_right (256 ^ rest.length) (Nat.not_lt.mp more)
    exact absurd less (Nat.not_lt.mpr (heavier.trans (Nat.le_add_right _ _)))

theorem toInt_eq (size : form.length = k + 1) : toInt form =
    if toNat form < 128 * 256 ^ k then (toNat form : Int) else toNat form - 256 ^ (k + 1) := by
  cases form with
  | nil => cases size
  | cons b rest =>
    have same : rest.length = k := Nat.succ.inj size
    simp only [toInt, lt_128_iff b rest, same]

/-- The lower half of the numbers of one length. -/
theorem lt_pow_of_lt {n : Nat} (low : n < 128 * 256 ^ k) : n < 256 ^ (k + 1) := by
  rw [Nat.pow_succ]
  omega

theorem toInt_ofNat_of_lt {n : Nat} (low : n < 128 * 256 ^ k) : toInt (ofNat (k + 1) n) = n := by
  rw [toInt_eq (length_ofNat _ _), toNat_ofNat, Nat.mod_eq_of_lt (lt_pow_of_lt low), if_pos low]

theorem toInt_ofNat_of_le {n : Nat} (high : 128 * 256 ^ k ≤ n) (fits : n < 256 ^ (k + 1)) :
    toInt (ofNat (k + 1) n) = n - 256 ^ (k + 1) := by
  rw [toInt_eq (length_ofNat _ _), toNat_ofNat, Nat.mod_eq_of_lt fits,
    if_neg (Nat.not_lt.mpr high)]

theorem exists_toInt_iff (k : Nat) (value : Int) :
    (∃ form : Bytes, form.length = k + 1 ∧ form.toInt = value) ↔
      -(128 * 256 ^ k : Nat) ≤ value ∧ value < (128 * 256 ^ k : Nat) := by
  have whole : 256 ^ (k + 1) = 2 * (128 * 256 ^ k) := by
    rw [Nat.pow_succ]
    omega
  have wholeInt : (256 : Int) ^ (k + 1) = 2 * (128 * 256 ^ k : Nat) := by exact_mod_cast whole
  constructor
  · rintro ⟨form, size, rfl⟩
    have fits := toNat_lt form
    rw [size] at fits
    rw [toInt_eq size]
    split <;> omega
  · rintro ⟨low, high⟩
    rcases Int.lt_or_le value 0 with negative | nonneg
    -- A negative number is written as the one that lies a whole range above it.
    · obtain ⟨n, shifted⟩ := Int.eq_ofNat_of_zero_le (a := value + 256 ^ (k + 1)) (by omega)
      refine ⟨ofNat (k + 1) n, length_ofNat _ _, ?_⟩
      rw [toInt_ofNat_of_le (by omega) (by omega)]
      omega
    · obtain ⟨n, rfl⟩ := Int.eq_ofNat_of_zero_le nonneg
      exact ⟨ofNat (k + 1) n, length_ofNat _ _, toInt_ofNat_of_lt (Int.ofNat_lt.mp high)⟩

end Bytes

namespace FixedWidth

open Binary

variable {value : Int} {size : Nat}

theorem signedLength_le_iff (positive : 1 ≤ size) :
    signedLength value ≤ size ↔ value.natAbs < 2 ^ (8 * size - 1) := by
  rw [← bitLength_le_iff, signedLength]
  omega

/-- The numbers that have a form of this length. -/
def InSignedRange (value : Int) (size : Nat) : Prop :=
  1 ≤ size ∧ -2 ^ (8 * size - 1) ≤ value ∧ value < 2 ^ (8 * size - 1)

theorem two_pow_signed (k : Nat) : 2 ^ (8 * (k + 1) - 1) = 128 * 256 ^ k := by
  have exponent : 8 * (k + 1) - 1 = 7 + 8 * k := by omega
  rw [exponent, Nat.pow_add, Nat.pow_mul]

theorem exists_form_iff : (∃ form : Bytes, form ≠ [] ∧ form.length = size ∧ form.toInt = value) ↔
    InSignedRange value size := by
  cases size with
  | zero => simp [InSignedRange]
  | succ k =>
    have range := Bytes.exists_toInt_iff k value
    rw [← two_pow_signed, Nat.cast_pow, Nat.cast_two] at range
    constructor
    · rintro ⟨form, -, size, same⟩
      exact ⟨Nat.succ_pos k, range.mp ⟨form, size, same⟩⟩
    · rintro ⟨-, within⟩
      obtain ⟨form, size, same⟩ := range.mpr within
      exact ⟨form, List.ne_nil_of_length_eq_add_one size, size, same⟩

theorem inSignedRange_signedLength (value : Int) : InSignedRange value (signedLength value) := by
  have positive : 1 ≤ signedLength value := Nat.succ_pos _
  have within := (signedLength_le_iff positive).mp (le_refl (signedLength value))
  have bound : (value.natAbs : Int) < 2 ^ (8 * signedLength value - 1) := by exact_mod_cast within
  exact ⟨positive, by omega, by omega⟩

/-- The magnitude of the least number of a length has one bit more than the others. -/
theorem signedLength_of_isLeast (least : IsLeast {n | InSignedRange value n} size) :
    signedLength value = if value = -2 ^ (8 * size - 1) then size + 1 else size := by
  obtain ⟨⟨positive, low, high⟩, minimal⟩ := least
  have lower : size ≤ signedLength value := minimal (inSignedRange_signedLength value)
  have power : ((2 ^ (8 * size - 1) : Nat) : Int) = 2 ^ (8 * size - 1) := by norm_cast
  split
  · rename_i extreme
    have magnitude : value.natAbs = 2 ^ (8 * size - 1) := by omega
    have longer : ¬signedLength value ≤ size := by
      rw [signedLength_le_iff positive, magnitude]
      exact Nat.lt_irrefl _
    have next : signedLength value ≤ size + 1 := by
      rw [signedLength_le_iff (Nat.succ_pos size), magnitude]
      exact Nat.pow_lt_pow_right Nat.one_lt_two (by omega)
    omega
  · rename_i inner
    have within : signedLength value ≤ size := by
      rw [signedLength_le_iff positive]
      omega
    exact Nat.le_antisymm within lower

/-- The signed length of a number is the length of its shortest form in two's complement, which is
the least one in whose range the number lies. Only at the lower end of a range it is one more. -/
theorem signedLength_exact (value : Int) : ∃ size : Nat,
    IsLeast {n : Nat | 1 ≤ n ∧ -2 ^ (8 * n - 1) ≤ value ∧ value < 2 ^ (8 * n - 1)} size ∧
    IsLeast {n | ∃ form : Bytes, form ≠ [] ∧ form.length = n ∧ form.toInt = value} size ∧
    signedLength value = if value = -2 ^ (8 * size - 1) then size + 1 else size := by
  classical
  have inhabited : ∃ n, InSignedRange value n := ⟨_, inSignedRange_signedLength value⟩
  have least := Nat.isLeast_find inhabited
  have forms : {n | ∃ form : Bytes, form ≠ [] ∧ form.length = n ∧ form.toInt = value} =
      {n | InSignedRange value n} := Set.ext fun n => exists_form_iff
  exact ⟨Nat.find inhabited, least, forms ▸ least, signedLength_of_isLeast least⟩

/-- The number -128 has a form of one byte. -/
theorem not_signedLength_isLeast : ¬∀ value : Int,
    IsLeast {n : Nat | 1 ≤ n ∧ -2 ^ (8 * n - 1) ≤ value ∧ value < 2 ^ (8 * n - 1)}
      (signedLength value) := by
  intro least
  have short : signedLength (-128) ≤ 1 := (least (-128)).2 ⟨le_rfl, by decide, by decide⟩
  exact absurd short (by decide)

/-! ## The sign byte -/

variable {n length : Nat}

theorem signedLength_natCast_le_iff (n k : Nat) :
    signedLength n ≤ k + 1 ↔ n < 128 * 256 ^ k := by
  rw [signedLength_le_iff (Nat.succ_pos k), two_pow_signed, Int.natAbs_natCast]

theorem signedLength_le_of_fits (fits : n < 256 ^ length) : signedLength n ≤ length + 1 := by
  rw [signedLength_natCast_le_iff]
  omega

theorem fits_of_signedLength_le (short : signedLength n ≤ length) : n < 256 ^ length := by
  cases length with
  | zero => exact absurd short (Nat.not_succ_le_zero _)
  | succ k => exact Bytes.lt_pow_of_lt ((signedLength_natCast_le_iff n k).mp short)

/-- The byte in front of a number that fits is zero. -/
theorem encode_succ_of_fits (fits : n < 256 ^ length) :
    encode n (length + 1) = .ok (0 :: Bytes.ofNat length n) := by
  have wide : n < 256 ^ (length + 1) := fits.trans (Nat.pow_lt_pow_succ (by decide))
  have front : n >>> (8 * length) = 0 := by
    rw [Nat.shiftRight_eq_div_pow, Nat.pow_mul]
    exact Nat.div_eq_of_lt fits
  have encoded := encode_natCast wide
  rw [Bytes.ofNat, front] at encoded
  exact_mod_cast encoded

theorem fits_of_encode_succ {rest : Bytes} (encoded : encode n (length + 1) = .ok (0 :: rest)) :
    n < 256 ^ length := by
  have size : rest.length = length := by simpa using length_of_encode_eq_ok encoded
  have value : Bytes.toNat rest = n := by simpa [decode] using decode_of_encode_eq_ok encoded
  rw [← size, ← value]
  exact Bytes.toNat_lt rest

/-- The leading bit of the form is free for the sign. -/
theorem exists_encode_signedLength (n : Nat) :
    ∃ first rest, encode n (signedLength n) = .ok (first :: rest) ∧ first < 128 := by
  obtain ⟨k, size⟩ : ∃ k, signedLength n = k + 1 := ⟨_, rfl⟩
  have low := (signedLength_natCast_le_iff n k).mp size.le
  have fits := Bytes.lt_pow_of_lt low
  refine ⟨_, Bytes.ofNat k n, by rw [size, encode_natCast fits, Bytes.ofNat], ?_⟩
  rwa [Bytes.lt_128_iff _ (Bytes.ofNat k n), ← Bytes.ofNat, Bytes.toNat_ofNat,
    Bytes.length_ofNat, Nat.mod_eq_of_lt fits]

/-- A number fits into a length exactly when its signed length does, or is one more and the byte in
front is zero. At its signed length it is encoded without touching the leading bit. One byte more
puts a zero byte in front of a number that fits and leaves the others as they are. -/
theorem sign_byte_rule (n length : Nat) :
    ((∃ data, encode n length = .ok data) ↔ signedLength n ≤ length ∨
      signedLength n = length + 1 ∧ ∃ rest, encode n (length + 1) = .ok (0 :: rest)) ∧
    (∃ first rest, encode n (signedLength n) = .ok (first :: rest) ∧ first < 128) ∧
    (n < 256 ^ length → ∃ data,
      encode n length = .ok data ∧ encode n (length + 1) = .ok (0 :: data)) := by
  refine ⟨⟨?_, ?_⟩, exists_encode_signedLength n, ?_⟩
  · rintro ⟨data, encoded⟩
    obtain ⟨-, -, fits, -⟩ := encode_eq_ok_iff.mp encoded
    rcases Nat.le_or_eq_of_le_succ (signedLength_le_of_fits fits) with short | next
    · exact .inl short
    · exact .inr ⟨next, _, encode_succ_of_fits fits⟩
  · rintro (short | ⟨-, rest, encoded⟩)
    · exact ⟨_, encode_natCast (fits_of_signedLength_le short)⟩
    · exact ⟨_, encode_natCast (fits_of_encode_succ encoded)⟩
  · exact fun fits => ⟨_, encode_natCast fits, encode_succ_of_fits fits⟩

end FixedWidth
end KeyExport
