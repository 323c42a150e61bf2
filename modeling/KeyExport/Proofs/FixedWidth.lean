import KeyExport.FixedWidth
import KeyExport.Proofs.Binary
import KeyExport.Proofs.Failure

set_option autoImplicit false

/-!
# Numbers at fixed width

Byte strings of one length are in lexicographic order as the numbers that they write are in order of
size. So a number that fits is written in one way only, every byte string is the one in which its
number is written, and writing keeps the order.
-/

namespace KeyExport

namespace Bytes

theorem foldl_toNat (data : Bytes) (n : Nat) :
    data.foldl (fun n b => n * 256 + b.toNat) n = n * 256 ^ data.length + toNat data := by
  induction data generalizing n with
  | nil => simp
  | cons b rest ih =>
    simp only [toNat, List.foldl_cons, List.length_cons, Nat.zero_mul, Nat.zero_add]
    rw [ih, ih b.toNat, Nat.pow_succ', ← Nat.mul_assoc, Nat.add_mul]
    omega

@[simp] theorem toNat_cons (b : UInt8) (rest : Bytes) :
    toNat (b :: rest) = b.toNat * 256 ^ rest.length + toNat rest := by
  simpa [toNat] using foldl_toNat rest b.toNat

/-- A greater leading digit outweighs all digits behind it. -/
theorem mul_add_lt_of_lt {v w r base : Nat} (less : v < w) (below : r < base) (s : Nat) :
    v * base + r < w * base + s := by
  calc v * base + r < (v + 1) * base := by rw [Nat.succ_mul]; omega
    _ ≤ w * base := Nat.mul_le_mul_right base less
    _ ≤ w * base + s := Nat.le_add_right _ _

theorem toNat_lt (data : Bytes) : toNat data < 256 ^ data.length := by
  induction data with
  | nil => simp
  | cons b rest ih =>
    rw [toNat_cons, List.length_cons, Nat.pow_succ']
    exact mul_add_lt_of_lt b.toNat_lt ih 0

theorem toNat_ofNat (k n : Nat) : toNat (ofNat k n) = n % 256 ^ k := by
  induction k with
  | zero => simp [ofNat, Nat.mod_one]
  | succ k ih =>
    have h : n % 256 ^ (k + 1) = n % 256 ^ k + 256 ^ k * (n / 256 ^ k % 256) := by
      rw [Nat.pow_succ, Nat.mod_mul]
    rw [ofNat, toNat_cons, length_ofNat, ih, UInt8.toNat_ofNat', Nat.shiftRight_eq_div_pow,
      Nat.pow_mul, h, Nat.mul_comm, Nat.add_comm]

/-- Strings of one length are in lexicographic order as their numbers are in order of size. -/
theorem lt_iff_toNat_lt {a b : Bytes} (size : a.length = b.length) :
    a < b ↔ toNat a < toNat b := by
  induction a generalizing b with
  | nil => simp [List.length_eq_zero_iff.mp size.symm]
  | cons v rest ih =>
    cases b with
    | nil => cases size
    | cons w others =>
      have restSize : rest.length = others.length := Nat.succ.inj size
      have below := toNat_lt rest
      have othersBelow := toNat_lt others
      rw [← restSize] at othersBelow
      rw [List.cons_lt_cons_iff, ih restSize, UInt8.lt_iff_toNat_lt, toNat_cons, toNat_cons,
        ← restSize]
      -- The leading bytes decide, unless they are the same.
      rcases Nat.lt_trichotomy v.toNat w.toNat with less | same | more
      · simp [less, mul_add_lt_of_lt less below]
      · simp [UInt8.toNat_inj.mp same]
      · have heavier := mul_add_lt_of_lt more othersBelow (toNat rest)
        have different : v ≠ w := by
          rintro rfl
          exact Nat.lt_irrefl _ more
        simp [different, Nat.not_lt.mpr more.le, heavier.le]

theorem eq_of_toNat_eq {a b : Bytes} (size : a.length = b.length) (same : toNat a = toNat b) :
    a = b := by
  apply List.le_antisymm
  · exact mt (lt_iff_toNat_lt size.symm).mp (by omega)
  · exact mt (lt_iff_toNat_lt size).mp (by omega)

@[simp] theorem ofNat_toNat (data : Bytes) : ofNat data.length (toNat data) = data := by
  apply eq_of_toNat_eq (length_ofNat _ _)
  rw [toNat_ofNat, Nat.mod_eq_of_lt (toNat_lt data)]

end Bytes

namespace FixedWidth

theorem decode_ofNat {n length : Nat} (fits : n < 256 ^ length) :
    decode (Bytes.ofNat length n) = n := by
  rw [decode, Bytes.toNat_ofNat, Nat.mod_eq_of_lt fits]

/-- Of several faults the first is reported. -/
theorem check_cases (value length : Int) :
    length < 0 ∧ check value length = .error (.naming .negativeLength length) ∨
      0 ≤ length ∧ value < 0 ∧ check value length = .error .negativeValue ∨
      0 ≤ length ∧ 0 ≤ value ∧ 256 ^ length.toNat ≤ value.toNat ∧
        check value length = .error (.tooWide (Binary.bitLength value.toNat) length.toNat) ∨
      0 ≤ length ∧ 0 ≤ value ∧ value.toNat < 256 ^ length.toNat ∧ check value length = .ok () := by
  have fits : Binary.bitLength value.toNat ≤ length.toNat * 8 ↔
      value.toNat < 256 ^ length.toNat := by
    rw [Binary.bitLength_le_iff, Nat.mul_comm, Nat.pow_mul]
  by_cases short : length < 0
  · exact .inl ⟨short, if_pos short⟩
  · have nonneg : 0 ≤ length := Int.not_lt.mp short
    by_cases negative : value < 0
    · refine .inr (.inl ⟨nonneg, negative, ?_⟩)
      rw [check, if_neg short, if_pos negative]
    · have valueNonneg : 0 ≤ value := Int.not_lt.mp negative
      by_cases narrow : Binary.bitLength value.toNat ≤ length.toNat * 8
      · refine .inr (.inr (.inr ⟨nonneg, valueNonneg, fits.mp narrow, ?_⟩))
        rw [check, if_neg short, if_neg negative, if_neg (Nat.not_lt.mpr narrow)]
      · refine .inr (.inr (.inl ⟨nonneg, valueNonneg, Nat.not_lt.mp (mt fits.mpr narrow), ?_⟩))
        rw [check, if_neg short, if_neg negative, if_pos (Nat.not_le.mp narrow)]

section Checked

variable {value length : Int}

theorem encode_of_check_eq_error {failure : Failure}
    (refused : check value length = .error failure) : encode value length = .error failure := by
  rw [encode, refused]
  rfl

theorem encode_of_check_eq_ok (passed : check value length = .ok ()) :
    encode value length = .ok (Bytes.ofNat length.toNat value.toNat) := by
  rw [encode, passed]
  rfl

end Checked

theorem encode_cases (value length : Int) :
    length < 0 ∧ encode value length = .error (.naming .negativeLength length) ∨
      0 ≤ length ∧ value < 0 ∧ encode value length = .error .negativeValue ∨
      0 ≤ length ∧ 0 ≤ value ∧ 256 ^ length.toNat ≤ value.toNat ∧
        encode value length =
          .error (.tooWide (Binary.bitLength value.toNat) length.toNat) ∨
      0 ≤ length ∧ 0 ≤ value ∧ value.toNat < 256 ^ length.toNat ∧
        encode value length = .ok (Bytes.ofNat length.toNat value.toNat) := by
  rcases check_cases value length with ⟨short, refused⟩ | ⟨nonneg, negative, refused⟩ |
    ⟨nonneg, valueNonneg, wide, refused⟩ | ⟨nonneg, valueNonneg, fits, passed⟩
  · exact .inl ⟨short, encode_of_check_eq_error refused⟩
  · exact .inr (.inl ⟨nonneg, negative, encode_of_check_eq_error refused⟩)
  · exact .inr (.inr (.inl ⟨nonneg, valueNonneg, wide, encode_of_check_eq_error refused⟩))
  · exact .inr (.inr (.inr ⟨nonneg, valueNonneg, fits, encode_of_check_eq_ok passed⟩))

theorem encode_eq_ok_iff {value length : Int} {data : Bytes} : encode value length = .ok data ↔
    0 ≤ length ∧ 0 ≤ value ∧ value.toNat < 256 ^ length.toNat ∧
      data = Bytes.ofNat length.toNat value.toNat := by
  rcases encode_cases value length with
    ⟨short, refused⟩ | ⟨-, negative, refused⟩ | ⟨-, -, wide, refused⟩ |
    ⟨nonneg, valueNonneg, fits, written⟩
  · simp [refused, Int.not_le.mpr short]
  · simp [refused, Int.not_le.mpr negative]
  · simp [refused, Nat.not_lt.mpr wide]
  · simp [written, nonneg, valueNonneg, fits, eq_comm]

theorem encode_natCast {n length : Nat} (h : n < 256 ^ length) :
    encode n length = .ok (Bytes.ofNat length n) :=
  encode_eq_ok_iff.mpr ⟨Int.natCast_nonneg _, Int.natCast_nonneg _, h, rfl⟩

variable {value length : Int} {data : Bytes}

theorem toNat_lt_pow_iff (nonneg : 0 ≤ value) (k : Nat) :
    value.toNat < 256 ^ k ↔ value < 256 ^ k := by
  rw [Int.toNat_lt nonneg]
  push_cast
  rfl

theorem exists_encode_iff : (∃ data, encode value length = .ok data) ↔
    0 ≤ length ∧ 0 ≤ value ∧ value < 256 ^ length.toNat := by
  simp only [encode_eq_ok_iff, exists_and_left, exists_eq, and_true]
  constructor
  · rintro ⟨lengthNonneg, nonneg, fits⟩
    exact ⟨lengthNonneg, nonneg, (toNat_lt_pow_iff nonneg _).mp fits⟩
  · rintro ⟨lengthNonneg, nonneg, fits⟩
    exact ⟨lengthNonneg, nonneg, (toNat_lt_pow_iff nonneg _).mpr fits⟩

theorem length_of_encode_eq_ok (h : encode value length = .ok data) :
    (data.length : Int) = length := by
  obtain ⟨nonneg, -, -, rfl⟩ := encode_eq_ok_iff.mp h
  rw [Bytes.length_ofNat, Int.toNat_of_nonneg nonneg]

theorem decode_of_encode_eq_ok (h : encode value length = .ok data) :
    (decode data : Int) = value := by
  obtain ⟨-, nonneg, fits, rfl⟩ := encode_eq_ok_iff.mp h
  rw [decode_ofNat fits, Int.toNat_of_nonneg nonneg]

theorem encode_decode (data : Bytes) : encode (decode data) data.length = .ok data := by
  rw [decode, encode_natCast (Bytes.toNat_lt data), Bytes.ofNat_toNat]

/-- The faults of a number that is not encoded, in the order in which they are looked for. -/
theorem cases_of_encode_eq_error {failure : Failure} (h : encode value length = .error failure) :
    (∃ named : Decimal, named.value = length ∧ length < 0 ∧ failure = .negativeLength named) ∨
      length < 0 ∧ 10 ^ 4300 ≤ length.natAbs ∧ failure = .tooManyDigits length ∨
      0 ≤ length ∧ value < 0 ∧ failure = .negativeValue ∨
      0 ≤ length ∧ 0 ≤ value ∧ 256 ^ length.toNat ≤ value ∧
        failure = .tooWide (Binary.bitLength value.toNat) length.toNat := by
  rcases encode_cases value length with
    ⟨short, refused⟩ | ⟨lengthNonneg, negative, refused⟩ | ⟨lengthNonneg, nonneg, wide, refused⟩ |
    ⟨-, -, -, written⟩
  · rw [refused] at h
    cases h
    rcases Failure.naming_cases .negativeLength length with ⟨named, same, named_eq⟩ | ⟨long, unnamed⟩
    · exact .inl ⟨named, same, short, named_eq⟩
    · exact .inr (.inl ⟨short, long, unnamed⟩)
  · rw [refused] at h
    cases h
    exact .inr (.inr (.inl ⟨lengthNonneg, negative, rfl⟩))
  · rw [refused] at h
    cases h
    have large := mt (toNat_lt_pow_iff nonneg length.toNat).mpr (Nat.not_lt.mpr wide)
    exact .inr (.inr (.inr ⟨lengthNonneg, nonneg, Int.not_lt.mp large, rfl⟩))
  · rw [written] at h
    cases h

/-- Encoding keeps the order of the numbers that fit. -/
theorem lt_iff_lt_of_encode_eq_ok {v w : Int} {a b : Bytes} (first : encode v length = .ok a)
    (second : encode w length = .ok b) : v < w ↔ a < b := by
  have size : a.length = b.length := by
    have lengths := (length_of_encode_eq_ok first).trans (length_of_encode_eq_ok second).symm
    exact Int.ofNat_inj.mp lengths
  rw [← decode_of_encode_eq_ok first, ← decode_of_encode_eq_ok second, Int.ofNat_lt,
    Bytes.lt_iff_toNat_lt size]
  rfl

section Room

variable {room : Nat}

/-- The room is looked at last. -/
theorem encodeWithin_eq (room : Nat) (value length : Int) :
    encodeWithin room value length = encode value length >>= fun data =>
      if room < length.toNat then .error (.tooManyBytes length.toNat) else .ok data := by
  unfold encodeWithin encode
  cases check value length <;> rfl

theorem encodeWithin_of_encode_eq_error {failure : Failure}
    (refused : encode value length = .error failure) :
    encodeWithin room value length = .error failure := by
  rw [encodeWithin_eq, refused]
  rfl

theorem encodeWithin_of_encode_eq_ok (written : encode value length = .ok data) :
    encodeWithin room value length =
      if room < length.toNat then .error (.tooManyBytes length.toNat) else .ok data := by
  rw [encodeWithin_eq, written]
  rfl

theorem encodeWithin_eq_encode
    (within : ∀ data, encode value length = .ok data → length ≤ room) :
    encodeWithin room value length = encode value length := by
  cases outcome : encode value length with
  | error failure => exact encodeWithin_of_encode_eq_error outcome
  | ok data =>
    have enough : ¬room < length.toNat := Nat.not_lt.mpr (Int.toNat_le.mpr (within data outcome))
    rw [encodeWithin_of_encode_eq_ok outcome, if_neg enough]

end Room

/-- Memory aside, a number is encoded exactly when neither it nor the length is negative and it is
below the power of 256 with the length for its exponent; else the first fault is reported, except
that a negative length of more than 4300 digits is reported as one that cannot be written, which is
no fault of encoding. Encoding and decoding are inverse to each other, so that every byte string of
a length is the code of one such number, and the numbers are in order of size as their codes are in
lexicographic order. Limited room for byte strings takes nothing else away than codes that have no
room. -/
theorem codec_ordered (value length : Int) :
    ((∃ data, encode value length = .ok data) ↔
      0 ≤ length ∧ 0 ≤ value ∧ value < 256 ^ length.toNat) ∧
    (∀ failure, encode value length = .error failure →
      (∃ named : Decimal, named.value = length ∧ length < 0 ∧ failure = .negativeLength named) ∨
        length < 0 ∧ 10 ^ 4300 ≤ length.natAbs ∧ failure = .tooManyDigits length ∨
        0 ≤ length ∧ value < 0 ∧ failure = .negativeValue ∨
        0 ≤ length ∧ 0 ≤ value ∧ 256 ^ length.toNat ≤ value ∧
          failure = .tooWide (Binary.bitLength value.toNat) length.toNat) ∧
    ((∃ named : Decimal, named.value = length) ↔ length.natAbs < 10 ^ 4300) ∧
    (Failure.tooManyDigits length).category = .general .invalidValue ∧
    (∀ data, encode value length = .ok data →
      (data.length : Int) = length ∧ (decode data : Int) = value) ∧
    (∀ data : Bytes, decode data < 256 ^ data.length ∧
      encode (decode data) data.length = .ok data) ∧
    (∀ (w : Int) (a b : Bytes), encode value length = .ok a → encode w length = .ok b →
      (value < w ↔ a < b)) ∧
    ∀ room : Nat, (∀ data, encode value length = .ok data → length ≤ room) →
      encodeWithin room value length = encode value length := by
  refine ⟨exists_encode_iff, fun _ => cases_of_encode_eq_error,
    Decimal.exists_value_eq_iff length, rfl, ?_, ?_, ?_, fun _ => encodeWithin_eq_encode⟩
  · exact fun data written => ⟨length_of_encode_eq_ok written, decode_of_encode_eq_ok written⟩
  · exact fun data => ⟨Bytes.toNat_lt data, encode_decode data⟩
  · exact fun w a b => lt_iff_lt_of_encode_eq_ok

theorem encode_of_long (value : Int) (negative : length < 0) (long : 10 ^ 4300 ≤ length.natAbs) :
    encode value length = .error (.tooManyDigits length) := by
  rcases encode_cases value length with
    ⟨-, refused⟩ | ⟨nonneg, -⟩ | ⟨nonneg, -⟩ | ⟨nonneg, -⟩
  · rw [refused, Failure.naming_of_le _ long]
  all_goals exact absurd negative (Int.not_lt.mpr nonneg)

/-- A negative length of 4301 digits is not reported as a fault of encoding. -/
theorem not_encode_reports_length : ¬∀ value length : Int, length < 0 →
    ∃ failure, encode value length = .error failure ∧ failure.category = .encoding := by
  intro reports
  have digits (n : Nat) : (-10 ^ n : Int).natAbs = 10 ^ n := by simp [Int.natAbs_pow]
  have negative (n : Nat) : (-10 ^ n : Int) < 0 :=
    Int.neg_neg_of_pos (Int.pow_pos (by decide))
  obtain ⟨failure, failed, category⟩ := reports 0 (-10 ^ 4300) (negative 4300)
  cases failed.symm.trans (encode_of_long 0 (negative 4300) (digits 4300).ge)
  cases category

end FixedWidth
end KeyExport
