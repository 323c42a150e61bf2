import KeyExport.Proofs.Record.Decoding
import KeyExport.Record.Editing
import Mathlib.Data.Set.Function

set_option autoImplicit false

/-!
# Writing edited records

Edited fields may have any length, and what is written does not say where one field ends. So a
record that can be written may be read back as another one with the same bytes; it is read back as
itself exactly when its fields end where reading cuts.
-/

namespace KeyExport.Record

variable {r other : Record} {data : Bytes}

/-- The version is a byte. -/
def Writable (r : Record) : Prop :=
  0 ≤ r.version ∧ r.version ≤ 255

theorem encode_eq_ok_iff :
    r.encode = .ok data ↔ r.Writable ∧ data = UInt8.ofNat r.version.toNat :: r.body := by
  unfold encode
  split <;> rename_i range
  · have writable : r.Writable := ⟨range.1, by omega⟩
    rw [Except.ok.injEq, and_iff_right writable, eq_comm]
  · constructor
    · intro h
      cases h
    · rintro ⟨⟨lower, upper⟩, -⟩
      exact absurd ⟨lower, by omega⟩ range

theorem exists_encode_eq_ok_iff : (∃ data, r.encode = .ok data) ↔ r.Writable := by
  simp only [encode_eq_ok_iff, exists_and_left, exists_eq, and_true]

/-- The byte that a version is written as stands for that version. -/
theorem Writable.version_eq (writable : r.Writable) :
    r.version = (UInt8.ofNat r.version.toNat).toNat := by
  obtain ⟨lower, upper⟩ := writable
  rw [UInt8.toNat_ofNat', Nat.mod_eq_of_lt (by omega)]
  omega

theorem decode_cons_eq_ok_iff {version : UInt8} {rest : Bytes} :
    decode (version :: rest) = .ok r ↔ version = currentVersion ∧
      Sizes.overhead ≤ (version :: rest).length ∧ r = ofBody currentVersion rest := by
  rcases decode_cases (version :: rest) with ⟨short, outcome⟩ | ⟨long, _, _, same, outcome⟩
  · rw [outcome]
    constructor
    · intro h
      cases h
    · rintro ⟨-, long, -⟩
      exact absurd short (Nat.not_lt.mpr long)
  · cases same
    rcases outcome with ⟨other, outcome⟩ | ⟨rfl, outcome⟩
    · rw [outcome]
      constructor
      · intro h
        cases h
      · rintro ⟨current, -⟩
        exact absurd current other
    · rw [outcome, Except.ok.injEq, and_iff_right rfl, and_iff_right long, eq_comm]

/-- What is written of a record can be read when the version is the current one and the fields
have room for those of the wire format, wherever they end. -/
theorem exists_decode_encode_iff (encoded : r.encode = .ok data) :
    (∃ read, decode data = .ok read) ↔ r.version = 0 ∧ 96 ≤ r.body.length := by
  obtain ⟨writable, rfl⟩ := encode_eq_ok_iff.mp encoded
  have current : UInt8.ofNat r.version.toNat = currentVersion ↔ r.version = 0 := by
    conv_rhs => rw [writable.version_eq]
    rw [← UInt8.toNat_inj]
    exact Int.ofNat_inj.symm
  have long : Sizes.overhead ≤ (UInt8.ofNat r.version.toNat :: r.body).length ↔
      96 ≤ r.body.length := by
    rw [List.length_cons, Sizes.overhead, Sizes.header]
    exact Nat.succ_le_succ_iff
  simp only [decode_cons_eq_ok_iff, current, long, exists_and_left, exists_eq, and_true]

theorem reread_eq_of_encode_eq (encoded : r.encode = .ok data) : r.reread = decode data := by
  rw [reread, encoded]
  rfl

/-- A record that was read is aligned. So it can only be the one that was written when that one is
aligned too, and then it is. -/
theorem eq_iff_aligned (encoded : r.encode = .ok data) (read : decode data = .ok other) :
    other = r ↔ r.Aligned := by
  obtain ⟨writable, rfl⟩ := encode_eq_ok_iff.mp encoded
  obtain ⟨current, long, rfl⟩ := decode_cons_eq_ok_iff.mp read
  constructor
  · intro same
    rw [← same]
    exact (regular_ofBody (current ▸ long)).aligned
  · intro aligned
    exact aligned.ofBody_body (current ▸ writable.version_eq)

theorem aligned_iff : r.Aligned ↔
    r.keyId.length = 4 ∧ r.ephemeralPoint.length = 64 ∧ r.nonce.length = 12 := by
  constructor
  · rintro ⟨keyId, point, nonce⟩
    exact ⟨keyId, point, nonce⟩
  · rintro ⟨keyId, point, nonce⟩
    exact ⟨keyId, point, nonce⟩

/-- Aligned records that are written alike have their fields cut from the same bytes. -/
theorem Aligned.eq_of_encode_eq (aligned : r.Aligned) (otherAligned : other.Aligned)
    (encoded : r.encode = .ok data) (otherEncoded : other.encode = .ok data) : r = other := by
  obtain ⟨writable, rfl⟩ := encode_eq_ok_iff.mp encoded
  obtain ⟨otherWritable, same⟩ := encode_eq_ok_iff.mp otherEncoded
  obtain ⟨sameVersion, sameBody⟩ := List.cons.inj same
  calc
    r = ofBody (UInt8.ofNat r.version.toNat) r.body :=
      (aligned.ofBody_body writable.version_eq).symm
    _ = ofBody (UInt8.ofNat other.version.toNat) other.body := by rw [sameVersion, sameBody]
    _ = other := otherAligned.ofBody_body otherWritable.version_eq

/-- However a record was built and edited, it can be written exactly when its version is a byte,
and read again exactly when that byte is zero and enough follows. What is read is written with the
same bytes and read as itself from then on, and it is the edited record exactly when the three
fields in front of the ciphertext have the lengths of the wire format. On records with those
lengths nothing is lost in writing. -/
theorem reread_edited :
    (∀ (built : Record) (assignments : List Assignment),
      let r := assignments.foldl assign built
      ((∃ data, r.encode = .ok data) ↔ 0 ≤ r.version ∧ r.version ≤ 255) ∧
        ∀ data, r.encode = .ok data →
          ((∃ read, decode data = .ok read) ↔ r.version = 0 ∧
            96 ≤ r.keyId.length + r.ephemeralPoint.length + r.nonce.length +
              r.ciphertext.length) ∧
          ∀ read, decode data = .ok read →
            read.encode = .ok data ∧ read.reread = .ok read ∧
              (read = r ↔ r.keyId.length = 4 ∧ r.ephemeralPoint.length = 64 ∧
                r.nonce.length = 12)) ∧
      Set.InjOn encode {r | (r.keyId.length = 4 ∧ r.ephemeralPoint.length = 64 ∧
        r.nonce.length = 12) ∧ 0 ≤ r.version ∧ r.version ≤ 255} := by
  refine ⟨?_, ?_⟩
  · intro built assignments r
    refine ⟨exists_encode_eq_ok_iff, ?_⟩
    intro data encoded
    refine ⟨?_, ?_⟩
    · have size : r.body.length = r.keyId.length + r.ephemeralPoint.length + r.nonce.length +
          r.ciphertext.length := by
        simp only [body, List.length_append]
      rw [← size]
      exact exists_decode_encode_iff encoded
    · intro read decoded
      have rewritten : read.encode = .ok data := (readFrom_of_decode_eq_ok decoded).encode
      rw [reread_eq_of_encode_eq rewritten, ← aligned_iff]
      exact ⟨rewritten, decoded, eq_iff_aligned encoded decoded⟩
  · rintro r ⟨lengths, writable⟩ other ⟨otherLengths, -⟩ same
    obtain ⟨data, encoded⟩ := exists_encode_eq_ok_iff.mpr writable
    exact (aligned_iff.mpr lengths).eq_of_encode_eq (aligned_iff.mpr otherLengths) encoded
      (same ▸ encoded)

/-- A nonce that is one byte short borrows the first byte of the ciphertext. -/
example : (Record.mk 0 (Bytes.zeros 4) (Bytes.zeros 64) (Bytes.zeros 11) (Bytes.zeros 17)).reread =
    .ok ⟨0, Bytes.zeros 4, Bytes.zeros 64, Bytes.zeros 12, Bytes.zeros 16⟩ := by decide

end KeyExport.Record
