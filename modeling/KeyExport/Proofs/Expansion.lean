import KeyExport.Proofs.Failure
import KeyExport.Proofs.KeyDerivation
import Mathlib.Algebra.Order.Group.Nat
import Mathlib.Order.Bounds.Basic

set_option autoImplicit false

/-!
# Expansion of key material

A derived key is a cut of numbered blocks, each computed from the one before, and there are never
more of them than a byte can number. Fewer blocks are the front of more, so a shorter key is the
front of a longer one. The salt counts only as the block of key that it is filled up to.
-/

namespace KeyExport

namespace Hkdf

variable {key info : Bytes} {rounds more : Nat}

/-- The numbered blocks of an expansion. The counter at the end of what a block is computed from is
one byte, and this byte has the number of the block for its value. -/
structure Chain (key info : Bytes) (rounds : Nat) (chain : Nat → Bytes) : Prop where
  zero : chain 0 = []
  succ : ∀ i < rounds, ∃ counter : UInt8, counter.toNat = i + 1 ∧
    chain (i + 1) = Hmac.sha256 key (chain i ++ info ++ [counter])

theorem chain_block (few : rounds ≤ Sizes.maxRounds) : Chain key info rounds (block key info) where
  zero := rfl
  succ i below := by
    have byte : i + 1 < 256 := by
      rw [Sizes.maxRounds] at few
      omega
    exact ⟨UInt8.ofNat (i + 1), by simpa using byte, rfl⟩

theorem blocks_prefix (key info : Bytes) (le : rounds ≤ more) :
    blocks key info rounds <+: blocks key info more := by
  induction more, le using Nat.le_induction with
  | base => exact List.prefix_rfl
  | succ n _ ih =>
    rw [blocks_succ]
    exact ih.trans (List.prefix_append _ _)

/-- Blocks behind a cut have no part in it. -/
theorem take_blocks (key info : Bytes) (le : rounds ≤ more) {length : Nat}
    (covered : length ≤ rounds * 32) :
    (blocks key info more).take length = (blocks key info rounds).take length := by
  obtain ⟨rest, same⟩ := blocks_prefix key info le
  rw [← same, List.take_append_of_le_length (by simpa using covered)]

end Hkdf

namespace KeyDerivation

variable {material info : Bytes} {salt : Option Bytes} {length : Int}

theorem rounds_le_iff (length n : Int) : rounds length ≤ n ↔ length ≤ 32 * n := by
  simp only [rounds, Sizes.hash]
  omega

theorem isLeast_rounds (length : Int) : IsLeast {n : Int | length ≤ 32 * n} (rounds length) :=
  ⟨(rounds_le_iff length _).mp le_rfl, fun n => (rounds_le_iff length n).mpr⟩

theorem maxRounds_lt_rounds_iff (length : Int) : Sizes.maxRounds < rounds length ↔ 8160 < length := by
  have bound := rounds_le_iff length Sizes.maxRounds
  simp only [Sizes.maxRounds] at bound ⊢
  omega

/-- The length decides whether it is refused, and how. -/
theorem derive_cases (material : Bytes) (salt : Option Bytes) (info : Bytes) (length : Int) :
    (∃ named : Decimal, named.value = length ∧ length < 1 ∧
        derive material salt info length = .fail (.outputNotPositive named)) ∨
      (∃ named : Decimal, named.value = length ∧ 8160 < length ∧
        derive material salt info length = .fail (.outputTooLong named)) ∨
      10 ^ 4300 ≤ length.natAbs ∧ (length < 1 ∨ 8160 < length) ∧
        derive material salt info length = .fail (.tooManyDigits length) ∨
      1 ≤ length ∧ length ≤ 8160 := by
  have limit := maxRounds_lt_rounds_iff length
  by_cases low : length < 1
  · have refused : derive material salt info length = .fail (.naming .outputNotPositive length) :=
      if_pos low
    rcases Failure.naming_cases .outputNotPositive length with
      ⟨named, same, written⟩ | ⟨digits, unwritten⟩
    · exact .inl ⟨named, same, low, written ▸ refused⟩
    · exact .inr (.inr (.inl ⟨digits, .inl low, unwritten ▸ refused⟩))
  · by_cases long : 8160 < length
    · have refused : derive material salt info length = .fail (.naming .outputTooLong length) := by
        rw [derive, if_neg low, if_pos (limit.mpr long)]
      rcases Failure.naming_cases .outputTooLong length with
        ⟨named, same, written⟩ | ⟨digits, unwritten⟩
      · exact .inr (.inl ⟨named, same, long, written ▸ refused⟩)
      · exact .inr (.inr (.inl ⟨digits, .inr long, unwritten ▸ refused⟩))
    · exact .inr (.inr (.inr ⟨Int.not_lt.mp low, Int.not_lt.mp long⟩))

/-- Within the bounds a key is derived. -/
theorem derive_of_bounds (material : Bytes) (salt : Option Bytes) (info : Bytes)
    (positive : 1 ≤ length) (bounded : length ≤ 8160) :
    rounds length ≤ Sizes.maxRounds ∧ ∀ source, derive material salt info length source =
      ⟨.ok ((Hkdf.blocks (Hkdf.extract (salt.getD (Bytes.zeros Sizes.hash)) material) info
          (rounds length).toNat).take length.toNat),
        List.replicate ((rounds length).toNat + 1) (.computed .hmac)⟩ := by
  have few : rounds length ≤ Sizes.maxRounds :=
    Int.not_lt.mp (mt (maxRounds_lt_rounds_iff length).mp (Int.not_lt.mpr bounded))
  exact ⟨few, derive_apply material salt info positive few⟩

theorem derive_eq_notPositive_iff {named : Decimal} {source : Source} :
    derive material salt info length source = ⟨.error (.outputNotPositive named), []⟩ ↔
      length < 1 ∧ named.value = length := by
  rcases derive_cases material salt info length with ⟨number, rfl, low, refused⟩ |
    ⟨number, rfl, long, refused⟩ | ⟨digits, -, refused⟩ | ⟨positive, bounded⟩
  · simp [refused, low, Decimal.ext_iff, eq_comm]
  · have positive : 1 ≤ number.value := by omega
    simp [refused, positive]
  · simp [refused, Decimal.ne_of_le digits]
  · simp [(derive_of_bounds material salt info positive bounded).2, positive]

theorem derive_eq_tooLong_iff {named : Decimal} {source : Source} :
    derive material salt info length source = ⟨.error (.outputTooLong named), []⟩ ↔
      8160 < length ∧ named.value = length := by
  rcases derive_cases material salt info length with ⟨number, rfl, low, refused⟩ |
    ⟨number, rfl, long, refused⟩ | ⟨digits, -, refused⟩ | ⟨positive, bounded⟩
  · have bounded : number.value ≤ 8160 := by omega
    simp [refused, bounded]
  · simp [refused, long, Decimal.ext_iff, eq_comm]
  · simp [refused, Decimal.ne_of_le digits]
  · simp [(derive_of_bounds material salt info positive bounded).2, bounded]

/-- A length that cannot be written is refused for that, whatever else is wrong with it. -/
theorem derive_eq_tooManyDigits_iff {source : Source} :
    derive material salt info length source = ⟨.error (.tooManyDigits length), []⟩ ↔
      10 ^ 4300 ≤ length.natAbs := by
  rcases derive_cases material salt info length with ⟨number, rfl, -, refused⟩ |
    ⟨number, rfl, -, refused⟩ | ⟨digits, -, refused⟩ | ⟨positive, bounded⟩
  · exact iff_of_false (by simp [refused]) (Nat.not_le.mpr number.natAbs_lt)
  · exact iff_of_false (by simp [refused]) (Nat.not_le.mpr number.natAbs_lt)
  · exact iff_of_true (by rw [refused]; rfl) digits
  · have small : length.natAbs < 10 ^ 4 := by omega
    have short {n : Nat} (large : 4 ≤ n) : length.natAbs < 10 ^ n :=
      small.trans_le (Nat.pow_le_pow_right (by decide) large)
    obtain ⟨-, derived⟩ := derive_of_bounds material salt info positive bounded
    exact iff_of_false (by simp [derived]) (Nat.not_le.mpr (short (by decide)))

/-- A length below one and one above 8160 are refused before anything is computed, by a failure that
names the length, and 8160 is what 255 rounds give. A length of more than 4300 digits, which cannot
be named, is refused for that, and not as malformed input. Any other length is that of the derived
key, which is cut from a chain of as many blocks as it takes and no more, computed with the key that
is extracted under the salt or, where there is none, under 32 zeros. -/
theorem derive_exact (material : Bytes) (salt : Option Bytes) (info : Bytes) (length : Int)
    (source : Source) :
    (∀ named : Decimal,
        (derive material salt info length source = ⟨.error (.outputNotPositive named), []⟩ ↔
          length < 1 ∧ named.value = length) ∧
        (derive material salt info length source = ⟨.error (.outputTooLong named), []⟩ ↔
          8160 < length ∧ named.value = length) ∧
        (Failure.outputNotPositive named).category = .outputLength ∧
        (Failure.outputTooLong named).report = .outputTooLong named.value 8160) ∧
      ((∃ named : Decimal, named.value = length) ↔ length.natAbs < 10 ^ 4300) ∧
      (derive material salt info length source = ⟨.error (.tooManyDigits length), []⟩ ↔
        10 ^ 4300 ≤ length.natAbs) ∧
      (Failure.tooManyDigits length).category = .general .invalidValue ∧
      (8160 < length ↔ 255 < rounds length) ∧
      IsLeast {n : Int | length ≤ 32 * n} (rounds length) ∧
      (1 ≤ length → length ≤ 8160 → 1 ≤ rounds length ∧ rounds length ≤ 255 ∧
        ∃ (chain : Nat → Bytes) (output : Bytes),
          Hkdf.Chain (Hmac.sha256 (salt.getD (Bytes.zeros 32)) material) info
              (rounds length).toNat chain ∧
            output = ((List.range (rounds length).toNat).flatMap fun i =>
              chain (i + 1)).take length.toNat ∧
            (output.length : Int) = length ∧
            derive material salt info length source =
              ⟨.ok output, List.replicate ((rounds length).toNat + 1) (.computed .hmac)⟩) := by
  refine ⟨fun _ => ⟨derive_eq_notPositive_iff, derive_eq_tooLong_iff, rfl, rfl⟩,
    Decimal.exists_value_eq_iff length, derive_eq_tooManyDigits_iff, rfl,
    (maxRounds_lt_rounds_iff length).symm, isLeast_rounds length, ?_⟩
  intro positive bounded
  obtain ⟨few, derived⟩ := derive_of_bounds material salt info positive bounded
  have covered : length ≤ 32 * rounds length := (rounds_le_iff length _).mp le_rfl
  rw [Sizes.maxRounds] at few
  refine ⟨by omega, few, _, _, Hkdf.chain_block ?_, rfl, ?_, derived source⟩
  · rw [Sizes.maxRounds]
    omega
  · change (((Hkdf.blocks _ info (rounds length).toNat).take length.toNat).length : Int) = length
    rw [List.length_take, Hkdf.length_blocks]
    omega

/-- A length of 4301 digits is not reported as too long. -/
theorem not_derive_reports_length : ¬∀ length : Int, 8160 < length → ∀ source, ∃ failure,
    derive [] none [] length source = ⟨.error failure, []⟩ ∧
      failure.category = .outputTooLong := by
  intro reports
  have digits (n : Nat) : (10 ^ n : Int).natAbs = 10 ^ n := by simp [Int.natAbs_pow]
  have long {n : Nat} (large : 4 ≤ n) : (8160 : Int) < 10 ^ n := by
    have more : 8160 < 10 ^ n :=
      Nat.lt_of_lt_of_le (by decide) (Nat.pow_le_pow_right (by decide) large)
    rw [← Int.ofNat_lt, Int.natCast_pow] at more
    exact more
  obtain ⟨failure, failed, category⟩ :=
    reports (10 ^ 4300) (long (by decide)) (.constant [] ⟨1, by decide, by decide⟩)
  cases failed.symm.trans (derive_eq_tooManyDigits_iff.mpr (digits 4300).ge)
  cases category

/-- Two salts that extract the same key derive the same keys. -/
theorem derive_congr_salt {other : Option Bytes}
    (same : Hkdf.extract (salt.getD (Bytes.zeros Sizes.hash)) material =
      Hkdf.extract (other.getD (Bytes.zeros Sizes.hash)) material) (info : Bytes) (length : Int) :
    derive material salt info length = derive material other info length := by
  have computed : hmac (salt.getD (Bytes.zeros Sizes.hash)) material =
      hmac (other.getD (Bytes.zeros Sizes.hash)) material :=
    congrArg (Action.compute .hmac) same
  simp only [derive, computed]

theorem derive_append_zeros (material salt info : Bytes) (length : Int) {count : Nat}
    (fits : salt.length + count ≤ Sha256.blockSize) :
    derive material (some (salt ++ Bytes.zeros count)) info length =
      derive material (some salt) info length := by
  apply derive_congr_salt
  rw [Option.getD_some, Option.getD_some, extract_append_zeros salt count material fits]

/-- A missing salt is a run of zeros, and of all lengths up to a block it is the same. -/
theorem derive_none_eq (material info : Bytes) (length : Int) (count : Nat)
    (fits : count ≤ Sha256.blockSize) :
    derive material none info length = derive material (some (Bytes.zeros count)) info length := by
  apply derive_congr_salt
  rw [Option.getD_none, Option.getD_some, extract_zeros Sizes.hash _ (by decide),
    extract_zeros count _ fits]

/-- A key that is derived shorter is the front of the one that is derived longer. A missing salt, an
empty one and up to 64 zeros are one and the same salt, whatever the length asked for, and so are a
salt and what zeros fill it up to within 64 bytes. -/
theorem derive_coherent :
    (∀ (material : Bytes) (salt : Option Bytes) (info : Bytes) (short long : Int),
        1 ≤ short → short ≤ long → long ≤ 8160 → ∃ output : Bytes,
          (∀ source, (derive material salt info long source).result = .ok output) ∧
            ∀ source, (derive material salt info short source).result =
              .ok (output.take short.toNat)) ∧
      (∀ (material info : Bytes) (length : Int),
        derive material none info length = derive material (some []) info length ∧
          ∀ count ≤ 64, derive material none info length =
            derive material (some (Bytes.zeros count)) info length) ∧
      ∀ (material salt info : Bytes) (length : Int) (count : Nat), salt.length + count ≤ 64 →
        derive material (some (salt ++ Bytes.zeros count)) info length =
          derive material (some salt) info length := by
  refine ⟨?_, fun material info length => ⟨?_, ?_⟩, ?_⟩
  · intro material salt info short long positive shorter bounded
    obtain ⟨-, derivedShort⟩ := derive_of_bounds material salt info positive (shorter.trans bounded)
    obtain ⟨-, derivedLong⟩ := derive_of_bounds material salt info (positive.trans shorter) bounded
    refine ⟨_, fun source => congrArg Outcome.result (derivedLong source), fun source => ?_⟩
    have covered : short ≤ 32 * rounds short := (rounds_le_iff short _).mp le_rfl
    have fewer : rounds short ≤ rounds long :=
      (rounds_le_iff short _).mpr (shorter.trans ((rounds_le_iff long _).mp le_rfl))
    rw [derivedShort, List.take_take, Nat.min_eq_left (Int.toNat_le_toNat shorter),
      Hkdf.take_blocks _ _ (Int.toNat_le_toNat fewer) (by omega)]
  · exact derive_none_eq material info length 0 (Nat.zero_le _)
  · exact derive_none_eq material info length
  · exact fun material salt info length count => derive_append_zeros material salt info length

end KeyDerivation
end KeyExport
