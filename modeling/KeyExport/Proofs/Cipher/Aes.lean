import KeyExport.Cipher.Aes
import Mathlib.Algebra.Group.Nat.Defs
import Mathlib.Data.Fintype.EquivFin

set_option autoImplicit false

/-!
# The block cipher is injective

Under any round keys no two blocks are encrypted alike, since no step of a round loses anything. The
table replaces bytes injectively because every byte occurs in it, and mixing a column four times
restores it.
-/

namespace KeyExport.Aes

theorem xor_left_comm (a b c : UInt8) : a ^^^ (b ^^^ c) = b ^^^ (a ^^^ c) := by
  rw [← UInt8.xor_assoc, UInt8.xor_comm a b, UInt8.xor_assoc]

theorem xor_cancel_left (a b : UInt8) : a ^^^ (a ^^^ b) = b := by
  rw [← UInt8.xor_assoc, UInt8.xor_self, UInt8.zero_xor]

section Substitution

/-- The bytes that occur, as the binary digits of one number. -/
def occurring (data : Bytes) : Nat :=
  data.foldl (fun set b => set ||| 1 <<< b.toNat) 0

theorem testBit_foldl_occurring (data : Bytes) (set n : Nat) :
    (data.foldl (fun set b => set ||| 1 <<< b.toNat) set).testBit n =
      (set.testBit n || data.any fun b => b.toNat == n) := by
  induction data generalizing set with
  | nil => simp
  | cons b rest ih =>
    rw [List.foldl_cons, ih, List.any_cons, Nat.testBit_or, Nat.one_shiftLeft,
      Nat.testBit_two_pow, Bool.or_assoc]
    rfl

theorem mem_iff_testBit_occurring (data : Bytes) (b : UInt8) :
    b ∈ data ↔ (occurring data).testBit b.toNat = true := by
  rw [occurring, testBit_foldl_occurring, Nat.zero_testBit, Bool.false_or, List.any_eq_true]
  simp [UInt8.toNat_inj]

theorem size_substitutionTable : substitutionTable.size = 256 := by
  decide +kernel

theorem occurring_substitutionTable : occurring substitutionTable.toList = 2 ^ 256 - 1 := by
  decide +kernel

theorem mem_substitutionTable (b : UInt8) : b ∈ substitutionTable.toList := by
  rw [mem_iff_testBit_occurring, occurring_substitutionTable, Nat.testBit_two_pow_sub_one]
  exact decide_eq_true b.toNat_lt

theorem substitute_surjective : Function.Surjective substitute := by
  intro b
  obtain ⟨place, below, entry⟩ := List.getElem_of_mem (mem_substitutionTable b)
  have small : place < 256 := by
    rwa [Array.length_toList, size_substitutionTable] at below
  have same : (UInt8.ofNat place).toNat = place := by
    rw [UInt8.toNat_ofNat', Nat.mod_eq_of_lt small]
  refine ⟨UInt8.ofNat place, ?_⟩
  rw [substitute, same, Array.getD_eq_getD_getElem?, ← Array.getElem?_toList,
    List.getElem?_eq_getElem below, entry, Option.getD_some]

theorem substitute_injective : Function.Injective substitute := by
  have : Finite UInt8 := Finite.of_injective UInt8.toFin fun _ _ => UInt8.toFin_inj.mp
  exact Finite.injective_iff_surjective.mpr substitute_surjective

end Substitution

section Mixing

theorem double_eq (b : UInt8) :
    double b = (b <<< 1) ^^^ if b.toBitVec.msb then 0x1b else 0 := by
  have low : b < 0x80 ↔ b.toBitVec.msb = false := by
    rw [UInt8.lt_iff_toBitVec_lt, BitVec.msb_eq_false_iff_two_mul_lt, BitVec.lt_def]
    simp
    omega
  by_cases small : b < 0x80
  · simp [double, small, low.mp small]
  · have high : b.toBitVec.msb = true := by simpa using mt low.mpr small
    simp [double, small, high]

theorem double_xor (a b : UInt8) : double (a ^^^ b) = double a ^^^ double b := by
  rw [double_eq, double_eq, double_eq, UInt8.toBitVec_xor, BitVec.msb_xor, UInt8.shiftLeft_xor]
  cases a.toBitVec.msb <;> cases b.toBitVec.msb <;>
    simp [UInt8.xor_assoc, UInt8.xor_comm, xor_left_comm]

/-- Mixing twice adds to each byte four times the sum of it and the one opposite. -/
theorem Column.mix_mix (c : Column) : c.mix.mix =
    ⟨c.b₀ ^^^ double (double (c.b₀ ^^^ c.b₂)), c.b₁ ^^^ double (double (c.b₁ ^^^ c.b₃)),
      c.b₂ ^^^ double (double (c.b₂ ^^^ c.b₀)), c.b₃ ^^^ double (double (c.b₃ ^^^ c.b₁))⟩ := by
  simp only [mix, double_xor, UInt8.xor_assoc, UInt8.xor_comm, xor_left_comm, xor_cancel_left,
    UInt8.xor_self, UInt8.zero_xor]

theorem Column.mix_mix_mix_mix (c : Column) : c.mix.mix.mix.mix = c := by
  rw [mix_mix, mix_mix]
  simp only [double_xor, UInt8.xor_comm, xor_left_comm, UInt8.xor_self, UInt8.xor_zero]

theorem Column.mix_injective : Function.Injective Column.mix := by
  intro c d same
  rw [← c.mix_mix_mix_mix, same, d.mix_mix_mix_mix]

end Mixing

theorem Column.map_injective {f : UInt8 → UInt8} (injective : Function.Injective f) :
    Function.Injective (Column.map f) := by
  rintro ⟨_, _, _, _⟩ ⟨_, _, _, _⟩ same
  simpa only [map, mk.injEq, injective.eq_iff] using same

theorem Column.xor_right_injective (key : Column) : Function.Injective (Column.xor · key) := by
  rintro ⟨_, _, _, _⟩ ⟨_, _, _, _⟩ same
  simpa only [xor, mk.injEq, UInt8.xor_left_inj] using same

namespace Block

theorem mapColumns_injective {f : Column → Column} (injective : Function.Injective f) :
    Function.Injective (mapColumns f) := by
  rintro ⟨_, _, _, _⟩ ⟨_, _, _, _⟩ same
  simpa only [mapColumns, mk.injEq, injective.eq_iff] using same

theorem xor_right_injective (key : Block) : Function.Injective (Block.xor · key) := by
  rintro ⟨_, _, _, _⟩ ⟨_, _, _, _⟩ same
  simpa only [xor, mk.injEq, (Column.xor_right_injective _).eq_iff] using same

theorem shiftRows_injective : Function.Injective shiftRows := by
  -- Four turns of a row bring it back.
  have back (b : Block) : b.shiftRows.shiftRows.shiftRows.shiftRows = b := rfl
  intro b d same
  rw [← back b, same, back d]

theorem substituteAll_injective : Function.Injective substituteAll :=
  mapColumns_injective (Column.map_injective substitute_injective)

end Block

theorem rounds_injective (keys : List Block) : Function.Injective (rounds keys) := by
  induction keys with
  | nil => exact fun _ _ same => same
  | cons key rest ih =>
    have unmixed := Block.shiftRows_injective.comp Block.substituteAll_injective
    -- The last round leaves the columns unmixed.
    cases rest with
    | nil => exact (Block.xor_right_injective key).comp unmixed
    | cons next others =>
      have mixed := (Block.mapColumns_injective Column.mix_injective).comp unmixed
      exact ih.comp ((Block.xor_right_injective key).comp mixed)

theorem encrypt_injective (keys : Schedule) : Function.Injective (encrypt keys) :=
  (rounds_injective keys.later).comp (Block.xor_right_injective keys.first)

namespace Block

theorem toBytes_injective : Function.Injective toBytes := by
  intro b d same
  rw [← ofBytes_toBytes b, same, ofBytes_toBytes]

theorem toBytes_ofBytes {data : Bytes} (size : data.length = 16) :
    (ofBytes data).toBytes = data := by
  match data, size with
  | [_, _, _, _, _, _, _, _, _, _, _, _, _, _, _, _], _ => rfl

theorem eq_of_ofBytes_eq {data other : Bytes} (size : data.length = 16)
    (otherSize : other.length = 16) (same : ofBytes data = ofBytes other) : data = other := by
  rw [← toBytes_ofBytes size, same, toBytes_ofBytes otherSize]

end Block
end KeyExport.Aes
