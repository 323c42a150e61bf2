import KeyExport.Cipher.Gcm
import Mathlib.Algebra.CharP.Two
import Mathlib.FieldTheory.Finite.Extension

set_option autoImplicit false

/-!
# The field of the tag

A field element holds the coefficients of a polynomial over the field of two elements. Wherever
x¹²⁸ = x⁷ + x² + x + 1, the value of a product is the product of the values. Squaring such an x 128
times gives x again, and 64 times something else. So there is one in a field at which no polynomial
of lower degree vanishes, and a product is zero only if a factor is.
-/

namespace KeyExport.Gcm

section Value

variable {R : Type} [CommRing R]

/-- The value at `x` of the polynomial whose coefficients are the bits, most significant first. -/
def value (x : R) (v : FieldElement) : R :=
  ∑ i ∈ Finset.range 128, if v.getMsbD i then x ^ i else 0

theorem value_zero (x : R) : value x 0#128 = 0 := by
  simp [value]

theorem value_eq_sum {v : FieldElement} (terms : Finset Nat) (below : terms ⊆ Finset.range 128)
    (bits : ∀ i < 128, v.getMsbD i = decide (i ∈ terms)) (x : R) :
    value x v = ∑ i ∈ terms, x ^ i := by
  rw [value, ← Finset.inter_eq_right.mpr below, ← Finset.sum_ite_mem]
  apply Finset.sum_congr rfl
  intro i among
  rw [bits i (Finset.mem_range.mp among)]
  simp

def one : FieldElement := 1#128 <<< 127

def unknown : FieldElement := 1#128 <<< 126

theorem value_one (x : R) : value x one = 1 := by
  rw [value_eq_sum {0} (by decide) (by decide +kernel), Finset.sum_singleton, pow_zero]

theorem value_unknown (x : R) : value x unknown = x := by
  rw [value_eq_sum {1} (by decide) (by decide +kernel), Finset.sum_singleton, pow_one]

theorem value_reduction (x : R) : value x (0xe1#128 <<< 120) = x ^ 7 + x ^ 2 + x + 1 := by
  have sum := value_eq_sum (v := 0xe1#128 <<< 120) {7, 2, 1, 0} (by decide) (by decide +kernel) x
  simpa [add_assoc] using sum

theorem value_shifted (x : R) (v : FieldElement) :
    value x (v >>> 1) + (if v.getLsbD 0 then x ^ 128 else 0) = x * value x v := by
  have last : v.getLsbD 0 = v.getMsbD 127 := by
    rw [BitVec.getLsbD_eq_getMsbD]
    rfl
  have shifted : value x (v >>> 1) =
      ∑ i ∈ Finset.range 127, if v.getMsbD i then x ^ (i + 1) else 0 := by
    rw [value, Finset.sum_range_succ' _ 127]
    simp only [BitVec.getMsbD_ushiftRight]
    simp only [Nat.zero_lt_one, decide_true, Bool.not_true, Bool.false_and, Bool.and_false,
      Bool.false_eq_true, if_false, add_zero]
    apply Finset.sum_congr rfl
    intro i among
    have below : i + 1 < 128 := Nat.succ_lt_succ (Finset.mem_range.mp among)
    simp [below]
  rw [last, shifted, value, Finset.sum_range_succ _ 127, mul_add, Finset.mul_sum]
  simp only [mul_ite, mul_zero, pow_succ']

variable [CharP R 2]

theorem value_xor (x : R) (v w : FieldElement) : value x (v ^^^ w) = value x v + value x w := by
  rw [value, value, value, ← Finset.sum_add_distrib]
  apply Finset.sum_congr rfl
  intro i _
  rw [BitVec.getMsbD_xor]
  cases v.getMsbD i <;> cases w.getMsbD i <;> simp [CharTwo.add_self_eq_zero]

/-- At `x` the polynomial vanishes by which products are reduced. -/
def Root (x : R) : Prop :=
  x ^ 128 = x ^ 7 + x ^ 2 + x + 1

variable {x : R}

theorem Root.value_timesX (root : Root x) (v : FieldElement) :
    value x (timesX v) = x * value x v := by
  rw [← value_shifted, timesX]
  split
  · rw [value_xor, value_reduction, root]
  · rw [add_zero]

/-- The steps of a product add up the shifted second factor, one bit of the first at a time. -/
theorem Root.value_foldl (root : Root x) (v w : FieldElement) (k : Nat) :
    let state := (List.range k).foldl
      (fun (sum, shifted) i => (if v.getMsbD i then sum ^^^ shifted else sum, timesX shifted))
      ((0, w) : FieldElement × FieldElement)
    value x state.1 = (∑ i ∈ Finset.range k, if v.getMsbD i then x ^ i else 0) * value x w ∧
      value x state.2 = x ^ k * value x w := by
  induction k with
  | zero => simp [value_zero]
  | succ k ih =>
    obtain ⟨sum, shifted⟩ := ih
    simp only [List.range_succ, List.foldl_append, List.foldl_cons, List.foldl_nil]
    refine ⟨?_, ?_⟩
    · rw [Finset.sum_range_succ, add_mul, ← sum]
      split
      · rw [value_xor, shifted]
      · rw [zero_mul, add_zero]
    · rw [root.value_timesX, shifted, pow_succ', mul_assoc]

theorem Root.value_multiply (root : Root x) (v w : FieldElement) :
    value x (multiply v w) = value x v * value x w :=
  (root.value_foldl v w 128).1

/-- The element raised to the power two, `n` times. -/
def squares : (n : Nat) → FieldElement → FieldElement
  | 0, v => v
  | n + 1, v => squares n (multiply v v)

theorem Root.value_squares (root : Root x) (n : Nat) (v : FieldElement) :
    value x (squares n v) = value x v ^ 2 ^ n := by
  induction n generalizing v with
  | zero => simp [squares]
  | succ n ih => rw [squares, ih, root.value_multiply, ← pow_two, ← pow_mul, pow_succ']

end Value

section Squarings

/-- What 64 squarings make of the unknown. -/
def halfway : FieldElement := 0x6f9945a9e519a7229d4c1ad657f8a686#128

/-- The inverse of the difference between this and the unknown. -/
def separation : FieldElement := 0x180da934bf53158251c13dbb149f5279#128

theorem squares_unknown : squares 64 unknown = halfway := by
  decide +kernel

theorem squares_halfway : squares 64 halfway = unknown := by
  decide +kernel

theorem multiply_separation : multiply separation (halfway ^^^ unknown) = one := by
  decide +kernel

variable {R : Type} [CommRing R] [CharP R 2] {x : R}

theorem Root.value_halfway (root : Root x) : value x halfway = x ^ 2 ^ 64 := by
  rw [← squares_unknown, root.value_squares, value_unknown]

theorem Root.pow_two_pow (root : Root x) : x ^ 2 ^ 128 = x := by
  have back := root.value_squares 64 halfway
  rw [squares_halfway, value_unknown, root.value_halfway, ← pow_mul, ← pow_add] at back
  exact back.symm

theorem Root.pow_ne [Nontrivial R] (root : Root x) : x ^ 2 ^ 64 ≠ x := by
  intro same
  -- The difference would be zero, but it has an inverse.
  have inverse := root.value_multiply separation (halfway ^^^ unknown)
  rw [multiply_separation, value_one, value_xor, root.value_halfway, value_unknown, same,
    CharTwo.add_self_eq_zero, mul_zero] at inverse
  exact one_ne_zero inverse

end Squarings

section Polynomials

open Polynomial

/-- The polynomial by which products are reduced. -/
noncomputable def modulus : (ZMod 2)[X] :=
  X ^ 128 - (X ^ 7 + X ^ 2 + X + 1)

theorem natDegree_modulus : modulus.natDegree = 128 := by
  unfold modulus
  compute_degree!

theorem root_of_dvd_modulus {f : (ZMod 2)[X]} (divides : f ∣ modulus) :
    Root (AdjoinRoot.root f) := by
  have vanishes : AdjoinRoot.mk f modulus = 0 := AdjoinRoot.mk_eq_zero.mpr divides
  unfold modulus at vanishes
  rw [map_sub, sub_eq_zero] at vanishes
  simpa only [Root, map_add, map_pow, map_one, AdjoinRoot.mk_X] using vanishes

instance charP_adjoinRoot (f : (ZMod 2)[X]) [Fact (Irreducible f)] : CharP (AdjoinRoot f) 2 :=
  charP_of_injective_algebraMap (algebraMap (ZMod 2) (AdjoinRoot f)).injective 2

/-- The degree of an irreducible polynomial divides the numbers of squarings that restore its
root. -/
theorem natDegree_dvd_iff {f : (ZMod 2)[X]} (irreducible : Irreducible f) (n : Nat) :
    f.natDegree ∣ n ↔ AdjoinRoot.root f ^ 2 ^ n = AdjoinRoot.root f := by
  rw [irreducible.natDegree_dvd_iff_dvd_X_pow_card_pow_sub_X, ← AdjoinRoot.mk_eq_zero,
    Nat.card_zmod, map_sub, map_pow, AdjoinRoot.mk_X, sub_eq_zero]

/-- The degree of any irreducible factor of the modulus divides 128 and not 64. -/
theorem exists_root : ∃ f : (ZMod 2)[X], Irreducible f ∧ f.natDegree = 128 ∧
    Root (AdjoinRoot.root f) := by
  have constant : modulus.natDegree ≠ 0 := by
    rw [natDegree_modulus]
    decide
  obtain ⟨f, irreducible, divides⟩ := exists_irreducible_of_natDegree_ne_zero constant
  have : Fact (Irreducible f) := ⟨irreducible⟩
  have root := root_of_dvd_modulus divides
  have divides_whole : f.natDegree ∣ 128 := (natDegree_dvd_iff irreducible 128).mpr root.pow_two_pow
  have not_divides_half : ¬f.natDegree ∣ 64 := fun half =>
    root.pow_ne ((natDegree_dvd_iff irreducible 64).mp half)
  -- The degree is a power of two, and any below the seventh would divide 64.
  have whole : 128 = 2 ^ 7 := by decide
  have half : 64 = 2 ^ 6 := by decide
  rw [whole] at divides_whole
  rw [half] at not_divides_half
  obtain ⟨k, bound, degree⟩ := (Nat.dvd_prime_pow Nat.prime_two).mp divides_whole
  have large : ¬k ≤ 6 := by
    intro small
    rw [degree] at not_divides_half
    exact not_divides_half (pow_dvd_pow 2 small)
  have exact : k = 7 := by omega
  exact ⟨f, irreducible, by rw [degree, exact, whole], root⟩

theorem coeff_value (v : FieldElement) {i : Nat} (below : i < 128) :
    (value (X : (ZMod 2)[X]) v).coeff i = if v.getMsbD i then 1 else 0 := by
  rw [value, finsetSum_coeff, Finset.sum_eq_single_of_mem i (Finset.mem_range.mpr below)]
  · split <;> simp
  · intro j _ other
    split
    · rw [coeff_X_pow, if_neg other.symm]
    · rw [coeff_zero]

theorem degree_value_lt (v : FieldElement) :
    (value (X : (ZMod 2)[X]) v).degree < (128 : Nat) := by
  apply (degree_lt_iff_coeff_zero _ _).mpr
  intro i large
  rw [value, finsetSum_coeff]
  apply Finset.sum_eq_zero
  intro j among
  have below := Finset.mem_range.mp among
  split
  · rw [coeff_X_pow, if_neg (by omega)]
  · rw [coeff_zero]

theorem mk_value (f : (ZMod 2)[X]) (v : FieldElement) :
    AdjoinRoot.mk f (value X v) = value (AdjoinRoot.root f) v := by
  rw [value, value, map_sum]
  apply Finset.sum_congr rfl
  intro i _
  split
  · rw [map_pow, AdjoinRoot.mk_X]
  · rw [map_zero]

/-- At a root of full degree only zero has the value zero. -/
theorem eq_zero_of_value_eq_zero {f : (ZMod 2)[X]} (degree : f.natDegree = 128)
    {v : FieldElement} (vanishes : value (AdjoinRoot.root f) v = 0) : v = 0 := by
  rw [← mk_value, AdjoinRoot.mk_eq_zero] at vanishes
  have polynomial : value (X : (ZMod 2)[X]) v = 0 := by
    apply eq_zero_of_dvd_of_degree_lt vanishes
    have nonzero : f ≠ 0 := by
      rintro rfl
      rw [natDegree_zero] at degree
      cases degree
    rw [degree_eq_natDegree nonzero, degree]
    exact degree_value_lt v
  apply BitVec.eq_of_getMsbD_eq
  intro i below
  have bit := coeff_value v below
  rw [polynomial, coeff_zero] at bit
  cases set : v.getMsbD i with
  | false => simp
  | true => simp [set] at bit

end Polynomials

/-- A nonzero factor may be cancelled. -/
theorem multiply_left_injective {h : FieldElement} (nonzero : h ≠ 0) :
    Function.Injective (multiply · h) := by
  obtain ⟨f, irreducible, degree, root⟩ := exists_root
  have : Fact (Irreducible f) := ⟨irreducible⟩
  intro v w same
  have values := congrArg (value (AdjoinRoot.root f)) same
  simp only [root.value_multiply] at values
  have cancelled := mul_right_cancel₀ (mt (eq_zero_of_value_eq_zero degree) nonzero) values
  have difference : v ^^^ w = 0 := by
    apply eq_zero_of_value_eq_zero degree
    rw [value_xor, cancelled, CharTwo.add_self_eq_zero]
  exact BitVec.xor_eq_zero_iff.mp difference

end KeyExport.Gcm
