import KeyExport.Proofs.Curve.CubicRoots
import KeyExport.Proofs.Curve.P256
import Mathlib.GroupTheory.Perm.Cycle.Type
import Mathlib.SetTheory.Cardinal.Finite

set_option autoImplicit false

/-!
# The group of P-256 has prime order

Each abscissa belongs to two points at most, so that there are fewer than three times as many
points as the order of the generator. Its order divides their number, and none of them has order
two, as the cubic of P-256 has no root. So the generator's order is the number of all points, the
cofactor being one, and a scalar never leads from a point of the curve to infinity.
-/

namespace KeyExport.Curve

open scoped Fin.CommRing

variable {c : Curve} [c.Elliptic]

namespace Point

theorem eq_zero_of_eq_neg {y : c.Field} (same : y = -y) : y = 0 := by
  have double : 2 * y = 0 := by linear_combination same
  exact (mul_eq_zero.mp double).resolve_left Field.two_ne_zero

/-- A point by its abscissa, and by whether its ordinate is the smaller one of the two. -/
def code : c.weierstrass.Point → Option (c.Field × Bool)
  | .zero => none
  | .some x y _ => some (x, decide (y.val < (-y).val))

/-- An ordinate that is its own negative would be zero. -/
theorem ne_neg_of_onCurve (rootless : Rootless c) {x y : c.Field}
    (onCurve : (affine x y).OnCurve) : y ≠ -y := by
  intro same
  apply rootless x
  have square : y * y = c.cubic x := onCurve
  rw [← square, eq_zero_of_eq_neg same, mul_zero]

theorem code_injective (rootless : Rootless c) : Function.Injective (code (c := c)) := by
  intro P Q same
  cases P with
  | zero =>
    cases Q with
    | zero => rfl
    | some x y h => cases same
  | some x y h =>
    cases Q with
    | zero => cases same
    | some u v k =>
      obtain ⟨rfl, side⟩ := Prod.mk.inj (Option.some.inj same)
      have onCurve : (affine x y).OnCurve := (nonsingular_iff x y).mp h
      rcases onCurve.eq_or_eq_neg ((nonsingular_iff x v).mp k) with rfl | rfl
      · rfl
      · -- Opposite ordinates are never on the same side.
        have distinct := ne_neg_of_onCurve rootless onCurve
        rw [neg_neg] at side distinct
        have values : (-v).val ≠ v.val := fun equal => distinct (Fin.ext equal)
        rw [decide_eq_decide] at side
        omega

theorem natCard_le (rootless : Rootless c) :
    Nat.card c.weierstrass.Point ≤ 2 * c.modulus + 1 := by
  have size : Nat.card (Option (c.Field × Bool)) = 2 * c.modulus + 1 := by
    rw [Nat.card_eq_fintype_card, Fintype.card_option, Fintype.card_prod, Fintype.card_fin,
      Fintype.card_bool, Nat.mul_comm]
  rw [← size]
  exact Nat.card_le_card_of_injective code (code_injective rootless)

theorem finite_group (rootless : Rootless c) : Finite c.weierstrass.Point :=
  Finite.of_injective code (code_injective rootless)

theorem addOrderOf_ne_two (rootless : Rootless c) (P : c.weierstrass.Point) :
    addOrderOf P ≠ 2 := by
  intro order
  have double : P + P = 0 := by
    rw [← two_nsmul, ← order, addOrderOf_nsmul_eq_zero]
  cases P with
  | zero =>
    change addOrderOf (0 : c.weierstrass.Point) = 2 at order
    rw [addOrderOf_zero] at order
    cases order
  | some x y h =>
    have opposite := eq_neg_of_add_eq_zero_left double
    rw [WeierstrassCurve.Affine.Point.neg_some] at opposite
    have same : y = -y := by
      rw [← short_weierstrass.negY_eq x y]
      exact (WeierstrassCurve.Affine.Point.some.inj opposite).2
    exact ne_neg_of_onCurve rootless ((nonsingular_iff x y).mp h) same

end Point

/-- The inverse of xᵖ - x modulo the cubic of P-256. -/
def p256Inverse : Remainder p256 where
  constant := 0xa969487079f1744798bf0de6fded091b66e9d328eb0645fe5d979d1339b7f47f
  linear := 0xa4a08891884100c13323460107a8d28eede4387fa3e6e9bfebec9f6d72d0b5cc
  quadratic := 0x4cde11cf86cb876cd59cf0115813c55af0ecd3cda667d98bb9a347a56aa74a6d

theorem mul_p256Inverse :
    p256Inverse.mul ((Remainder.powerUnknown p256).sub .unknown) = .one := by
  decide +kernel

theorem rootless_p256 : Rootless p256 :=
  rootless_of_inverse mul_p256Inverse

theorem natCard_p256 : Nat.card p256.weierstrass.Point = p256.cofactor * p256.order := by
  have : Finite p256.weierstrass.Point := Point.finite_group rootless_p256
  have positive : 0 < Nat.card p256.weierstrass.Point := Nat.card_pos
  have bound : Nat.card p256.weierstrass.Point < 3 * p256.order :=
    (Point.natCard_le rootless_p256).trans_lt (by decide)
  have divides := addOrderOf_dvd_natCard base
  rw [addOrderOf_base] at divides
  obtain ⟨times, card⟩ := divides
  have few : times < 3 := by
    rw [card, Nat.mul_comm] at bound
    exact Nat.lt_of_mul_lt_mul_right bound
  have positiveTimes : times ≠ 0 := by
    rintro rfl
    omega
  -- With twice as many points as the order there would be a point of order two.
  have odd : times ≠ 2 := by
    rintro rfl
    have two : Fact (Nat.Prime 2) := ⟨Nat.prime_two⟩
    have even : 2 ∣ Nat.card p256.weierstrass.Point := ⟨p256.order, by rw [card, Nat.mul_comm]⟩
    obtain ⟨P, order⟩ := exists_prime_addOrderOf_dvd_card' 2 even
    exact Point.addOrderOf_ne_two rootless_p256 P order
  have single : times = 1 := by omega
  have cofactor : p256.cofactor = 1 := rfl
  rw [card, single, cofactor, Nat.mul_comm]

theorem addOrderOf_p256 {P : p256.weierstrass.Point} (nonzero : P ≠ 0) :
    addOrderOf P = p256.order := by
  have divides := addOrderOf_dvd_natCard P
  have cofactor : p256.cofactor = 1 := rfl
  rw [natCard_p256, cofactor, Nat.one_mul, Nat.dvd_prime prime_order] at divides
  rcases divides with trivial | whole
  · exact absurd (AddMonoid.addOrderOf_eq_one_iff.mp trivial) nonzero
  · exact whole

/-- A scalar leads from any point of the curve to another one, never to infinity. -/
theorem Scalar.exists_multiple_affine_eq (e : p256.Scalar) {x y : p256.Field}
    (onCurve : (Point.affine x y).OnCurve) :
    ∃ u v, Point.multiple e.value (.affine x y) = .affine u v ∧ (Point.affine u v).OnCurve := by
  obtain ⟨P, point⟩ := (Point.exists_ofGroup_eq_iff _).mpr onCurve
  have nonzero : P ≠ 0 := by
    rintro rfl
    cases point
  rw [← point, Point.multiple_ofGroup]
  apply Point.exists_ofGroup_eq_affine
  intro zero
  have divides := addOrderOf_dvd_iff_nsmul_eq_zero.mpr zero
  rw [addOrderOf_p256 nonzero] at divides
  exact e.not_order_dvd divides

end KeyExport.Curve
