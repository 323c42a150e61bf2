import KeyExport.Proofs.Curve.PrimeField
import Mathlib.AlgebraicGeometry.EllipticCurve.Affine.Point
import Mathlib.Tactic.LinearCombination

set_option autoImplicit false

/-!
# The group of a curve

The points of a curve, with `Point.add`, are the image of the group of nonsingular points of the
general equation with the same coefficients (`ofGroup_add`), and exactly the points on the curve
are in it (`exists_ofGroup_eq_iff`). So `Point.multiple` is the multiple of that group.
-/

namespace KeyExport

section Short

variable {K : Type} [Field K] [DecidableEq K] {W : WeierstrassCurve.Affine K}

/-- A curve in the form y² = x³ + a₄·x + a₆. -/
structure Short (W : WeierstrassCurve.Affine K) : Prop where
  a₁ : W.a₁ = 0
  a₂ : W.a₂ = 0
  a₃ : W.a₃ = 0

omit [DecidableEq K] in
theorem Short.negY_eq (short : Short W) (x y : K) : W.negY x y = -y := by
  rw [WeierstrassCurve.Affine.negY, short.a₁, short.a₃]
  ring

theorem Short.slope_eq (short : Short W) {x₁ x₂ y₁ y₂ : K} (generic : ¬(x₁ = x₂ ∧ y₁ = -y₂)) :
    W.slope x₁ x₂ y₁ y₂ =
      if x₁ = x₂ then (x₁ * x₁ + x₁ * x₁ + x₁ * x₁ + W.a₄) * (y₁ + y₁)⁻¹
      else (y₁ - y₂) * (x₁ - x₂)⁻¹ := by
  by_cases same : x₁ = x₂
  · have distinct : y₁ ≠ W.negY x₂ y₂ := by
      rw [short.negY_eq]
      exact fun equal => generic ⟨same, equal⟩
    rw [if_pos same, WeierstrassCurve.Affine.slope_of_Y_ne same distinct, short.negY_eq, short.a₁,
      short.a₂, div_eq_mul_inv, sub_neg_eq_add]
    ring
  · rw [if_neg same, WeierstrassCurve.Affine.slope_of_X_ne same, div_eq_mul_inv]

omit [DecidableEq K] in
theorem Short.addX_eq (short : Short W) (x₁ x₂ m : K) : W.addX x₁ x₂ m = m * m - x₁ - x₂ := by
  rw [WeierstrassCurve.Affine.addX, short.a₁, short.a₂]
  ring

omit [DecidableEq K] in
theorem Short.addY_eq (short : Short W) (x₁ x₂ y₁ m : K) :
    W.addY x₁ x₂ y₁ m = m * (x₁ - (m * m - x₁ - x₂)) - y₁ := by
  rw [WeierstrassCurve.Affine.addY, short.negY_eq, WeierstrassCurve.Affine.negAddY, short.addX_eq]
  ring

omit [DecidableEq K] in
theorem Short.equation_iff (short : Short W) (x y : K) :
    W.Equation x y ↔ y * y = (x * x + W.a₄) * x + W.a₆ := by
  rw [WeierstrassCurve.Affine.equation_iff, short.a₁, short.a₂, short.a₃]
  constructor
  · intro h
    linear_combination h
  · intro h
    linear_combination h

omit [DecidableEq K] in
theorem Short.Δ_eq (short : Short W) : W.Δ = -2 ^ 4 * (4 * W.a₄ ^ 3 + 27 * W.a₆ ^ 2) := by
  rw [WeierstrassCurve.Δ, WeierstrassCurve.b₂, WeierstrassCurve.b₄, WeierstrassCurve.b₆,
    WeierstrassCurve.b₈, short.a₁, short.a₂, short.a₃]
  ring

end Short

open scoped Fin.CommRing

namespace Curve

/-- The same curve with its coefficients in the field of coordinates. -/
def weierstrass (c : Curve) : WeierstrassCurve.Affine c.Field where
  a₁ := 0
  a₂ := 0
  a₃ := 0
  a₄ := Fin.ofNat c.modulus c.a
  a₆ := Fin.ofNat c.modulus c.b

variable {c : Curve}

namespace Point

/-- The point that an element of the group stands for. -/
def ofGroup : c.weierstrass.Point → c.Point
  | .zero => .infinity
  | .some x y _ => .affine x y

@[simp] theorem ofGroup_zero : ofGroup (0 : c.weierstrass.Point) = .infinity := rfl

theorem ofGroup_injective : Function.Injective (ofGroup (c := c)) := by
  intro P Q equal
  cases P <;> cases Q <;> simp_all [ofGroup]

theorem add_affine (x₁ y₁ x₂ y₂ : c.Field) : (affine x₁ y₁ : c.Point) + affine x₂ y₂ =
    if x₁ = x₂ ∧ y₁ = -y₂ then .infinity
    else affine (slope x₁ y₁ x₂ y₂ * slope x₁ y₁ x₂ y₂ - x₁ - x₂)
      (slope x₁ y₁ x₂ y₂ *
        (x₁ - (slope x₁ y₁ x₂ y₂ * slope x₁ y₁ x₂ y₂ - x₁ - x₂)) - y₁) := rfl

end Point

variable [c.Elliptic]

theorem short_weierstrass : Short c.weierstrass := ⟨rfl, rfl, rfl⟩

theorem natCast_ne_zero {n : Nat} (h : n % c.modulus ≠ 0) : (n : c.Field) ≠ 0 := by
  intro equal
  exact h (congrArg Fin.val equal)

theorem Field.two_ne_zero : (2 : c.Field) ≠ 0 := by
  have two_lt : 2 < c.modulus := Elliptic.two_lt
  exact natCast_ne_zero (n := 2) (by rw [Nat.mod_eq_of_lt two_lt]; omega)

theorem Δ_ne_zero : c.weierstrass.Δ ≠ 0 := by
  have coefficients : (4 * c.weierstrass.a₄ ^ 3 + 27 * c.weierstrass.a₆ ^ 2 : c.Field) ≠ 0 := by
    have h := natCast_ne_zero (c := c) Elliptic.discriminant
    push_cast at h
    exact h
  rw [short_weierstrass.Δ_eq]
  exact mul_ne_zero (neg_ne_zero.mpr (pow_ne_zero 4 Field.two_ne_zero)) coefficients

theorem nonsingular_iff (x y : c.Field) :
    c.weierstrass.Nonsingular x y ↔ (Point.affine x y).OnCurve :=
  (WeierstrassCurve.Affine.equation_iff_nonsingular_of_Δ_ne_zero Δ_ne_zero).symm.trans
    (short_weierstrass.equation_iff x y)

namespace Point

theorem ofGroup_add (P Q : c.weierstrass.Point) : ofGroup (P + Q) = ofGroup P + ofGroup Q := by
  cases P with
  | zero => rfl
  | some x₁ y₁ h₁ =>
    cases Q with
    | zero => rfl
    | some x₂ y₂ h₂ =>
      change _ = affine x₁ y₁ + affine x₂ y₂
      rw [add_affine]
      by_cases opposite : x₁ = x₂ ∧ y₁ = -y₂
      · rw [if_pos opposite, WeierstrassCurve.Affine.Point.add_of_Y_eq opposite.1
          (by rw [short_weierstrass.negY_eq]; exact opposite.2)]
        rfl
      · have generic : ¬(x₁ = x₂ ∧ y₁ = c.weierstrass.negY x₂ y₂) := by
          rw [short_weierstrass.negY_eq]
          exact opposite
        have slopes : c.weierstrass.slope x₁ x₂ y₁ y₂ = slope x₁ y₁ x₂ y₂ :=
          short_weierstrass.slope_eq opposite
        rw [if_neg opposite, WeierstrassCurve.Affine.Point.add_some generic, ofGroup, slopes,
          short_weierstrass.addX_eq, short_weierstrass.addY_eq]

theorem exists_ofGroup_eq_iff (p : c.Point) : (∃ P, ofGroup P = p) ↔ p.OnCurve := by
  constructor
  · rintro ⟨P, rfl⟩
    cases P with
    | zero => exact trivial
    | some x y h => exact (nonsingular_iff x y).mp h
  · intro h
    cases p with
    | infinity => exact ⟨0, rfl⟩
    | affine x y => exact ⟨.some x y ((nonsingular_iff x y).mpr h), rfl⟩

theorem exists_ofGroup_eq_affine {P : c.weierstrass.Point} (nonzero : P ≠ 0) :
    ∃ x y, ofGroup P = affine x y ∧ (affine x y).OnCurve := by
  cases P with
  | zero => exact absurd rfl nonzero
  | some x y nonsingular => exact ⟨x, y, rfl, (nonsingular_iff x y).mp nonsingular⟩

theorem multiple_ofGroup (n : Nat) (P : c.weierstrass.Point) :
    multiple n (ofGroup P) = ofGroup (n • P) :=
  Binary.power_map ofGroup_zero ofGroup_add P n

theorem ofGroup_neg (P : c.weierstrass.Point) : ofGroup (-P) = -ofGroup P := by
  cases P with
  | zero => rfl
  | some x y h =>
    rw [WeierstrassCurve.Affine.Point.neg_some, ofGroup, short_weierstrass.negY_eq]
    rfl

theorem OnCurve.add {p q : c.Point} (first : p.OnCurve) (second : q.OnCurve) :
    (p + q).OnCurve := by
  obtain ⟨P, rfl⟩ := (exists_ofGroup_eq_iff p).mpr first
  obtain ⟨Q, rfl⟩ := (exists_ofGroup_eq_iff q).mpr second
  exact (exists_ofGroup_eq_iff _).mp ⟨P + Q, ofGroup_add P Q⟩

theorem OnCurve.neg {p : c.Point} (onCurve : p.OnCurve) : (-p).OnCurve := by
  obtain ⟨P, rfl⟩ := (exists_ofGroup_eq_iff p).mpr onCurve
  exact (exists_ofGroup_eq_iff _).mp ⟨-P, ofGroup_neg P⟩

/-- Points of one abscissa are equal or opposite. -/
theorem OnCurve.eq_or_eq_neg {x y₁ y₂ : c.Field} (first : (affine x y₁).OnCurve)
    (second : (affine x y₂).OnCurve) : y₁ = y₂ ∨ y₁ = -y₂ :=
  mul_self_eq_mul_self_iff.mp (first.trans second.symm)

/-- Opposite points have opposite multiples. -/
theorem multiple_neg (n : Nat) {p : c.Point} (onCurve : p.OnCurve) :
    multiple n (-p) = -multiple n p := by
  obtain ⟨P, rfl⟩ := (exists_ofGroup_eq_iff p).mpr onCurve
  rw [← ofGroup_neg, multiple_ofGroup, multiple_ofGroup, ← ofGroup_neg, neg_nsmul]

end Point
end Curve
end KeyExport
