import KeyExport.Proofs.Curve.GroupLaw

set_option autoImplicit false

/-!
# Points without division

Weighted coordinates keep the denominator of a point's coordinates apart, so that the chord and
tangent law takes products alone. Multiples of a point on the curve can be computed with them
(`Represents.power`), which takes few enough steps to be evaluated.
-/

namespace KeyExport.Curve

/-- The point (x/z², y/z³), or the point at infinity where z is zero. -/
structure Weighted (c : Curve) where
  x : c.Field
  y : c.Field
  z : c.Field

namespace Weighted

variable {c : Curve}

def infinity : c.Weighted := ⟨1, 1, 0⟩

def ofAffine (x y : c.Field) : c.Weighted := ⟨x, y, 1⟩

def double (v : c.Weighted) : c.Weighted :=
  let ySquare := v.y * v.y
  let zSquare := v.z * v.z
  let half := v.x * ySquare + v.x * ySquare
  let middle := half + half
  let fourth := ySquare * ySquare + ySquare * ySquare
  let rise := v.x * v.x + v.x * v.x + v.x * v.x + Fin.ofNat c.modulus c.a * (zSquare * zSquare)
  let x := rise * rise - middle - middle
  ⟨x, rise * (middle - x) - fourth - fourth - fourth - fourth, (v.y + v.y) * v.z⟩

/-- The chord of two points over a common denominator. -/
def chord (v w : c.Weighted) : c.Weighted :=
  let start := v.x * (w.z * w.z)
  let height := v.y * (w.z * w.z * w.z)
  let run := w.x * (v.z * v.z) - start
  let rise := w.y * (v.z * v.z * v.z) - height
  let square := run * run
  let x := rise * rise - square * run - start * square - start * square
  ⟨x, rise * (start * square - x) - height * (square * run), run * (v.z * w.z)⟩

def add (v w : c.Weighted) : c.Weighted :=
  if v.z = 0 then w
  else if w.z = 0 then v
  else if v.x * (w.z * w.z) = w.x * (v.z * v.z) then
    if v.y * (w.z * w.z * w.z) = w.y * (v.z * v.z * v.z) then v.double else infinity
  else v.chord w

inductive Represents (v : c.Weighted) : c.Point → Prop
  | infinity (zero : v.z = 0) : Represents v .infinity
  | affine {x y : c.Field} (finite : v.z ≠ 0) (abscissa : v.x = x * (v.z * v.z))
      (ordinate : v.y = y * (v.z * v.z * v.z)) : Represents v (.affine x y)

theorem represents_infinity : (infinity : c.Weighted).Represents .infinity :=
  .infinity rfl

open scoped Fin.CommRing

variable {v w : c.Weighted} {p q : c.Point} {x y x₁ y₁ x₂ y₂ : c.Field}

theorem Represents.zero (represents : v.Represents .infinity) : v.z = 0 := by
  cases represents
  assumption

theorem Represents.finite (represents : v.Represents (.affine x y)) : v.z ≠ 0 := by
  cases represents
  assumption

theorem Represents.eq_infinity (represents : v.Represents p) (zero : v.z = 0) : p = .infinity := by
  cases p with
  | infinity => rfl
  | affine x y => exact absurd zero represents.finite

theorem Represents.double_z (represents : v.Represents (.affine x y)) :
    v.double.z = (y + y) * (v.z * v.z * v.z) * v.z := by
  obtain _ | ⟨-, -, ordinate⟩ := represents
  rw [add_mul, ← ordinate]
  rfl

variable [c.Elliptic]

theorem represents_ofAffine (x y : c.Field) : (ofAffine x y).Represents (.affine x y) :=
  .affine one_ne_zero (by simp [ofAffine]) (by simp [ofAffine])

/-- The tangent's slope gives the coefficient of the curve, the rest is the law written out. -/
theorem Represents.tangent (represents : v.Represents (.affine x y)) (nonzero : y + y ≠ 0) :
    v.double.Represents (Point.affine x y + .affine x y) := by
  have depth := represents.double_z
  obtain _ | ⟨finite, abscissa, ordinate⟩ := represents
  have generic : ¬(x = x ∧ y = -y) := fun h => nonzero (eq_neg_iff_add_eq_zero.mp h.2)
  have tangent : Fin.ofNat c.modulus c.a =
      Point.slope x y x y * (y + y) - (x * x + x * x + x * x) := by
    rw [Point.slope, if_pos rfl, mul_assoc, mul_comm _ (y + y), Field.mul_inverse nonzero, mul_one,
      add_sub_cancel_left]
  rw [Point.add_affine, if_neg generic]
  generalize Point.slope x y x y = m at tangent ⊢
  constructor
  case finite =>
    rw [depth]
    exact mul_ne_zero (mul_ne_zero nonzero (mul_ne_zero (mul_ne_zero finite finite) finite)) finite
  all_goals simp only [Weighted.double, abscissa, ordinate, tangent]
  case abscissa => ring
  case ordinate => ring

/-- The chord's slope gives the second ordinate, the rest is the law written out. -/
theorem Represents.chord (first : v.Represents (.affine x₁ y₁))
    (second : w.Represents (.affine x₂ y₂)) (distinct : x₁ ≠ x₂) :
    (v.chord w).Represents (Point.affine x₁ y₁ + .affine x₂ y₂) := by
  obtain _ | ⟨finite₁, abscissa₁, ordinate₁⟩ := first
  obtain _ | ⟨finite₂, abscissa₂, ordinate₂⟩ := second
  have line : y₂ = y₁ - Point.slope x₁ y₁ x₂ y₂ * (x₁ - x₂) := by
    rw [Point.slope, if_neg distinct, mul_assoc, mul_comm _ (x₁ - x₂),
      Field.mul_inverse (sub_ne_zero.mpr distinct), mul_one, sub_sub_cancel]
  rw [Point.add_affine, if_neg fun h => distinct h.1]
  generalize Point.slope x₁ y₁ x₂ y₂ = m at line ⊢
  constructor <;> simp only [Weighted.chord, abscissa₁, ordinate₁, abscissa₂, ordinate₂, line]
  case finite =>
    rw [mul_right_comm x₂, mul_assoc, mul_assoc x₁, ← sub_mul]
    exact mul_ne_zero (mul_ne_zero (sub_ne_zero.mpr distinct.symm)
      (mul_ne_zero (mul_self_ne_zero.mpr finite₁) (mul_self_ne_zero.mpr finite₂)))
      (mul_ne_zero finite₁ finite₂)
  case abscissa => ring
  case ordinate => ring

theorem Represents.abscissa_eq_iff (first : v.Represents (.affine x₁ y₁))
    (second : w.Represents (.affine x₂ y₂)) :
    v.x * (w.z * w.z) = w.x * (v.z * v.z) ↔ x₁ = x₂ := by
  obtain _ | ⟨finite₁, abscissa₁, -⟩ := first
  obtain _ | ⟨finite₂, abscissa₂, -⟩ := second
  rw [abscissa₁, abscissa₂, mul_right_comm x₂, mul_left_inj' (mul_self_ne_zero.mpr finite₂),
    mul_left_inj' (mul_self_ne_zero.mpr finite₁)]

theorem Represents.ordinate_eq_iff (first : v.Represents (.affine x₁ y₁))
    (second : w.Represents (.affine x₂ y₂)) :
    v.y * (w.z * w.z * w.z) = w.y * (v.z * v.z * v.z) ↔ y₁ = y₂ := by
  obtain _ | ⟨finite₁, -, ordinate₁⟩ := first
  obtain _ | ⟨finite₂, -, ordinate₂⟩ := second
  rw [ordinate₁, ordinate₂, mul_right_comm y₂,
    mul_left_inj' (mul_ne_zero (mul_self_ne_zero.mpr finite₂) finite₂),
    mul_left_inj' (mul_ne_zero (mul_self_ne_zero.mpr finite₁) finite₁)]

theorem Represents.double (represents : v.Represents (.affine x y)) :
    v.double.Represents (Point.affine x y + .affine x y) := by
  by_cases vertical : y + y = 0
  · have opposite : y = -y := eq_neg_of_add_eq_zero_left vertical
    rw [Point.add_affine, if_pos ⟨rfl, opposite⟩]
    constructor
    rw [represents.double_z, vertical, zero_mul, zero_mul]
  · exact represents.tangent vertical

theorem Represents.add (first : v.Represents p) (second : w.Represents q) (onCurve₁ : p.OnCurve)
    (onCurve₂ : q.OnCurve) : (v.add w).Represents (p + q) := by
  unfold Weighted.add
  cases p with
  | infinity => rwa [if_pos first.zero]
  | affine x₁ y₁ =>
    rw [if_neg first.finite]
    cases q with
    | infinity => rwa [if_pos second.zero]
    | affine x₂ y₂ =>
      rw [if_neg second.finite]
      simp only [first.abscissa_eq_iff second, first.ordinate_eq_iff second]
      split <;> rename_i abscissa
      · subst abscissa
        split <;> rename_i ordinate
        · subst ordinate
          exact first.double
        · have opposite := (onCurve₁.eq_or_eq_neg onCurve₂).resolve_left ordinate
          rw [Point.add_affine, if_pos ⟨rfl, opposite⟩]
          exact represents_infinity
      · exact first.chord second abscissa

/-- Multiples of a point on the curve, computed in weighted coordinates. -/
theorem Represents.power (represents : v.Represents p) (onCurve : p.OnCurve) (n : Nat) :
    (Binary.power Weighted.add Weighted.infinity v n).Represents (Point.multiple n p) := by
  have both : (Binary.power Weighted.add Weighted.infinity v n).Represents (Point.multiple n p) ∧
      (Point.multiple n p).OnCurve := by
    apply Binary.power_rel (R := fun (v : c.Weighted) p => v.Represents p ∧ p.OnCurve)
      ⟨represents_infinity, trivial⟩ _ ⟨represents, onCurve⟩
    rintro v w p q ⟨first, onCurve₁⟩ ⟨second, onCurve₂⟩
    exact ⟨first.add second onCurve₁ onCurve₂, onCurve₁.add onCurve₂⟩
  exact both.1

end Weighted
end KeyExport.Curve
