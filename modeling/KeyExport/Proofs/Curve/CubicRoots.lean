import KeyExport.Proofs.Curve.PrimeField
import Mathlib.Tactic.LinearCombination

set_option autoImplicit false

/-!
# Roots of the cubic of a curve

At a root of the cubic x³ + a·x + b, a polynomial has the value of its remainder modulo the cubic.
Every element is a root of xᵖ - x, so that a cubic to which xᵖ - x is coprime has none.
Whether it is takes few steps on remainders, since a power is computed digit by digit.
-/

namespace KeyExport.Curve

/-- What a point's ordinate squares to. -/
def cubic (c : Curve) (x : c.Field) : c.Field :=
  (x * x + Fin.ofNat c.modulus c.a) * x + Fin.ofNat c.modulus c.b

/-- The cubic of the curve has no root. -/
def Rootless (c : Curve) : Prop :=
  ∀ x, c.cubic x ≠ 0

/-- A polynomial of degree two at most, as remainder modulo the cubic. -/
structure Remainder (c : Curve) where
  constant : c.Field
  linear : c.Field
  quadratic : c.Field
  deriving DecidableEq

namespace Remainder

variable {c : Curve}

def one : c.Remainder := ⟨1, 0, 0⟩

/-- The polynomial x. -/
def unknown : c.Remainder := ⟨0, 1, 0⟩

def sub (v w : c.Remainder) : c.Remainder :=
  ⟨v.constant - w.constant, v.linear - w.linear, v.quadratic - w.quadratic⟩

/-- In a product x³ is replaced by -a·x - b, and x⁴ by -a·x² - b·x. -/
def mul (v w : c.Remainder) : c.Remainder :=
  let a := Fin.ofNat c.modulus c.a
  let b := Fin.ofNat c.modulus c.b
  let third := v.linear * w.quadratic + v.quadratic * w.linear
  let fourth := v.quadratic * w.quadratic
  ⟨v.constant * w.constant - b * third,
    v.constant * w.linear + v.linear * w.constant - a * third - b * fourth,
    v.constant * w.quadratic + v.linear * w.linear + v.quadratic * w.constant - a * fourth⟩

/-- The remainder of xᵖ, where p is the modulus of the coordinates. -/
def powerUnknown (c : Curve) : c.Remainder :=
  Binary.power mul one unknown c.modulus

def eval (x : c.Field) (v : c.Remainder) : c.Field :=
  v.constant + v.linear * x + v.quadratic * (x * x)

open scoped Fin.CommRing

theorem eval_one (x : c.Field) : eval x one = 1 := by
  simp only [eval, one]
  ring

theorem eval_unknown (x : c.Field) : eval x unknown = x := by
  simp only [eval, unknown]
  ring

theorem eval_sub (x : c.Field) (v w : c.Remainder) : eval x (v.sub w) = eval x v - eval x w := by
  simp only [eval, sub]
  ring

variable {x : c.Field}

theorem eval_mul (root : c.cubic x = 0) (v w : c.Remainder) :
    eval x (v.mul w) = eval x v * eval x w := by
  simp only [eval, mul, cubic] at root ⊢
  linear_combination -(v.linear * w.quadratic + v.quadratic * w.linear +
    v.quadratic * w.quadratic * x) * root

theorem eval_powerUnknown (root : c.cubic x = 0) : eval x (powerUnknown c) = x ^ c.modulus := by
  rw [powerUnknown, Binary.map_power (eval x) (eval_one x) (eval_mul root), eval_unknown,
    Field.power_eq_pow]

end Remainder

/-- An inverse of xᵖ - x modulo the cubic leaves no room for a root. -/
theorem rootless_of_inverse {c : Curve} [c.Elliptic] {inverse : c.Remainder}
    (product : inverse.mul ((Remainder.powerUnknown c).sub .unknown) = .one) : c.Rootless := by
  intro x root
  have vanishes : Remainder.eval x ((Remainder.powerUnknown c).sub .unknown) = 0 := by
    rw [Remainder.eval_sub, Remainder.eval_powerUnknown root, Remainder.eval_unknown,
      Field.pow_modulus, sub_self]
  have value := congrArg (Remainder.eval x) product
  rw [Remainder.eval_mul root, vanishes, Remainder.eval_one, mul_zero] at value
  exact Field.zero_ne_one value

end KeyExport.Curve
