import KeyExport.Curve.Basic
import KeyExport.Proofs.Binary
import Mathlib.FieldTheory.Finite.Basic

set_option autoImplicit false

/-!
# The field of coordinates

Over an odd prime modulus the coordinates of a curve form a field. Its inverse is the power that
`Curve.Field.inverse` computes.
-/

namespace KeyExport

open scoped Fin.CommRing

/-- What makes the chord and tangent law of a curve a group law: coordinates form a field in which
two is not zero, and the curve has a tangent everywhere. -/
class Curve.Elliptic (c : Curve) : Prop where
  prime : c.modulus.Prime
  two_lt : 2 < c.modulus
  discriminant : (4 * c.a ^ 3 + 27 * c.b ^ 2) % c.modulus ≠ 0

variable {c : Curve}

theorem Curve.Field.power_eq_pow (v : c.Field) (n : Nat) : Binary.power (· * ·) 1 v n = v ^ n :=
  Binary.power_map (M := Additive c.Field) (f := Additive.toMul) rfl (fun _ _ => rfl)
    (Additive.ofMul v) n

theorem Curve.Field.inverse_eq_pow (v : c.Field) : v.inverse = v ^ (c.modulus - 2) :=
  power_eq_pow v (c.modulus - 2)

variable [c.Elliptic]

theorem Curve.Field.mul_inverse {v : c.Field} (nonzero : v ≠ 0) : v * v.inverse = 1 := by
  have : Fact c.modulus.Prime := ⟨Elliptic.prime⟩
  have two_lt : 2 < c.modulus := Elliptic.two_lt
  have moved : ZMod.finEquiv c.modulus v ≠ 0 := by
    simpa using nonzero
  apply (ZMod.finEquiv c.modulus).injective
  rw [inverse_eq_pow, ← pow_succ', show c.modulus - 2 + 1 = c.modulus - 1 by omega, map_pow,
    map_one]
  exact ZMod.pow_card_sub_one_eq_one moved

theorem Curve.Field.inverse_zero : (0 : c.Field).inverse = 0 := by
  have two_lt : 2 < c.modulus := Elliptic.two_lt
  rw [inverse_eq_pow, zero_pow (by omega)]

theorem Curve.Field.zero_ne_one : (0 : c.Field) ≠ 1 := by
  have two_lt : 2 < c.modulus := Elliptic.two_lt
  intro equal
  have values := congrArg Fin.val equal
  rw [Fin.val_zero, Fin.val_one', Nat.mod_eq_of_lt (by omega)] at values
  omega

/-- Division is what the slope of a line uses: a product with the computed inverse. -/
instance coordinateField : Field c.Field where
  inv := Curve.Field.inverse
  div v w := v * w.inverse
  div_eq_mul_inv _ _ := rfl
  exists_pair_ne := ⟨0, 1, Curve.Field.zero_ne_one⟩
  mul_inv_cancel _ nonzero := Curve.Field.mul_inverse nonzero
  inv_zero := Curve.Field.inverse_zero
  nnqsmul := _
  nnqsmul_def _ _ := rfl
  qsmul := _
  qsmul_def _ _ := rfl

/-- Every element is its own power with the modulus for exponent. -/
theorem Curve.Field.pow_modulus (v : c.Field) : v ^ c.modulus = v := by
  have restored := FiniteField.pow_card v
  rwa [Fintype.card_fin] at restored

end KeyExport
