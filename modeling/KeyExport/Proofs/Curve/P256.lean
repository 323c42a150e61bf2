import KeyExport.Curve.Scalar
import KeyExport.Proofs.Curve.GroupLaw
import KeyExport.Proofs.Curve.PrimeChain
import KeyExport.Proofs.Curve.Weighted
import Mathlib.GroupTheory.OrderOfElement
import Mathlib.Tactic.NormNum.Prime

set_option autoImplicit false

/-!
# The curve of key agreement

P-256 has a prime modulus, and its generator has the prime order that the curve names. So a
scalar never leads to the point at infinity, nor does the product of two scalars, and two
scalars may be applied in either order.
-/

namespace KeyExport.Curve

def smallPrimes : List Nat := [
  2, 3, 5, 7, 11, 13, 17, 19, 23, 29, 31, 37, 41, 43, 53, 71, 97, 107, 127, 131, 151, 157, 173,
  181, 197, 229, 241, 257, 263, 311, 313, 337, 373, 641, 661, 727, 757, 919, 1087, 1201, 1297,
  1511, 1531, 2411, 3023, 3407, 3677, 3769, 4349, 9547, 16879, 17449, 18169, 38189, 65537]

def largePrimes : List PrimeStep := [
  ⟨78283, 3, [2, 3, 3, 4349]⟩,
  ⟨104471, 11, [2, 5, 31, 337]⟩,
  ⟨126241, 7, [2, 2, 2, 2, 2, 3, 5, 263]⟩,
  ⟨155317, 5, [2, 2, 3, 7, 43, 43]⟩,
  ⟨490463, 14, [2, 7, 53, 661]⟩,
  ⟨704251, 2, [2, 3, 3, 5, 5, 5, 313]⟩,
  ⟨3969899, 2, [2, 19, 104471]⟩,
  ⟨6700417, 5, [2, 2, 2, 2, 2, 2, 2, 3, 17449]⟩,
  ⟨9350987, 2, [2, 17, 229, 1201]⟩,
  ⟨187019741, 2, [2, 2, 5, 9350987]⟩,
  ⟨191039911, 3, [2, 3, 5, 41, 155317]⟩,
  ⟨204061199, 11, [2, 11, 23, 107, 3769]⟩,
  ⟨311245691, 2, [2, 5, 7, 17, 29, 29, 311]⟩,
  ⟨622491383, 5, [2, 311245691]⟩,
  ⟨34282281433, 17, [2, 2, 2, 3, 7, 204061199]⟩,
  ⟨66417393611, 6, [2, 5, 53, 173, 197, 3677]⟩,
  ⟨1002328039319, 19, [2, 126241, 3969899]⟩,
  ⟨11290956913871, 13, [2, 5, 17, 66417393611]⟩,
  ⟨46076956964474543, 5, [2, 23, 18169, 78283, 704251]⟩,
  ⟨208150935158385979, 2, [2, 3, 11, 43, 127, 3023, 191039911]⟩,
  ⟨2624747550333869278416773953, 7, [2, 2, 2, 2, 2, 2, 3, 3, 1297, 16879, 208150935158385979]⟩,
  ⟨774023187263532362759620327192479577272145303, 3, [
    2, 3, 3, 2411, 34282281433, 11290956913871, 46076956964474543]⟩,
  ⟨835945042244614951780389953367877943453916927241, 11, [
    2, 2, 2, 3, 3, 3, 5, 774023187263532362759620327192479577272145303]⟩,
  ⟨p256.order, 7, [
    2, 2, 2, 2, 3, 71, 131, 373, 3407, 17449, 38189, 187019741, 622491383, 1002328039319,
    2624747550333869278416773953]⟩,
  ⟨p256.modulus, 6, [
    2, 3, 5, 5, 17, 257, 641, 1531, 65537, 490463, 6700417,
    835945042244614951780389953367877943453916927241]⟩]

theorem prime_smallPrimes : ∀ q ∈ smallPrimes, q.Prime := by
  norm_num [smallPrimes]

theorem primeChain_largePrimes : PrimeChain smallPrimes largePrimes := by
  decide +kernel

theorem prime_order : p256.order.Prime :=
  primeChain_largePrimes.prime prime_smallPrimes p256.order (by simp [largePrimes])

theorem prime_modulus : p256.modulus.Prime :=
  primeChain_largePrimes.prime prime_smallPrimes p256.modulus (by simp [largePrimes])

instance elliptic_p256 : p256.Elliptic where
  prime := prime_modulus
  two_lt := by decide
  discriminant := by decide +kernel

theorem onCurve_generator : p256.generator.OnCurve := by
  decide +kernel

/-- The generator as an element of the group. -/
def base : p256.weierstrass.Point :=
  .some _ _ ((nonsingular_iff _ _).mpr onCurve_generator)

theorem ofGroup_base : Point.ofGroup base = p256.generator := rfl

/-- The generator in weighted coordinates. -/
def weightedBase : p256.Weighted :=
  .ofAffine (Fin.ofNat _ p256.generatorX) (Fin.ofNat _ p256.generatorY)

theorem represents_weightedBase : weightedBase.Represents p256.generator :=
  Weighted.represents_ofAffine _ _

theorem power_order_weightedBase :
    (Binary.power Weighted.add .infinity weightedBase p256.order).z = 0 := by
  decide +kernel

theorem multiple_order_generator : Point.multiple p256.order p256.generator = .infinity :=
  (represents_weightedBase.power onCurve_generator p256.order).eq_infinity power_order_weightedBase

theorem order_nsmul_base : p256.order • base = 0 := by
  apply Point.ofGroup_injective
  rw [← Point.multiple_ofGroup, ofGroup_base, multiple_order_generator, Point.ofGroup_zero]

theorem addOrderOf_base : addOrderOf base = p256.order := by
  have : Fact p256.order.Prime := ⟨prime_order⟩
  exact addOrderOf_eq_prime order_nsmul_base (WeierstrassCurve.Affine.Point.some_ne_zero _)

theorem nsmul_base_eq_zero_iff (n : Nat) : n • base = 0 ↔ p256.order ∣ n := by
  rw [← addOrderOf_base, addOrderOf_dvd_iff_nsmul_eq_zero]

theorem exists_ofGroup_nsmul_base {n : Nat} (h : ¬p256.order ∣ n) :
    ∃ x y, Point.ofGroup (n • base) = .affine x y ∧ (Point.affine x y).OnCurve :=
  Point.exists_ofGroup_eq_affine fun zero => h ((nsmul_base_eq_zero_iff n).mp zero)

namespace Scalar

/-- The scalar of the generator itself. -/
def one : p256.Scalar :=
  ⟨1, by decide, by decide⟩

/-- The greatest scalar, which leads to the generator's negative. -/
def last : p256.Scalar :=
  ⟨p256.order - 1, by decide, by decide⟩

variable (d e : p256.Scalar)

theorem not_order_dvd : ¬p256.order ∣ d.value :=
  Nat.not_dvd_of_pos_of_lt d.positive d.below

theorem not_order_dvd_mul : ¬p256.order ∣ d.value * e.value := by
  rw [prime_order.dvd_mul]
  exact not_or.mpr ⟨d.not_order_dvd, e.not_order_dvd⟩

theorem point_eq_ofGroup : d.point = Point.ofGroup (d.value • base) := by
  rw [point, ← ofGroup_base, Point.multiple_ofGroup]

theorem multiple_point :
    Point.multiple d.value e.point = Point.ofGroup ((d.value * e.value) • base) := by
  rw [point_eq_ofGroup, Point.multiple_ofGroup, mul_nsmul']

/-- Both sides of a key agreement arrive at the same point. -/
theorem multiple_point_comm :
    Point.multiple d.value e.point = Point.multiple e.value d.point := by
  rw [multiple_point, multiple_point, Nat.mul_comm]

theorem exists_point_eq : ∃ x y, d.point = .affine x y ∧ (Point.affine x y).OnCurve := by
  rw [point_eq_ofGroup]
  exact exists_ofGroup_nsmul_base d.not_order_dvd

theorem exists_multiple_point_eq :
    ∃ x y, Point.multiple d.value e.point = .affine x y ∧ (Point.affine x y).OnCurve := by
  rw [multiple_point]
  exact exists_ofGroup_nsmul_base (d.not_order_dvd_mul e)

end Scalar
end KeyExport.Curve
