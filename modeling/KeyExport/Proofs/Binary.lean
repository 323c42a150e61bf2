import KeyExport.Binary
import Mathlib.Algebra.Group.Basic
import Mathlib.Tactic.Ring

set_option autoImplicit false

/-!
# Powers by binary digits

A number has `k` binary digits at most when it is below the `k`-th power of two. `Binary.power`
runs through the digits of its exponent. Along any map out of a monoid that turns sums into what it
combines, its result is the image of the multiple (`power_map`).
-/

namespace KeyExport.Binary

theorem bitLength_le_iff (n k : Nat) : bitLength n ≤ k ↔ n < 2 ^ k := by
  unfold bitLength
  split
  · rename_i h
    rw [h]
    exact iff_of_true (Nat.zero_le k) (Nat.two_pow_pos k)
  · rename_i h
    rw [Nat.succ_le_iff, Nat.log2_lt h]

variable {α M : Type} [AddMonoid M] {op : α → α → α} {unit : α} {f : M → α}

/-- What stands before the last `k` digits has been multiplied up already. -/
theorem foldl_digits_map (map_add : ∀ x y, f (x + y) = op (f x) (f y)) (b : M) (n k m : Nat) :
    ((List.range k).reverse.map n.testBit).foldl
        (fun sum bit => if bit then op (op sum sum) (f b) else op sum sum) (f (m • b)) =
      f ((m * 2 ^ k + n % 2 ^ k) • b) := by
  induction k generalizing m with
  | zero => simp [Nat.mod_one]
  | succ k ih =>
    have doubled : op (f (m • b)) (f (m • b)) = f ((2 * m) • b) := by
      rw [← map_add, ← add_nsmul, two_mul]
    have step : (if n.testBit k then op (op (f (m • b)) (f (m • b))) (f b)
        else op (f (m • b)) (f (m • b))) = f ((2 * m + (n.testBit k).toNat) • b) := by
      rw [doubled]
      cases n.testBit k
      · rfl
      · simp only [if_true, Bool.toNat_true, add_nsmul, one_nsmul, map_add]
    have exponent : m * 2 ^ (k + 1) + n % 2 ^ (k + 1) =
        (2 * m + (n.testBit k).toNat) * 2 ^ k + n % 2 ^ k := by
      rw [Nat.mod_pow_succ, Nat.toNat_testBit]
      ring
    rw [List.range_succ, List.reverse_append, List.reverse_singleton, List.singleton_append,
      List.map_cons, List.foldl_cons, step, ih, exponent]

theorem power_map (map_zero : f 0 = unit) (map_add : ∀ x y, f (x + y) = op (f x) (f y)) (b : M)
    (n : Nat) : power op unit (f b) n = f (n • b) := by
  have bound : n < 2 ^ bitLength n := (bitLength_le_iff n _).mp le_rfl
  have h := foldl_digits_map map_add b n (bitLength n) 0
  rw [zero_nsmul, map_zero, zero_mul, zero_add, Nat.mod_eq_of_lt bound] at h
  exact h

/-- A relation that both combinations keep holds of both results. -/
theorem power_rel {β : Type} {combine : β → β → β} {one : β} {R : α → β → Prop}
    (rel_unit : R unit one)
    (rel_op : ∀ a b v w, R a v → R b w → R (op a b) (combine v w))
    {a : α} {v : β} (base : R a v) (n : Nat) :
    R (power op unit a n) (power combine one v n) := by
  apply List.foldl_rel rel_unit
  intro bit _ sum total sums
  have doubled := rel_op _ _ _ _ sums sums
  cases bit
  · exact doubled
  · exact rel_op _ _ _ _ doubled base

/-- A map that respects what is combined respects the result. -/
theorem map_power {β : Type} {combine : β → β → β} {one : β} (g : α → β) (map_unit : g unit = one)
    (map_op : ∀ a b, g (op a b) = combine (g a) (g b)) (a : α) (n : Nat) :
    g (power op unit a n) = power combine one (g a) n := by
  apply power_rel (R := fun a v => g a = v) map_unit _ rfl
  rintro a b _ _ rfl rfl
  exact map_op a b

end KeyExport.Binary
