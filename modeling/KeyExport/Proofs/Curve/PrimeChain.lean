import KeyExport.Proofs.Binary
import Mathlib.Data.List.Prime
import Mathlib.NumberTheory.LucasPrimality

set_option autoImplicit false

/-!
# Chains of primes

A number is prime when some element modulo it has the order that only a prime allows. To know
the order takes the primes of the number's predecessor, which have to be certified first, so that
certificates stand in chains.
-/

namespace KeyExport

def powerModulo (m a n : Nat) : Nat :=
  Binary.power (fun v w => v * w % m) (1 % m) (a % m) n

theorem powerModulo_eq (m a n : Nat) [NeZero m] : powerModulo m a n = ((a : ZMod m) ^ n).val := by
  let value (v : Additive (ZMod m)) : Nat := v.toMul.val
  have map_zero : value 0 = 1 % m := ZMod.val_one_eq_one_mod m
  have map_add (v w : Additive (ZMod m)) : value (v + w) = value v * value w % m :=
    ZMod.val_mul v.toMul w.toMul
  have base : value (Additive.ofMul (a : ZMod m)) = a % m := ZMod.val_natCast m a
  rw [powerModulo, ← base]
  exact Binary.power_map map_zero map_add (Additive.ofMul (a : ZMod m)) n

theorem powerModulo_eq_one_iff {m a n : Nat} (h : 1 < m) :
    powerModulo m a n = 1 ↔ (a : ZMod m) ^ n = 1 := by
  have : NeZero m := ⟨by omega⟩
  have : Fact (1 < m) := ⟨h⟩
  rw [powerModulo_eq, ← ZMod.val_one m, ZMod.val_injective m |>.eq_iff]

/-- A number, an element modulo it and the prime factors of the number's predecessor. -/
structure PrimeStep where
  number : Nat
  base : Nat
  factors : List Nat

/-- The order of the element is the predecessor, all factors of which are known to be prime. -/
def PrimeStep.Valid (known : List Nat) (s : PrimeStep) : Prop :=
  1 < s.number ∧ s.factors.prod = s.number - 1 ∧
    powerModulo s.number s.base (s.number - 1) = 1 ∧
    ∀ q ∈ s.factors, q ∈ known ∧ powerModulo s.number s.base ((s.number - 1) / q) ≠ 1

instance (known : List Nat) (s : PrimeStep) : Decidable (s.Valid known) :=
  inferInstanceAs (Decidable (_ ∧ _ ∧ _ ∧ _))

theorem PrimeStep.Valid.prime {known : List Nat} {s : PrimeStep} (valid : s.Valid known)
    (primes : ∀ q ∈ known, q.Prime) : s.number.Prime := by
  obtain ⟨large, product, full, partly⟩ := valid
  refine lucas_primality s.number s.base ((powerModulo_eq_one_iff large).mp full) ?_
  intro q prime divides
  rw [← product] at divides
  have member : q ∈ s.factors :=
    mem_list_primes_of_dvd_prod prime.prime
      (fun r among => (primes r (partly r among).1).prime) divides
  exact fun one => (partly q member).2 ((powerModulo_eq_one_iff large).mpr one)

/-- Every number of the chain is certified by means of the numbers before it. -/
def PrimeChain : (known : List Nat) → List PrimeStep → Prop
  | _, [] => True
  | known, s :: rest => s.Valid known ∧ PrimeChain (s.number :: known) rest

instance PrimeChain.decidable : (known : List Nat) → (steps : List PrimeStep) →
    Decidable (PrimeChain known steps)
  | _, [] => inferInstanceAs (Decidable True)
  | known, s :: rest =>
    have := PrimeChain.decidable (s.number :: known) rest
    inferInstanceAs (Decidable (s.Valid known ∧ PrimeChain (s.number :: known) rest))

theorem PrimeChain.prime {known : List Nat} {steps : List PrimeStep}
    (chain : PrimeChain known steps) (primes : ∀ q ∈ known, q.Prime) :
    ∀ n ∈ steps.map PrimeStep.number, n.Prime := by
  induction steps generalizing known with
  | nil => simp
  | cons s rest ih =>
    have head : s.number.Prime := chain.1.prime primes
    have extended : ∀ q ∈ s.number :: known, q.Prime :=
      List.forall_mem_cons.mpr ⟨head, primes⟩
    exact List.forall_mem_cons.mpr ⟨head, ih chain.2 extended⟩

end KeyExport
