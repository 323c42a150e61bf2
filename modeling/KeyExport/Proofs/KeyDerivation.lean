import KeyExport.KeyDerivation
import KeyExport.Proofs.Action
import Mathlib.Data.List.Basic

set_option autoImplicit false

/-!
# Derived keys

Within the limits on its length a derived key is a cut of the blocks of `Hkdf.blocks`, each block
computed once (`derive_apply`). A missing salt stands for any number of zero bytes that fits into
a block of the hash.
-/

namespace KeyExport

namespace KeyDerivation

theorem closed_expand (key info previous : Bytes) (number count : Nat) :
    (expand key info previous number count).Closed := by
  induction count generalizing previous number with
  | zero => exact Action.closed_pure _
  | succ k ih =>
    exact (Action.closed_compute _ _).bind fun _ => (ih _ _).bind fun _ => Action.closed_pure _

theorem failsWithin_expand {allowed : Failure → Prop} (key info previous : Bytes)
    (number count : Nat) : (expand key info previous number count).FailsWithin allowed := by
  induction count generalizing previous number with
  | zero => exact Action.failsWithin_pure _
  | succ k ih =>
    exact (Action.failsWithin_compute _ _).bind fun block =>
      (ih block (number + 1)).bind fun _ => Action.failsWithin_pure _

theorem closed_derive (material : Bytes) (salt : Option Bytes) (info : Bytes) (length : Int) :
    (derive material salt info length).Closed := by
  unfold derive
  split
  · exact Action.closed_fail _
  · split
    · exact Action.closed_fail _
    · exact (Action.closed_compute _ _).bind fun _ =>
        (closed_expand _ _ _ _ _).bind fun _ => Action.closed_pure _

/-- Expansion goes on where a block was left. -/
theorem expand_apply (key info : Bytes) (done count : Nat) (source : Source) :
    expand key info (Hkdf.block key info done) (done + 1) count source =
      ⟨.ok ((List.range count).flatMap fun i => Hkdf.block key info (done + i + 1)),
        List.replicate count (.computed .hmac)⟩ := by
  induction count generalizing done source with
  | zero => rfl
  | succ k ih =>
    have next : hmac key (Hkdf.block key info done ++ info ++ [UInt8.ofNat (done + 1)]) =
        .compute .hmac (Hkdf.block key info (done + 1)) := rfl
    have later : ((List.range k).map Nat.succ).flatMap
        (fun i => Hkdf.block key info (done + i + 1)) =
          (List.range k).flatMap fun i => Hkdf.block key info (done + 1 + i + 1) := by
      rw [List.flatMap_map]
      congr 1
      funext i
      congr 1
      omega
    rw [expand, next, Action.compute_bind_apply,
      Action.bind_pure_eq_of_ok (ih (done + 1) source), List.range_succ_eq_map,
      List.flatMap_cons, later]
    rfl

theorem expand_nil_apply (key info : Bytes) (count : Nat) (source : Source) :
    expand key info [] 1 count source =
      ⟨.ok (Hkdf.blocks key info count), List.replicate count (.computed .hmac)⟩ := by
  have h := expand_apply key info 0 count source
  simp only [Nat.zero_add] at h
  exact h

theorem derive_apply (material : Bytes) (salt : Option Bytes) (info : Bytes) {length : Int}
    (positive : 1 ≤ length) (bounded : rounds length ≤ Sizes.maxRounds) (source : Source) :
    derive material salt info length source =
      ⟨.ok ((Hkdf.blocks (Hkdf.extract (salt.getD (Bytes.zeros Sizes.hash)) material) info
          (rounds length).toNat).take length.toNat),
        List.replicate ((rounds length).toNat + 1) (.computed .hmac)⟩ := by
  have extracted : hmac (salt.getD (Bytes.zeros Sizes.hash)) material source =
      ⟨.ok (Hkdf.extract (salt.getD (Bytes.zeros Sizes.hash)) material), [.computed .hmac]⟩ := rfl
  rw [derive, if_neg (by omega), if_neg (by omega), Action.bind_eq_of_ok extracted,
    Action.bind_pure_eq_of_ok (expand_nil_apply _ _ _ _)]
  rfl

/-- Zeros behind a salt change nothing while it fits into a block of the hash. -/
theorem extract_append_zeros (salt : Bytes) (count : Nat) (material : Bytes)
    (fits : salt.length + count ≤ Sha256.blockSize) :
    Hkdf.extract (salt ++ Bytes.zeros count) material = Hkdf.extract salt material := by
  simp only [Hkdf.extract, Hmac.sha256, Hmac.blockKey_append_zeros salt count fits]

theorem extract_zeros (count : Nat) (material : Bytes) (h : count ≤ Sha256.blockSize) :
    Hkdf.extract (Bytes.zeros count) material = Hkdf.extract [] material := by
  simpa using extract_append_zeros [] count material (by simpa using h)

end KeyDerivation
end KeyExport
