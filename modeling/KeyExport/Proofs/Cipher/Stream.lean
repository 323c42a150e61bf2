import KeyExport.Proofs.Cipher.Gcm
import Mathlib.Data.List.Infix

set_option autoImplicit false

/-!
# The stream of GCM

Under one key and nonce every plaintext is masked with the same keystream, and a longer plaintext
only with more of it. So a front of what is sealed is the mask of the same front of the plaintext,
and two plaintexts that are sealed under one nonce differ as what is sealed does.
-/

namespace KeyExport

namespace Bytes

variable {a b pad : Bytes}

theorem take_xor (a b : Bytes) (n : Nat) : (a.xor b).take n = Bytes.xor (a.take n) (b.take n) :=
  List.take_zipWith

/-- What lies behind the end of the first string has no part in the result. -/
theorem xor_take_right {n : Nat} (covered : a.length ≤ n) : a.xor (b.take n) = a.xor b := by
  have whole : a.take n = a := List.take_of_length_le covered
  have short : (a.xor b).length ≤ n := by
    rw [length_xor]
    exact (Nat.min_le_left _ _).trans covered
  calc a.xor (b.take n) = Bytes.xor (a.take n) (b.take n) := by rw [whole]
    _ = (a.xor b).take n := (take_xor a b n).symm
    _ = a.xor b := List.take_of_length_le short

/-- Two strings under one pad differ as they do without it. -/
theorem xor_xor_xor_cancel (size : a.length ≤ pad.length) (otherSize : b.length ≤ pad.length) :
    (a.xor pad).xor (b.xor pad) = a.xor b := by
  induction pad generalizing a b with
  | nil => simp_all [Bytes.xor]
  | cons p rest ih =>
    cases a with
    | nil => rfl
    | cons v front =>
      cases b with
      | nil => rfl
      | cons w others =>
        have head : v ^^^ p ^^^ (w ^^^ p) = v ^^^ w := by
          rw [UInt8.xor_comm w, ← UInt8.xor_assoc, UInt8.xor_assoc v, UInt8.xor_self, UInt8.xor_zero]
        have tail := ih (Nat.le_of_succ_le_succ size) (Nat.le_of_succ_le_succ otherSize)
        simp only [Bytes.xor, List.zipWith_cons_cons] at tail ⊢
        rw [head, tail]

end Bytes

namespace Gcm

variable (keys : Aes.Schedule) (nonce : Bytes)

theorem keystream_prefix {few more : Nat} (le : few ≤ more) :
    keystream keys nonce few <+: keystream keys nonce more := by
  obtain ⟨extra, rfl⟩ := Nat.exists_eq_add_of_le le
  rw [keystream, keystream, List.range_add, List.flatMap_append]
  exact List.prefix_append _ _

/-- Data are masked with the front of a keystream, however much of it is computed. -/
theorem mask_eq_xor_keystream {data : Bytes} {blocks : Nat} (enough : blockCount data ≤ blocks) :
    mask keys nonce data = data.xor (keystream keys nonce blocks) := by
  obtain ⟨rest, split⟩ := keystream_prefix keys nonce enough
  rw [← Bytes.xor_take_right (length_le_length_keystream keys nonce data), ← split,
    List.take_left' rfl, mask]

theorem mask_take (data : Bytes) (n : Nat) :
    mask keys nonce (data.take n) = (mask keys nonce data).take n := by
  -- The front may need fewer blocks, but it is masked alike with those of the whole.
  have fewer : blockCount (data.take n) ≤ blockCount data := by
    have shorter := List.length_take_le' n data
    simp only [blockCount, Bytes.pieceCount]
    omega
  rw [mask_eq_xor_keystream keys nonce fewer, mask, Bytes.take_xor,
    Bytes.xor_take_right (List.length_take_le n data)]

/-- For data of one length the keystream cancels out. -/
theorem mask_xor_mask {a b : Bytes} (size : a.length = b.length) :
    (mask keys nonce a).xor (mask keys nonce b) = a.xor b := by
  have same : blockCount b = blockCount a := by rw [blockCount, size.symm, blockCount]
  have covered := length_le_length_keystream keys nonce a
  rw [mask, mask, same, Bytes.xor_xor_xor_cancel covered (size ▸ covered)]

variable {key a b : Bytes} {n : Nat}

/-- As far as the plaintext goes, what is encrypted is its mask. -/
theorem take_encrypt (within : n ≤ a.length) :
    (encrypt key nonce a).take n = mask (Aes.schedule (.ofBytes key)) nonce (a.take n) := by
  rw [encrypt, List.take_append_of_le_length (by simpa using within), mask_take]

theorem take_encrypt_eq_iff (within : n ≤ a.length) (otherWithin : n ≤ b.length) :
    (encrypt key nonce a).take n = (encrypt key nonce b).take n ↔ a.take n = b.take n := by
  rw [take_encrypt nonce within, take_encrypt nonce otherWithin]
  exact (Function.LeftInverse.injective (mask_mask _ nonce)).eq_iff

theorem xor_take_encrypt (within : n ≤ a.length) (otherWithin : n ≤ b.length) :
    Bytes.xor ((encrypt key nonce a).take n) ((encrypt key nonce b).take n) =
      Bytes.xor (a.take n) (b.take n) := by
  have size : (a.take n).length = (b.take n).length := by simp [within, otherWithin]
  rw [take_encrypt nonce within, take_encrypt nonce otherWithin, mask_xor_mask _ nonce size]

theorem encrypt_injective (key : Bytes) : Function.Injective (encrypt key nonce) := by
  intro a b same
  have opened := decrypt?_encrypt nonce key a
  rw [same, decrypt?_encrypt] at opened
  exact (Option.some.inj opened).symm

end Gcm
end KeyExport
