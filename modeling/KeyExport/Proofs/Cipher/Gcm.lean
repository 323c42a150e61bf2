import KeyExport.Cipher.Gcm
import Mathlib.Data.List.Basic

set_option autoImplicit false

/-!
# Decryption undoes encryption

The mask of GCM depends on the length of the data only, covers all of it and cancels itself, so that
`Gcm.decrypt?` gives back what `Gcm.encrypt` was given.
-/

namespace KeyExport

namespace Bytes

theorem xor_xor_cancel {a b : Bytes} (h : a.length ≤ b.length) : (a.xor b).xor b = a := by
  induction a generalizing b with
  | nil => rfl
  | cons v rest ih =>
    cases b with
    | nil => simp at h
    | cons w others =>
      have shorter : rest.length ≤ others.length := Nat.le_of_succ_le_succ h
      have head : v ^^^ w ^^^ w = v := by
        rw [UInt8.xor_assoc, UInt8.xor_self, UInt8.xor_zero]
      change (v ^^^ w ^^^ w) :: Bytes.xor (Bytes.xor rest others) others = v :: rest
      rw [head, ih shorter]

theorem le_mul_pieceCount {size : Nat} (positive : 0 < size) (length : Nat) :
    length ≤ size * pieceCount size length := by
  have h := Nat.lt_mul_div_succ (length + size - 1) positive
  unfold pieceCount
  rw [Nat.mul_add] at h
  omega

end Bytes

namespace Gcm

variable (keys : Aes.Schedule) (nonce data : Bytes)

@[simp] theorem length_keystream (blocks : Nat) :
    (keystream keys nonce blocks).length = 16 * blocks := by
  induction blocks with
  | zero => rfl
  | succ n ih =>
    have last : keystream keys nonce (n + 1) =
        keystream keys nonce n ++ keystreamBlock keys nonce (n + 2) := by
      simp [keystream, List.range_succ]
    rw [last, List.length_append, ih, length_keystreamBlock]
    omega

theorem length_le_length_keystream :
    data.length ≤ (keystream keys nonce (blockCount data)).length := by
  rw [length_keystream]
  exact Bytes.le_mul_pieceCount (by decide) data.length

@[simp] theorem length_mask : (mask keys nonce data).length = data.length := by
  rw [mask, Bytes.length_xor, Nat.min_eq_left (length_le_length_keystream keys nonce data)]

theorem mask_mask : mask keys nonce (mask keys nonce data) = data := by
  have same : blockCount (mask keys nonce data) = blockCount data := by
    rw [blockCount, length_mask, blockCount]
  rw [mask, same, mask, Bytes.xor_xor_cancel (length_le_length_keystream keys nonce data)]

variable (key plaintext : Bytes)

@[simp] theorem length_encrypt : (encrypt key nonce plaintext).length = plaintext.length + 16 := by
  simp [encrypt]

theorem decrypt?_append_tag (key nonce sealed : Bytes) :
    decrypt? key nonce (sealed ++ tag (Aes.schedule (.ofBytes key)) nonce sealed) =
      some (mask (Aes.schedule (.ofBytes key)) nonce sealed) := by
  have room : (sealed ++ tag (Aes.schedule (.ofBytes key)) nonce sealed).length - 16 =
      sealed.length := by
    rw [List.length_append, length_tag, Nat.add_sub_cancel]
  simp only [decrypt?, room, List.take_left, List.drop_left]
  exact if_pos ⟨by rw [List.length_append, length_tag]; omega, trivial⟩

/-- What is opened are sealed bytes with their tag behind. -/
theorem decrypt?_eq_some_iff {key nonce data plaintext : Bytes} :
    decrypt? key nonce data = some plaintext ↔
      ∃ sealed, data = sealed ++ tag (Aes.schedule (.ofBytes key)) nonce sealed ∧
        plaintext = mask (Aes.schedule (.ofBytes key)) nonce sealed := by
  constructor
  · intro opened
    simp only [decrypt?] at opened
    split at opened <;> rename_i tagged
    · refine ⟨data.take (data.length - 16), ?_, (Option.some.inj opened).symm⟩
      rw [← tagged.2, List.take_append_drop]
    · cases opened
  · rintro ⟨sealed, rfl, rfl⟩
    exact decrypt?_append_tag key nonce sealed

theorem decrypt?_encrypt : decrypt? key nonce (encrypt key nonce plaintext) = some plaintext := by
  rw [encrypt, decrypt?_append_tag, mask_mask]

end Gcm
end KeyExport
