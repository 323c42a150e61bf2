import KeyExport.Proofs.Action
import KeyExport.Proofs.Cipher.Stream
import KeyExport.Sealing
import Mathlib.Algebra.Group.Nat.Defs

set_option autoImplicit false

/-!
# Sealing plaintexts

The sizes of key and nonce decide whether a cipher is reached, and `settle` says what
becomes of its answer. Sealed bytes are a stream of the length of the plaintext with a tag behind:
under one key and nonce they differ where the plaintexts differ, and in the same way.
-/

namespace KeyExport.Sealing

variable {key nonce plaintext : Bytes}

theorem encrypt_of_wrong_key (cipher : Cipher) (wrong : key.length ≠ Sizes.sealingKey) :
    encrypt cipher key nonce plaintext = .fail (.sealingKeySize key.length) :=
  if_pos wrong

theorem encrypt_of_wrong_nonce (cipher : Cipher) (keySize : key.length = Sizes.sealingKey)
    (wrong : nonce.length ≠ Sizes.nonce) :
    encrypt cipher key nonce plaintext = .fail (.nonceSize nonce.length) := by
  rw [encrypt, if_neg (not_not.mpr keySize), if_pos wrong]

/-- With the right sizes the cipher is reached once. -/
theorem encrypt_of_sizes (cipher : Cipher) (keySize : key.length = Sizes.sealingKey)
    (nonceSize : nonce.length = Sizes.nonce) (plaintext : Bytes) (source : Source) :
    encrypt cipher key nonce plaintext source =
      ⟨(settle plaintext (cipher key nonce plaintext) source).result,
        .computed .cipher :: (settle plaintext (cipher key nonce plaintext) source).events⟩ := by
  rw [encrypt, if_neg (not_not.mpr keySize), if_neg (not_not.mpr nonceSize),
    Action.compute_bind_apply]

/-- The first size that is wrong fails for every cipher alike. Right sizes meet the cipher once. -/
theorem encrypt_cases (cipher : Cipher) (key nonce plaintext : Bytes) (source : Source) :
    key.length ≠ Sizes.sealingKey ∧
        encrypt cipher key nonce plaintext source = ⟨.error (.sealingKeySize key.length), []⟩ ∨
      key.length = Sizes.sealingKey ∧ nonce.length ≠ Sizes.nonce ∧
        encrypt cipher key nonce plaintext source = ⟨.error (.nonceSize nonce.length), []⟩ ∨
      key.length = Sizes.sealingKey ∧ nonce.length = Sizes.nonce ∧
        encrypt cipher key nonce plaintext source =
          ⟨(settle plaintext (cipher key nonce plaintext) source).result,
            .computed .cipher :: (settle plaintext (cipher key nonce plaintext) source).events⟩ := by
  by_cases keySize : key.length = Sizes.sealingKey
  · by_cases nonceSize : nonce.length = Sizes.nonce
    · exact .inr (.inr ⟨keySize, nonceSize, encrypt_of_sizes cipher keySize nonceSize _ _⟩)
    · exact .inr (.inl ⟨keySize, nonceSize, by simp [encrypt_of_wrong_nonce _ keySize nonceSize]⟩)
  · exact .inl ⟨keySize, by simp [encrypt_of_wrong_key _ keySize]⟩

/-- How the cipher refuses a plaintext. -/
def tooLong : Failure :=
  .cipherRefused "Data or associated data too long. Max 2**31 - 1 bytes"

theorem encrypt_aesGcm_of_long (keySize : key.length = Sizes.sealingKey)
    (nonceSize : nonce.length = Sizes.nonce) (long : maxPlaintext < plaintext.length)
    (source : Source) :
    encrypt aesGcm key nonce plaintext source = ⟨.error tooLong, [.computed .cipher]⟩ := by
  rw [encrypt_of_sizes _ keySize nonceSize, aesGcm, if_pos long]
  rfl

theorem encrypt_aesGcm_of_short (keySize : key.length = Sizes.sealingKey)
    (nonceSize : nonce.length = Sizes.nonce) (short : plaintext.length ≤ maxPlaintext)
    (source : Source) : encrypt aesGcm key nonce plaintext source =
      ⟨.ok (Gcm.encrypt key nonce plaintext), [.computed .cipher]⟩ := by
  have whole : (Gcm.encrypt key nonce plaintext).length = plaintext.length + Sizes.tag :=
    Gcm.length_encrypt _ _ _
  rw [encrypt_of_sizes _ keySize nonceSize, aesGcm, if_neg (Nat.not_lt.mpr short), settle,
    if_pos whole]
  rfl

/-- Under a key and a nonce of the right sizes everything that is short enough is sealed, into
sixteen bytes more, and decryption gives it back. As far as both of two plaintexts go, what is
sealed for them differs as they do; so equal fronts are sealed into equal fronts and no others are,
and no two plaintexts are sealed into the same bytes. -/
theorem stream_and_tag {a b : Bytes} (keySize : key.length = 16) (nonceSize : nonce.length = 12)
    (short : a.length ≤ 2 ^ 31 - 1) (otherShort : b.length ≤ 2 ^ 31 - 1) :
    ∃ sealed other : Bytes,
      (∀ source, encrypt aesGcm key nonce a source = ⟨.ok sealed, [.computed .cipher]⟩) ∧
      (∀ source, encrypt aesGcm key nonce b source = ⟨.ok other, [.computed .cipher]⟩) ∧
      Gcm.decrypt? key nonce sealed = some a ∧ sealed.length = a.length + 16 ∧
      (∀ k ≤ min a.length b.length,
        Bytes.xor (sealed.take k) (other.take k) = Bytes.xor (a.take k) (b.take k) ∧
          (sealed.take k = other.take k ↔ a.take k = b.take k)) ∧
      (sealed = other → a = b) := by
  refine ⟨_, _, encrypt_aesGcm_of_short keySize nonceSize short,
    encrypt_aesGcm_of_short keySize nonceSize otherShort, Gcm.decrypt?_encrypt nonce key a,
    Gcm.length_encrypt nonce key a, ?_, fun same => Gcm.encrypt_injective nonce key same⟩
  intro k within
  obtain ⟨inFirst, inSecond⟩ := Nat.le_min.mp within
  exact ⟨Gcm.xor_take_encrypt nonce inFirst inSecond,
    Gcm.take_encrypt_eq_iff nonce inFirst inSecond⟩

/-- Two plaintexts with partial last blocks that are the same for seventeen bytes and differ in the
next one. -/
theorem stream_and_tag_partial_blocks :
    let key := Bytes.zeros 16
    let nonce := Bytes.zeros 12
    let front := Bytes.zeros 17
    key.length = 16 ∧ nonce.length = 12 ∧ ∃ sealed other : Bytes,
      (∀ source, encrypt aesGcm key nonce (front ++ [1]) source =
        ⟨.ok sealed, [.computed .cipher]⟩) ∧
      (∀ source, encrypt aesGcm key nonce (front ++ [2, 3]) source =
        ⟨.ok other, [.computed .cipher]⟩) ∧
      Gcm.decrypt? key nonce sealed = some (front ++ [1]) ∧ sealed.length = 34 ∧
      Bytes.xor (sealed.take 18) (other.take 18) = front ++ [3] ∧
      sealed.take 17 = other.take 17 ∧ sealed ≠ other := by
  intro key nonce front
  have keySize : key.length = 16 := rfl
  have nonceSize : nonce.length = 12 := rfl
  obtain ⟨sealed, other, encrypted, otherEncrypted, opened, size, stream, injective⟩ :=
    stream_and_tag (a := front ++ [1]) (b := front ++ [2, 3]) keySize nonceSize (by decide)
      (by decide)
  refine ⟨keySize, nonceSize, sealed, other, encrypted, otherEncrypted, opened, size, ?_, ?_, ?_⟩
  · exact (stream 18 (by decide)).1
  · exact (stream 17 (by decide)).2.mpr rfl
  · exact fun same => absurd (injective same) (by decide)

end KeyExport.Sealing
