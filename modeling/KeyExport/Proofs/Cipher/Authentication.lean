import KeyExport.Proofs.Alteration
import KeyExport.Proofs.Cipher.Aes
import KeyExport.Proofs.Cipher.Field
import KeyExport.Proofs.Cipher.Gcm
import KeyExport.Proofs.FixedWidth

set_option autoImplicit false

/-!
# What the tag detects

A tag is the hash of the sealed bytes, masked with the encryption of a block that holds the nonce.
Different nonces give different masks since the block cipher is injective. A change within one
block changes the hash since from there on both runs of the hash go through the same injective
steps, unless the factor of the hash is zero.
-/

namespace KeyExport

namespace Bytes

theorem xor_comm (a b : Bytes) : a.xor b = b.xor a :=
  List.zipWith_comm_of_comm UInt8.xor_comm

theorem eq_of_xor_right_eq {a b pad : Bytes} (size : a.length ≤ pad.length)
    (otherSize : b.length ≤ pad.length) (same : a.xor pad = b.xor pad) : a = b := by
  rw [← xor_xor_cancel size, same, xor_xor_cancel otherSize]

theorem ofNat_toNat_injective : Function.Injective fun v : Gcm.FieldElement => ofNat 16 v.toNat := by
  intro v w same
  have value (u : Gcm.FieldElement) : toNat (ofNat 16 u.toNat) = u.toNat := by
    rw [toNat_ofNat]
    exact Nat.mod_eq_of_lt u.isLt
  have numbers := congrArg toNat same
  rw [value, value] at numbers
  exact BitVec.eq_of_toNat_eq numbers

end Bytes

namespace Gcm

section Hash

theorem element_zeros : element (Bytes.zeros 16) = 0 := by
  decide

theorem eq_of_element_eq {piece other : Bytes} (size : piece.length ≤ 16)
    (sameSize : other.length = piece.length) (same : element other = element piece) :
    other = piece := by
  have below (data : Bytes) (size : data.length ≤ 16) :
      (data ++ Bytes.zeros (16 - data.length)).toNat < 2 ^ 128 := by
    have bound := Bytes.toNat_lt (data ++ Bytes.zeros (16 - data.length))
    rwa [List.length_append, Bytes.length_zeros, Nat.add_sub_cancel' size] at bound
  have numbers := congrArg BitVec.toNat same
  rw [element, element, BitVec.toNat_ofNat, BitVec.toNat_ofNat,
    Nat.mod_eq_of_lt (below other (by omega)), Nat.mod_eq_of_lt (below piece size),
    sameSize] at numbers
  have padded := Bytes.eq_of_toNat_eq (by simp [sameSize]) numbers
  exact List.append_cancel_right padded

variable {h : FieldElement}

theorem foldl_hash_injective (nonzero : h ≠ 0) (elements : List FieldElement) :
    Function.Injective fun sum => elements.foldl (fun sum e => multiply (sum ^^^ e) h) sum := by
  induction elements with
  | nil => exact fun _ _ same => same
  | cons e rest ih =>
    intro v w same
    have summed := multiply_left_injective nonzero (ih same)
    exact (BitVec.xor_left_inj e).mp summed

/-- One other element changes the hash. -/
theorem hash_ne (nonzero : h ≠ 0) {e other : FieldElement} (different : other ≠ e)
    (front back : List FieldElement) :
    hash h (front ++ other :: back) ≠ hash h (front ++ e :: back) := by
  intro same
  apply different
  rw [hash, hash, List.foldl_append, List.foldl_append, List.foldl_cons, List.foldl_cons] at same
  have step := multiply_left_injective nonzero (foldl_hash_injective nonzero back same)
  exact (BitVec.xor_right_inj _).mp step

variable {data changed : Bytes} {block : Nat}

/-- A change within one block changes the hash of what the tag covers. -/
theorem hash_authenticated_ne (nonzero : h ≠ 0)
    (altered : AlteredWithin (16 * block) (16 * (block + 1)) data changed) :
    hash h (authenticated changed) ≠ hash h (authenticated data) := by
  have same : blockCount changed = blockCount data := by
    rw [blockCount, altered.length, blockCount]
  have covered : data.length ≤ 16 * blockCount data := Bytes.le_mul_pieceCount (by decide) _
  obtain ⟨front, piece, other, back, different, split, changedSplit⟩ :=
    (Bytes.alteredWithin_pieces covered altered).exists_entry
  have sameSize : other.length = piece.length := by
    have lengths := Bytes.map_length_pieces 16 (blockCount data) altered.length
    rw [split, changedSplit, List.map_append, List.map_append] at lengths
    exact (List.cons.inj (List.append_cancel_left lengths)).1
  have among : piece ∈ Bytes.pieces 16 (blockCount data) data := by simp [split]
  have size : piece.length ≤ 16 := Bytes.length_le_of_mem_pieces among
  have elements : element other ≠ element piece := fun equal =>
    different (eq_of_element_eq size sameSize equal)
  -- The block that holds the lengths is the same for both.
  rw [authenticated, authenticated, same, split, changedSplit, altered.length]
  simp only [List.map_append, List.map_cons, List.append_assoc, List.cons_append]
  exact hash_ne nonzero elements _ _

end Hash

section Tag

variable {keys : Aes.Schedule} {nonce other : Bytes}

theorem keystreamBlock_injective {counter : Nat} (size : nonce.length = 12)
    (otherSize : other.length = 12)
    (same : keystreamBlock keys other counter = keystreamBlock keys nonce counter) :
    other = nonce := by
  have blocks := Aes.encrypt_injective keys (Aes.Block.toBytes_injective same)
  have counters : counterBlock other counter = counterBlock nonce counter :=
    Aes.Block.eq_of_ofBytes_eq (by simp [counterBlock, otherSize]) (by simp [counterBlock, size])
      blocks
  exact List.append_cancel_right counters

theorem tag_ne_of_nonce (size : nonce.length = 12) (otherSize : other.length = 12)
    (different : other ≠ nonce) (sealed : Bytes) : tag keys other sealed ≠ tag keys nonce sealed := by
  intro same
  rw [tag, tag, Bytes.xor_comm, Bytes.xor_comm _ (keystreamBlock keys nonce 1)] at same
  exact different (keystreamBlock_injective size otherSize
    (Bytes.eq_of_xor_right_eq (by simp) (by simp) same))

/-- The factor of the hash is zero only if the zero block is encrypted to itself. -/
theorem element_encrypt_ne_zero (moved : Aes.encrypt keys (.ofBytes (Bytes.zeros 16)) ≠
    .ofBytes (Bytes.zeros 16)) : element (Aes.encrypt keys (.ofBytes [])).toBytes ≠ 0 := by
  intro zero
  apply moved
  have bytes : (Aes.encrypt keys (.ofBytes [])).toBytes = Bytes.zeros 16 :=
    eq_of_element_eq (by simp) rfl (zero.trans element_zeros.symm)
  have block := congrArg Aes.Block.ofBytes bytes
  rwa [Aes.Block.ofBytes_toBytes] at block

theorem tag_ne_of_block (moved : Aes.encrypt keys (.ofBytes (Bytes.zeros 16)) ≠
    .ofBytes (Bytes.zeros 16)) {sealed changed : Bytes} {block : Nat}
    (altered : AlteredWithin (16 * block) (16 * (block + 1)) sealed changed) (nonce : Bytes) :
    tag keys nonce changed ≠ tag keys nonce sealed := by
  intro same
  have hashes := Bytes.eq_of_xor_right_eq (by simp) (by simp) same
  exact hash_authenticated_ne (element_encrypt_ne_zero moved) altered
    (Bytes.ofNat_toNat_injective hashes)

end Tag

section Decryption

variable {key nonce data plaintext : Bytes}

/-- No other nonce opens what a nonce opens. -/
theorem decrypt?_other_nonce (opened : decrypt? key nonce data = some plaintext) {other : Bytes}
    (size : nonce.length = 12) (otherSize : other.length = 12) (different : other ≠ nonce) :
    decrypt? key other data = none := by
  obtain ⟨sealed, rfl, -⟩ := decrypt?_eq_some_iff.mp opened
  apply Option.eq_none_iff_forall_ne_some.mpr
  intro text reopened
  obtain ⟨otherSealed, same, -⟩ := decrypt?_eq_some_iff.mp reopened
  obtain ⟨rfl, tags⟩ := List.append_inj' same (by simp)
  exact tag_ne_of_nonce size otherSize different _ tags.symm

variable {changed : Bytes}

/-- Sealed bytes have one tag. -/
theorem decrypt?_other_tag (opened : decrypt? key nonce data = some plaintext)
    (altered : AlteredWithin (data.length - 16) data.length data changed) :
    decrypt? key nonce changed = none := by
  obtain ⟨sealed, rfl, -⟩ := decrypt?_eq_some_iff.mp opened
  apply Option.eq_none_iff_forall_ne_some.mpr
  intro text reopened
  obtain ⟨otherSealed, rfl, -⟩ := decrypt?_eq_some_iff.mp reopened
  have sizes : otherSealed.length = sealed.length := by simpa using altered.length
  have front := altered.front
  rw [List.length_append, length_tag, Nat.add_sub_cancel, List.take_left' sizes,
    List.take_left' rfl] at front
  exact altered.ne (by rw [front])

theorem decrypt?_other_block (opened : decrypt? key nonce data = some plaintext)
    (moved : Aes.encrypt (Aes.schedule (.ofBytes key)) (.ofBytes (Bytes.zeros 16)) ≠
      .ofBytes (Bytes.zeros 16)) {block : Nat}
    (altered : AlteredWithin (16 * block) (min (16 * (block + 1)) (data.length - 16)) data changed) :
    decrypt? key nonce changed = none := by
  obtain ⟨sealed, rfl, -⟩ := decrypt?_eq_some_iff.mp opened
  apply Option.eq_none_iff_forall_ne_some.mpr
  intro text reopened
  obtain ⟨otherSealed, rfl, -⟩ := decrypt?_eq_some_iff.mp reopened
  have sizes : otherSealed.length = sealed.length := by simpa using altered.length
  rw [List.length_append, length_tag, Nat.add_sub_cancel] at altered
  -- The change leaves the tag, so that the sealed bytes differ and have one tag.
  have tags := altered.drop_eq (Nat.min_le_right _ _)
  rw [List.drop_left' sizes, List.drop_left' rfl] at tags
  have inside := altered.take (Nat.min_le_right _ _)
  rw [List.take_left' sizes, List.take_left' rfl] at inside
  exact tag_ne_of_block moved (inside.wider le_rfl (Nat.min_le_left _ _)) nonce tags

end Decryption

end Gcm
end KeyExport
