import KeyExport.Hash.Hmac

set_option autoImplicit false

/-!
# HKDF

Key material is first extracted into one pseudorandom key, which is then expanded block by
block: each block is keyed with that key and covers the block before, the context and a counter.
-/

namespace KeyExport.Hkdf

def extract (salt material : Bytes) : Bytes :=
  Hmac.sha256 salt material

/-- The block of a given number. The counter starts at one; block zero is empty. -/
def block (key info : Bytes) : (number : Nat) → Bytes
  | 0 => []
  | i + 1 => Hmac.sha256 key (block key info i ++ info ++ [UInt8.ofNat (i + 1)])

/-- The first `rounds` blocks in a row. -/
def blocks (key info : Bytes) (rounds : Nat) : Bytes :=
  (List.range rounds).flatMap fun i => block key info (i + 1)

@[simp] theorem length_block_succ (key info : Bytes) (i : Nat) :
    (block key info (i + 1)).length = 32 :=
  Hmac.length_sha256 _ _

@[simp] theorem blocks_zero (key info : Bytes) : blocks key info 0 = [] := rfl

theorem blocks_succ (key info : Bytes) (rounds : Nat) :
    blocks key info (rounds + 1) = blocks key info rounds ++ block key info (rounds + 1) := by
  simp [blocks, List.range_succ]

@[simp] theorem length_blocks (key info : Bytes) (rounds : Nat) :
    (blocks key info rounds).length = rounds * 32 := by
  induction rounds with
  | zero => rfl
  | succ n ih => rw [blocks_succ, List.length_append, ih, length_block_succ]; omega

end KeyExport.Hkdf
