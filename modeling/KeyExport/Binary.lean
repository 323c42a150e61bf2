set_option autoImplicit false

/-!
# Binary digits

The digits of a number drive `power`, which combines many copies of one value with few steps.
-/

namespace KeyExport.Binary

/-- The number of binary digits; zero has none. -/
def bitLength (n : Nat) : Nat :=
  if n = 0 then 0 else n.log2 + 1

/-- The binary digits, most significant first. -/
def digits (n : Nat) : List Bool :=
  (List.range (bitLength n)).reverse.map n.testBit

/-- `n` copies of `a` combined by `op`: a doubling for each digit of `n`, and one more `a` where
the digit is one. -/
def power {α : Type} (op : α → α → α) (unit a : α) (n : Nat) : α :=
  (digits n).foldl (fun sum bit => if bit then op (op sum sum) a else op sum sum) unit

end KeyExport.Binary
