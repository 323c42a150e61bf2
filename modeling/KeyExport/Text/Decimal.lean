set_option autoImplicit false

/-!
# Decimal numbers

Integers are written in decimal up to a fixed number of digits only, which the sign does not count
for. To write a longer one is itself a failure.
-/

namespace KeyExport

/-- The most digits that are written. -/
def Decimal.maxDigits : Nat := 4300

/-- An integer that is short enough to be written in decimal. -/
@[ext]
structure Decimal where
  value : Int
  short : (Nat.toDigits 10 value.natAbs).length ≤ Decimal.maxDigits
  deriving DecidableEq

namespace Decimal

def ofInt? (value : Int) : Option Decimal :=
  if short : (Nat.toDigits 10 value.natAbs).length ≤ maxDigits then some ⟨value, short⟩ else none

instance : ToString Decimal :=
  ⟨fun number => toString number.value⟩

end Decimal
end KeyExport
