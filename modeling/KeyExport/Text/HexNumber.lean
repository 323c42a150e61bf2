import KeyExport.Binary
import KeyExport.Text.Quoted

set_option autoImplicit false

/-!
# Hexadecimal numbers

Zeros between the mark `0x` and the digits fill a number up to a least width, which counts the
sign and the mark too. A number that needs more room takes it.
-/

namespace KeyExport.Text

def hexDigitCount (n : Nat) : Nat :=
  max 1 ((Binary.bitLength n + 3) / 4)

def sign (value : Int) : List Char :=
  if value < 0 then ['-'] else []

def hexNumber (width : Nat) (value : Int) : List Char :=
  let room := width - (sign value).length - 2
  let n := value.natAbs
  sign value ++ '0' :: 'x' :: hexDigits (max room (hexDigitCount n)) n

end KeyExport.Text
