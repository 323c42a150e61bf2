import KeyExport.Bytes
import KeyExport.Failure.Basic

set_option autoImplicit false

/-!
# Hexadecimal text

Two digits per byte and nothing between them. Reading takes either letter case; writing gives
lower case.
-/

namespace KeyExport.Hex

def digitValue? (c : Char) : Option Nat :=
  if '0' ≤ c ∧ c ≤ '9' then some (c.toNat - '0'.toNat)
  else if 'a' ≤ c ∧ c ≤ 'f' then some (c.toNat - 'a'.toNat + 10)
  else if 'A' ≤ c ∧ c ≤ 'F' then some (c.toNat - 'A'.toNat + 10)
  else none

/-- The values of all digits, or the place of the first character that is none. -/
def digitValues (position : Nat) : List Char → Except (Nat × Char) (List Nat)
  | [] => .ok []
  | c :: rest =>
    match digitValue? c with
    | none => .error (position, c)
    | some v => (digitValues (position + 1) rest).map (v :: ·)

def joinPairs : List Nat → Bytes
  | high :: low :: rest => UInt8.ofNat (high * 16 + low) :: joinPairs rest
  | _ => []

/-- An odd length is reported before any character is looked at. -/
def decode (text : String) : Except Failure Bytes :=
  let chars := text.toList
  if chars.length % 2 ≠ 0 then .error (.oddHex chars.length text)
  else
    match digitValues 0 chars with
    | .error (position, char) => .error (.badHex position char)
    | .ok values => .ok (joinPairs values)

def encodeChars (data : Bytes) : List Char :=
  data.flatMap fun b => Text.hexDigits 2 b.toNat

def encode (data : Bytes) : String :=
  String.ofList (encodeChars data)

@[simp] theorem encodeChars_nil : encodeChars [] = [] := rfl

@[simp] theorem encodeChars_cons (b : UInt8) (rest : Bytes) :
    encodeChars (b :: rest) = Text.hexDigits 2 b.toNat ++ encodeChars rest := rfl

@[simp] theorem length_encodeChars (data : Bytes) :
    (encodeChars data).length = 2 * data.length := by
  induction data with
  | nil => rfl
  | cons b rest ih => simp [ih]; omega

end KeyExport.Hex
