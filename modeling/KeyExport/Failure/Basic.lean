import KeyExport.Failure.Report
import KeyExport.Sizes
import KeyExport.Text.Decimal

set_option autoImplicit false

/-!
# Failures

One constructor per cause. `Failure.report` words each of them; no other place does. A failure that
names an integer of the caller's is raised by `Failure.naming`, since the integer may be too long to
be written.
-/

namespace KeyExport

/-- Inputs of one fixed length. -/
inductive SizedInput where
  | publicKey
  | point
  | privateKey
  deriving DecidableEq

namespace SizedInput

def size : SizedInput → Nat
  | .publicKey => Sizes.publicKey
  | .point => Sizes.point
  | .privateKey => Sizes.scalar

def label : SizedInput → String
  | .publicKey => "publicKey"
  | .point => "point"
  | .privateKey => "privateKey"

def category : SizedInput → Category
  | .publicKey => .publicKeyLength
  | .point => .pointLength
  | .privateKey => .privateKeyLength

end SizedInput

inductive Axis where
  | x
  | y
  deriving DecidableEq

def Axis.label : Axis → String
  | .x => "x"
  | .y => "y"

/-- How a primitive that this library only calls may fail. -/
structure Fault where
  category : GeneralCategory
  text : String
  deriving DecidableEq

inductive Failure where
  | wrongSize (input : SizedInput) (actual : Nat)
  | outputNotPositive (length : Decimal)
  | outputTooLong (length : Decimal)
  | outOfRange (axis : Axis)
  | offCurve
  | oddHex (length : Nat) (text : String)
  | badHex (position : Nat) (char : Char)
  | shortRecord (length : Nat)
  | unknownVersion (version : UInt8)
  | plaintextType (typeName : String)
  | negativeLength (length : Decimal)
  | negativeValue
  | tooWide (bits length : Nat)
  | scalarOutOfRange
  | agreementRefused (text : String)
  | secretSize (actual : Nat)
  | sealingKeySize (actual : Nat)
  | nonceSize (actual : Nat)
  | cipherRefused (text : String)
  | sealedSize
  /-- A record whose version is no byte cannot be written. -/
  | versionNotByte (version : Int)
  /-- An integer cannot be written in decimal. -/
  | tooManyDigits (value : Int)
  /-- A byte string cannot be that long. -/
  | tooManyBytes (length : Nat)
  /-- A fault of a primitive that is handed on as it came. -/
  | outside (fault : Fault)
  deriving DecidableEq

namespace Failure

/-- The failure that names an integer, or the one of writing it. -/
def naming (failure : Decimal → Failure) (value : Int) : Failure :=
  match Decimal.ofInt? value with
  | some number => failure number
  | none => .tooManyDigits value

def report : Failure → Report
  | wrongSize input actual =>
    .wrongLength input.category input.label input.size actual none
  | outputNotPositive length =>
    .plain .outputLength s!"Output length must be positive, got {length}"
  | outputTooLong length => .outputTooLong length.value Sizes.maxDerived
  | outOfRange axis => .coordinateRange axis.label
  | offCurve => .offCurve
  | oddHex length text => .oddHex length text
  | badHex position char => .badHex position (String.singleton char)
  | shortRecord length =>
    .plain .record s!"ciphertext should be at least {Sizes.overhead} bytes, got {length}"
  | unknownVersion version => .plain .record s!"Unsupported version {version}"
  | plaintextType typeName => .inputType "plaintext" typeName
  | negativeLength length =>
    .plain .encoding s!"Length must be non-negative, got {length}"
  | negativeValue => .plain .encoding "Value must be non-negative"
  | tooWide bits length =>
    .plain .encoding (s!"Integer has {bits} magnitude bits, " ++
      s!"more than the {length * 8} that fit in {length} bytes")
  | scalarOutOfRange => .plain .keyAgreement "private scalar is out of range"
  | agreementRefused text => .plain .keyAgreement s!"ECDH failed: {text}"
  | secretSize actual =>
    .plain .keyAgreement s!"ECDH result should be {Sizes.secret} bytes, got {actual}"
  | sealingKeySize actual =>
    .plain .encryption s!"DEM key should be {Sizes.sealingKey} bytes, got {actual}"
  | nonceSize actual =>
    .plain .encryption s!"nonce should be {Sizes.nonce} bytes, got {actual}"
  | cipherRefused text => .plain .encryption s!"AES-GCM encryption failed: {text}"
  | sealedSize => .plain .encryption "Length mismatch"
  | versionNotByte _ | tooManyDigits _ => ⟨.general .invalidValue, none, none⟩
  | tooManyBytes _ => ⟨.general .overflow, none, none⟩
  | outside fault => .plain (.general fault.category) fault.text

def category (failure : Failure) : Category :=
  failure.report.category

/-- Whether the failure blames malformed input. -/
def IsInput (failure : Failure) : Prop :=
  failure.category.Within .input

instance (failure : Failure) : Decidable failure.IsInput :=
  inferInstanceAs (Decidable (failure.category.Within .input))

end Failure
end KeyExport
