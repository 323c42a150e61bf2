set_option autoImplicit false

/-!
# Categories of failure

Every category lies below a line of wider ones. The categories of this library all lie below
`failure`; malformed input is also an invalid value, so that a caller who handles invalid values
handles it too.
-/

namespace KeyExport

/-- Categories of exception that do not belong to this library. -/
inductive GeneralCategory where
  | any
  | exception
  | invalidValue
  | wrongType
  | overflow
  | named (name : String)
  deriving DecidableEq

inductive Category where
  | failure
  /-- Malformed input, and below it the ways in which input is malformed. -/
  | input
  | length
  | publicKeyLength
  | pointLength
  | privateKeyLength
  | outputLength
  | outputTooLong
  | coordinateRange
  | offCurve
  | oddHex
  | badHex
  | record
  | inputType
  /-- A number does not fit its field. -/
  | encoding
  /-- A cryptographic operation failed. -/
  | operation
  | keyAgreement
  | encryption
  | general (category : GeneralCategory)
  deriving DecidableEq

namespace Category

def generalLine : List Category := [.general .exception, .general .any]

def inputLine : List Category := [.failure, .general .invalidValue] ++ generalLine

/-- The wider categories, nearest first. -/
def ancestors : Category → List Category
  | .failure => generalLine
  | .input => inputLine
  | .publicKeyLength | .pointLength | .privateKeyLength => .length :: .input :: inputLine
  | .inputType => [.input, .failure, .general .invalidValue, .general .wrongType] ++ generalLine
  | .length | .outputLength | .outputTooLong | .coordinateRange | .offCurve | .oddHex | .badHex
  | .record => .input :: inputLine
  | .encoding => [.failure, .general .invalidValue] ++ generalLine
  | .operation => .failure :: generalLine
  | .keyAgreement | .encryption => .operation :: .failure :: generalLine
  | .general .any => []
  | .general .exception => [.general .any]
  | .general _ => generalLine

/-- A category lies within another when it is that one or lies below it. -/
def Within (c wider : Category) : Prop :=
  c = wider ∨ wider ∈ c.ancestors

instance (c wider : Category) : Decidable (c.Within wider) :=
  inferInstanceAs (Decidable (c = wider ∨ wider ∈ c.ancestors))

end Category
end KeyExport
