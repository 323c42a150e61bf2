import KeyExport.Failure.Category
import KeyExport.Text.Quoted

set_option autoImplicit false

/-!
# Reports

What a caller is told about a failure: its category, a message, and the facts that a program
may want to read without taking the message apart.
-/

namespace KeyExport

inductive Detail where
  | length (field : String) (expected actual : Int)
  | outputTooLong (requested maximum : Int)
  | coordinate (name : String)
  | oddHex (length : Int)
  | badHex (position : Int) (text : String)
  | inputType (field typeName : String)
  deriving DecidableEq

structure Report where
  category : Category
  /-- Absent when the failure arises outside the library, in words that are not fixed. -/
  message : Option String
  detail : Option Detail
  deriving DecidableEq

namespace Report

def plain (category : Category) (message : String) : Report :=
  ⟨category, some message, none⟩

/-- A length that is not the required one. A caller may replace the message, not the facts. -/
def wrongLength (category : Category) (field : String) (expected actual : Int)
    (message : Option String) : Report :=
  ⟨category, message.getD s!"{field} should be {expected} bytes, got {actual}",
    some (.length field expected actual)⟩

def outputTooLong (requested maximum : Int) : Report :=
  ⟨.outputTooLong,
    s!"extracting too many bytes at once: requested {requested}, maximum is {maximum}",
    some (.outputTooLong requested maximum)⟩

def coordinateRange (name : String) : Report :=
  ⟨.coordinateRange, s!"{name} is out of range", some (.coordinate name)⟩

def offCurve : Report :=
  plain .offCurve "point is not on the curve"

def oddHex (length : Int) (text : String) : Report :=
  ⟨.oddHex, "Hex encoded byte array must have even length but instead has length: " ++
    s!"{length}. Hex encoded string: {text}", some (.oddHex length)⟩

def badHex (position : Int) (text : String) : Report :=
  ⟨.badHex, s!"Invalid hex character {Text.quote text} at position {position}",
    some (.badHex position text)⟩

def inputType (field typeName : String) : Report :=
  ⟨.inputType, s!"{field} should be bytes, bytearray or memoryview, got {typeName}",
    some (.inputType field typeName)⟩

end Report
end KeyExport
