import KeyExport.Curve.Named
import KeyExport.FixedWidth
import KeyExport.Text.HexNumber

set_option autoImplicit false

/-!
# Coordinates

A pair of integers that may or may not name a point of the agreement curve P-256. Checking
takes only reduced coordinates; `toPoint` also takes larger ones and reduces them.
-/

namespace KeyExport

structure Coordinates where
  x : Int
  y : Int
  deriving DecidableEq

namespace Coordinates

/-- The curve equation, on any integers. -/
def OnCurve (c : Curve) (q : Coordinates) : Prop :=
  q.y * q.y % c.modulus = ((q.x * q.x + c.a) * q.x + c.b) % c.modulus

instance (c : Curve) (q : Coordinates) : Decidable (q.OnCurve c) :=
  inferInstanceAs (Decidable (_ = _))

def Reduced (c : Curve) (value : Int) : Prop :=
  0 ≤ value ∧ value < c.modulus

instance (c : Curve) (value : Int) : Decidable (Reduced c value) :=
  inferInstanceAs (Decidable (_ ∧ _))

/-- Gives the coordinates back when they name a point of P-256. -/
def check (q : Coordinates) : Except Failure Coordinates :=
  if ¬ Reduced .p256 q.x then .error (.outOfRange .x)
  else if ¬ Reduced .p256 q.y then .error (.outOfRange .y)
  else if ¬ q.OnCurve .p256 then .error .offCurve
  else .ok q

/-- Both coordinates at fixed width. Nothing but the width is checked. -/
def encode (q : Coordinates) : Except Failure Bytes := do
  let x ← FixedWidth.encode q.x Sizes.coordinate
  let y ← FixedWidth.encode q.y Sizes.coordinate
  return x ++ y

def decode (data : Bytes) : Except Failure Coordinates :=
  if data.length ≠ Sizes.point then .error (.wrongSize .point data.length)
  else
    check ⟨FixedWidth.decode (data.take Sizes.coordinate),
      FixedWidth.decode (data.drop Sizes.coordinate)⟩

/-- The point of P-256 with these coordinates modulo the field's prime. -/
def toPoint (q : Coordinates) : Except Fault Curve.p256.Point :=
  if q.x < 0 ∨ q.y < 0 then .error ⟨.invalidValue, "coordinates must not be negative"⟩
  else if ¬ q.OnCurve .p256 then .error ⟨.invalidValue, "point is not on the curve"⟩
  else .ok (.affine (Curve.p256.reduce q.x) (Curve.p256.reduce q.y))

/-- The printed form: both numbers in hexadecimal, at least as wide as a coordinate. -/
def render (q : Coordinates) : String :=
  let width := 2 * Sizes.coordinate + 2
  "CurvePoint(x=" ++ String.ofList (Text.hexNumber width q.x) ++ ", y=" ++
    String.ofList (Text.hexNumber width q.y) ++ ")"

end Coordinates

namespace Curve.Point

variable {c : Curve}

/-- The point at infinity has no coordinates. -/
def coordinates? : c.Point → Option Coordinates
  | .infinity => none
  | .affine x y => some ⟨x.val, y.val⟩

@[simp] theorem coordinates?_infinity : (infinity : c.Point).coordinates? = none := rfl

@[simp] theorem coordinates?_affine (x y : c.Field) :
    (affine x y).coordinates? = some ⟨x.val, y.val⟩ := rfl

end Curve.Point
end KeyExport
