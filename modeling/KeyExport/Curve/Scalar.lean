import KeyExport.Curve.Coordinates

set_option autoImplicit false

/-!
# Scalars and private keys

A private key is a scalar of some named curve, from one up to but not including the order of
the generator.
-/

namespace KeyExport

structure Curve.Scalar (c : Curve) where
  value : Nat
  positive : 0 < value
  below : value < c.order
  deriving DecidableEq

def Curve.Scalar.ofNat? (c : Curve) (value : Nat) : Option c.Scalar :=
  if h : 0 < value ∧ value < c.order then some ⟨value, h.1, h.2⟩ else none

theorem Curve.Scalar.ofNat?_eq_some_iff {c : Curve} {value : Nat} {s : c.Scalar} :
    ofNat? c value = some s ↔ s.value = value := by
  unfold ofNat?
  split <;> rename_i range
  · constructor
    · intro same
      cases same
      rfl
    · rintro rfl
      rfl
  · constructor
    · intro same
      cases same
    · rintro rfl
      exact absurd ⟨s.positive, s.below⟩ range

/-- The point that belongs to a scalar. -/
def Curve.Scalar.point {c : Curve} (s : c.Scalar) : c.Point :=
  .multiple s.value c.generator

structure PrivateKey where
  curve : NamedCurve
  scalar : curve.curve.Scalar

namespace PrivateKey

def ofScalar (s : Curve.p256.Scalar) : PrivateKey :=
  ⟨.p256, s⟩

/-- A key of the agreement curve from exactly one field element's bytes. -/
def decode (data : Bytes) : Except Failure PrivateKey :=
  if data.length ≠ Sizes.scalar then .error (.wrongSize .privateKey data.length)
  else
    match Curve.Scalar.ofNat? .p256 (FixedWidth.decode data) with
    | none => .error .scalarOutOfRange
    | some s => .ok (ofScalar s)

/-- The coordinates of the public point. No scalar in range leads to the point at infinity, so
that the default stands for nothing. -/
def publicCoordinates (key : PrivateKey) : Coordinates :=
  key.scalar.point.coordinates?.getD ⟨0, 0⟩

end PrivateKey

/-- Private key material as it is handed in: of the agreement curve in its serialized form, or of
another named curve as a plain scalar. -/
inductive KeyMaterial where
  | serialized (data : Bytes)
  | scalar (curve : NamedCurve) (data : Bytes)

def KeyMaterial.decode : KeyMaterial → Except Failure PrivateKey
  | .serialized data => PrivateKey.decode data
  | .scalar curve data =>
    match Curve.Scalar.ofNat? curve.curve (FixedWidth.decode data) with
    | none => .error .scalarOutOfRange
    | some s => .ok ⟨curve, s⟩

end KeyExport
