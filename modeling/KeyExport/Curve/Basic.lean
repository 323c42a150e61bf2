import KeyExport.Binary

set_option autoImplicit false

/-!
# Elliptic curves

The curves y² = x³ + a·x + b over the integers modulo a prime, with the chord and tangent law on
their points. A point is not asked to lie on its curve; the law keeps those that do.
-/

namespace KeyExport

structure Curve where
  modulus : Nat
  a : Nat
  b : Nat
  generatorX : Nat
  generatorY : Nat
  /-- How often the generator has to be added to itself to give the point at infinity. -/
  order : Nat
  /-- The number of all points of the curve, divided by the order. -/
  cofactor : Nat := 1
  positive : 0 < modulus := by decide

namespace Curve

/-- The field of a curve's coordinates. -/
abbrev Field (c : Curve) : Type :=
  Fin c.modulus

/-- The zero is written out because `Fin.ofNat` asks for this one. -/
instance neZero_modulus (c : Curve) : @NeZero Nat Zero.ofOfNat0 c.modulus :=
  ⟨Nat.ne_of_gt c.positive⟩

variable {c : Curve}

def reduce (c : Curve) (value : Int) : c.Field :=
  ⟨(value % c.modulus).toNat, by
    have := Int.emod_lt_of_pos value (Int.natCast_pos.mpr c.positive)
    have := c.positive
    omega⟩

/-- The inverse of a nonzero element, as its power with exponent two below the modulus. -/
def Field.inverse (v : c.Field) : c.Field :=
  Binary.power (· * ·) 1 v (c.modulus - 2)

inductive Point (c : Curve) where
  | infinity
  | affine (x y : c.Field)
  deriving DecidableEq

namespace Point

/-- The slope of the line through two points, or of the tangent where they have one abscissa. -/
def slope (x₁ y₁ x₂ y₂ : c.Field) : c.Field :=
  if x₁ = x₂ then
    (x₁ * x₁ + x₁ * x₁ + x₁ * x₁ + Fin.ofNat c.modulus c.a) * Field.inverse (y₁ + y₁)
  else (y₁ - y₂) * Field.inverse (x₁ - x₂)

def add : c.Point → c.Point → c.Point
  | .infinity, q => q
  | p, .infinity => p
  | .affine x₁ y₁, .affine x₂ y₂ =>
    if x₁ = x₂ ∧ y₁ = -y₂ then .infinity
    else
      let m := slope x₁ y₁ x₂ y₂
      let x₃ := m * m - x₁ - x₂
      .affine x₃ (m * (x₁ - x₃) - y₁)

instance : Add c.Point := ⟨add⟩

def neg : c.Point → c.Point
  | .infinity => .infinity
  | .affine x y => .affine x (-y)

instance : Neg c.Point := ⟨neg⟩

/-- The sum of `n` copies of a point. -/
def multiple (n : Nat) (p : c.Point) : c.Point :=
  Binary.power add .infinity p n

def OnCurve : c.Point → Prop
  | .infinity => True
  | .affine x y => y * y = (x * x + Fin.ofNat c.modulus c.a) * x + Fin.ofNat c.modulus c.b

instance (p : c.Point) : Decidable p.OnCurve := by
  unfold OnCurve
  split <;> infer_instance

@[simp] theorem infinity_add (p : c.Point) : .infinity + p = p := rfl

@[simp] theorem add_infinity (p : c.Point) : p + .infinity = p := by
  cases p <;> rfl

end Point

def generator (c : Curve) : c.Point :=
  .affine (Fin.ofNat c.modulus c.generatorX) (Fin.ofNat c.modulus c.generatorY)

end Curve
end KeyExport
