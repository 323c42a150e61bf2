import KeyExport.Curve.Basic

set_option autoImplicit false

/-!
# Named curves

The curve on which keys are agreed, `p256`, and four curves whose keys a caller may bring by
mistake.
-/

namespace KeyExport

namespace Curve

def p256 : Curve where
  modulus := 0xffffffff00000001000000000000000000000000ffffffffffffffffffffffff
  a := 0xffffffff00000001000000000000000000000000fffffffffffffffffffffffc
  b := 0x5ac635d8aa3a93e7b3ebbd55769886bc651d06b0cc53b0f63bce3c3e27d2604b
  generatorX := 0x6b17d1f2e12c4247f8bce6e563a440f277037d812deb33a0f4a13945d898c296
  generatorY := 0x4fe342e2fe1a7f9b8ee7eb4a7c0f9e162bce33576b315ececbb6406837bf51f5
  order := 0xffffffff00000000ffffffffffffffffbce6faada7179e84f3b9cac2fc632551

def p224 : Curve where
  modulus := 0xffffffffffffffffffffffffffffffff000000000000000000000001
  a := 0xfffffffffffffffffffffffffffffffefffffffffffffffffffffffe
  b := 0xb4050a850c04b3abf54132565044b0b7d7bfd8ba270b39432355ffb4
  generatorX := 0xb70e0cbd6bb4bf7f321390b94a03c1d356c21122343280d6115c1d21
  generatorY := 0xbd376388b5f723fb4c22dfe6cd4375a05a07476444d5819985007e34
  order := 0xffffffffffffffffffffffffffff16a2e0b8f03e13dd29455c5c2a3d

def k256 : Curve where
  modulus := 0xfffffffffffffffffffffffffffffffffffffffffffffffffffffffefffffc2f
  a := 0
  b := 7
  generatorX := 0x79be667ef9dcbbac55a06295ce870b07029bfcdb2dce28d959f2815b16f81798
  generatorY := 0x483ada7726a3c4655da4fbfc0e1108a8fd17b448a68554199c47d08ffb10d4b8
  order := 0xfffffffffffffffffffffffffffffffebaaedce6af48a03bbfd25e8cd0364141

def p384 : Curve where
  modulus :=
    0xffffffffffffffffffffffffffffffffffffffffffffffff_fffffffffffffffeffffffff0000000000000000ffffffff
  a :=
    0xffffffffffffffffffffffffffffffffffffffffffffffff_fffffffffffffffeffffffff0000000000000000fffffffc
  b :=
    0xb3312fa7e23ee7e4988e056be3f82d19181d9c6efe814112_0314088f5013875ac656398d8a2ed19d2a85c8edd3ec2aef
  generatorX :=
    0xaa87ca22be8b05378eb1c71ef320ad746e1d3b628ba79b98_59f741e082542a385502f25dbf55296c3a545e3872760ab7
  generatorY :=
    0x3617de4a96262c6f5d9e98bf9292dc29f8f41dbd289a147c_e9da3113b5f0b8c00a60b1ce1d7e819d7a431d7c90ea0e5f
  order :=
    0xffffffffffffffffffffffffffffffffffffffffffffffff_c7634d81f4372ddf581a0db248b0a77aecec196accc52973

def p521 : Curve where
  modulus :=
    0x1ffffffffffffffffffffffffffffffffffffffffffffffffffffffffffffffff_ffffffffffffffffffffffffffffffffffffffffffffffffffffffffffffffffff
  a :=
    0x1ffffffffffffffffffffffffffffffffffffffffffffffffffffffffffffffff_fffffffffffffffffffffffffffffffffffffffffffffffffffffffffffffffffc
  b :=
    0x51953eb9618e1c9a1f929a21a0b68540eea2da725b99b315f3b8b489918ef109e_156193951ec7e937b1652c0bd3bb1bf073573df883d2c34f1ef451fd46b503f00
  generatorX :=
    0xc6858e06b70404e9cd9e3ecb662395b4429c648139053fb521f828af606b4d3db_aa14b5e77efe75928fe1dc127a2ffa8de3348b3c1856a429bf97e7e31c2e5bd66
  generatorY :=
    0x11839296a789a3bc0045c8a5fb42c7d1bd998f54449579b446817afbd17273e66_2c97ee72995ef42640c550b9013fad0761353c7086a272c24088be94769fd16650
  order :=
    0x1ffffffffffffffffffffffffffffffffffffffffffffffffffffffffffffffff_fa51868783bf2f966b7fcc0148f709a5d03bb5c9b8899c47aebb6fb71e91386409

end Curve

inductive NamedCurve where
  | p256
  | p224
  | k256
  | p384
  | p521
  deriving DecidableEq

def NamedCurve.curve : NamedCurve → Curve
  | .p256 => .p256
  | .p224 => .p224
  | .k256 => .k256
  | .p384 => .p384
  | .p521 => .p521

end KeyExport
