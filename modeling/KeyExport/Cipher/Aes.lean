import KeyExport.Bytes

set_option autoImplicit false

/-!
# AES-128

The block cipher on blocks of sixteen bytes, held as four columns of four. Ten rounds
substitute bytes, shift rows, mix columns and add a round key; the last one does not mix.
-/

namespace KeyExport.Aes

structure Column where
  b₀ : UInt8
  b₁ : UInt8
  b₂ : UInt8
  b₃ : UInt8
  deriving DecidableEq

structure Block where
  c₀ : Column
  c₁ : Column
  c₂ : Column
  c₃ : Column
  deriving DecidableEq

/-- Byte `n` of the table replaces `n`: the inverse in GF(2⁸) under an affine map. -/
def substitutionTable : Array UInt8 := #[
  0x63, 0x7c, 0x77, 0x7b, 0xf2, 0x6b, 0x6f, 0xc5, 0x30, 0x01, 0x67, 0x2b, 0xfe, 0xd7, 0xab, 0x76,
  0xca, 0x82, 0xc9, 0x7d, 0xfa, 0x59, 0x47, 0xf0, 0xad, 0xd4, 0xa2, 0xaf, 0x9c, 0xa4, 0x72, 0xc0,
  0xb7, 0xfd, 0x93, 0x26, 0x36, 0x3f, 0xf7, 0xcc, 0x34, 0xa5, 0xe5, 0xf1, 0x71, 0xd8, 0x31, 0x15,
  0x04, 0xc7, 0x23, 0xc3, 0x18, 0x96, 0x05, 0x9a, 0x07, 0x12, 0x80, 0xe2, 0xeb, 0x27, 0xb2, 0x75,
  0x09, 0x83, 0x2c, 0x1a, 0x1b, 0x6e, 0x5a, 0xa0, 0x52, 0x3b, 0xd6, 0xb3, 0x29, 0xe3, 0x2f, 0x84,
  0x53, 0xd1, 0x00, 0xed, 0x20, 0xfc, 0xb1, 0x5b, 0x6a, 0xcb, 0xbe, 0x39, 0x4a, 0x4c, 0x58, 0xcf,
  0xd0, 0xef, 0xaa, 0xfb, 0x43, 0x4d, 0x33, 0x85, 0x45, 0xf9, 0x02, 0x7f, 0x50, 0x3c, 0x9f, 0xa8,
  0x51, 0xa3, 0x40, 0x8f, 0x92, 0x9d, 0x38, 0xf5, 0xbc, 0xb6, 0xda, 0x21, 0x10, 0xff, 0xf3, 0xd2,
  0xcd, 0x0c, 0x13, 0xec, 0x5f, 0x97, 0x44, 0x17, 0xc4, 0xa7, 0x7e, 0x3d, 0x64, 0x5d, 0x19, 0x73,
  0x60, 0x81, 0x4f, 0xdc, 0x22, 0x2a, 0x90, 0x88, 0x46, 0xee, 0xb8, 0x14, 0xde, 0x5e, 0x0b, 0xdb,
  0xe0, 0x32, 0x3a, 0x0a, 0x49, 0x06, 0x24, 0x5c, 0xc2, 0xd3, 0xac, 0x62, 0x91, 0x95, 0xe4, 0x79,
  0xe7, 0xc8, 0x37, 0x6d, 0x8d, 0xd5, 0x4e, 0xa9, 0x6c, 0x56, 0xf4, 0xea, 0x65, 0x7a, 0xae, 0x08,
  0xba, 0x78, 0x25, 0x2e, 0x1c, 0xa6, 0xb4, 0xc6, 0xe8, 0xdd, 0x74, 0x1f, 0x4b, 0xbd, 0x8b, 0x8a,
  0x70, 0x3e, 0xb5, 0x66, 0x48, 0x03, 0xf6, 0x0e, 0x61, 0x35, 0x57, 0xb9, 0x86, 0xc1, 0x1d, 0x9e,
  0xe1, 0xf8, 0x98, 0x11, 0x69, 0xd9, 0x8e, 0x94, 0x9b, 0x1e, 0x87, 0xe9, 0xce, 0x55, 0x28, 0xdf,
  0x8c, 0xa1, 0x89, 0x0d, 0xbf, 0xe6, 0x42, 0x68, 0x41, 0x99, 0x2d, 0x0f, 0xb0, 0x54, 0xbb, 0x16]

def substitute (b : UInt8) : UInt8 :=
  substitutionTable.getD b.toNat 0

/-- The product with `x` in GF(2⁸), modulo x⁸ + x⁴ + x³ + x + 1. -/
def double (b : UInt8) : UInt8 :=
  if b < 0x80 then b <<< 1 else (b <<< 1) ^^^ 0x1b

namespace Column

def ofBytes (data : Bytes) : Column :=
  ⟨data.getD 0 0, data.getD 1 0, data.getD 2 0, data.getD 3 0⟩

def toBytes (c : Column) : Bytes :=
  [c.b₀, c.b₁, c.b₂, c.b₃]

def map (f : UInt8 → UInt8) (c : Column) : Column :=
  ⟨f c.b₀, f c.b₁, f c.b₂, f c.b₃⟩

def xor (c d : Column) : Column :=
  ⟨c.b₀ ^^^ d.b₀, c.b₁ ^^^ d.b₁, c.b₂ ^^^ d.b₂, c.b₃ ^^^ d.b₃⟩

def rotate (c : Column) : Column :=
  ⟨c.b₁, c.b₂, c.b₃, c.b₀⟩

/-- The product with 3x³ + x² + x + 2 modulo x⁴ + 1, over GF(2⁸). -/
def mix (c : Column) : Column :=
  let sum := c.b₀ ^^^ c.b₁ ^^^ c.b₂ ^^^ c.b₃
  ⟨c.b₀ ^^^ sum ^^^ double (c.b₀ ^^^ c.b₁),
    c.b₁ ^^^ sum ^^^ double (c.b₁ ^^^ c.b₂),
    c.b₂ ^^^ sum ^^^ double (c.b₂ ^^^ c.b₃),
    c.b₃ ^^^ sum ^^^ double (c.b₃ ^^^ c.b₀)⟩

end Column

namespace Block

/-- The first sixteen bytes; zeros stand for missing ones. -/
def ofBytes (data : Bytes) : Block :=
  ⟨.ofBytes data, .ofBytes (data.drop 4), .ofBytes (data.drop 8), .ofBytes (data.drop 12)⟩

def toBytes (b : Block) : Bytes :=
  b.c₀.toBytes ++ b.c₁.toBytes ++ b.c₂.toBytes ++ b.c₃.toBytes

@[simp] theorem length_toBytes (b : Block) : b.toBytes.length = 16 := rfl

@[simp] theorem ofBytes_toBytes (b : Block) : ofBytes b.toBytes = b := rfl

def mapColumns (f : Column → Column) (b : Block) : Block :=
  ⟨f b.c₀, f b.c₁, f b.c₂, f b.c₃⟩

def xor (b d : Block) : Block :=
  ⟨b.c₀.xor d.c₀, b.c₁.xor d.c₁, b.c₂.xor d.c₂, b.c₃.xor d.c₃⟩

/-- Row `i` is rotated by `i` places to the left. -/
def shiftRows (b : Block) : Block :=
  ⟨⟨b.c₀.b₀, b.c₁.b₁, b.c₂.b₂, b.c₃.b₃⟩, ⟨b.c₁.b₀, b.c₂.b₁, b.c₃.b₂, b.c₀.b₃⟩,
    ⟨b.c₂.b₀, b.c₃.b₁, b.c₀.b₂, b.c₁.b₃⟩, ⟨b.c₃.b₀, b.c₀.b₁, b.c₁.b₂, b.c₂.b₃⟩⟩

def substituteAll (b : Block) : Block :=
  b.mapColumns (Column.map substitute)

end Block

/-- The powers of `x` in GF(2⁸), one for each round. -/
def roundConstants : List UInt8 :=
  [0x01, 0x02, 0x04, 0x08, 0x10, 0x20, 0x40, 0x80, 0x1b, 0x36]

def nextKey (constant : UInt8) (key : Block) : Block :=
  let c₀ := key.c₀.xor ((key.c₃.rotate.map substitute).xor ⟨constant, 0, 0, 0⟩)
  let c₁ := key.c₁.xor c₀
  let c₂ := key.c₂.xor c₁
  ⟨c₀, c₁, c₂, key.c₃.xor c₂⟩

/-- The round keys that follow a key, one for each constant. -/
def laterKeys : List UInt8 → Block → List Block
  | [], _ => []
  | constant :: rest, key =>
    let next := nextKey constant key
    next :: laterKeys rest next

/-- One round for each key; the last round leaves the columns unmixed. -/
def rounds : List Block → Block → Block
  | [], b => b
  | [key], b => b.substituteAll.shiftRows.xor key
  | key :: rest, b => rounds rest ((b.substituteAll.shiftRows.mapColumns Column.mix).xor key)

structure Schedule where
  first : Block
  later : List Block

def schedule (key : Block) : Schedule :=
  ⟨key, laterKeys roundConstants key⟩

def encrypt (keys : Schedule) (block : Block) : Block :=
  rounds keys.later (block.xor keys.first)

end KeyExport.Aes
