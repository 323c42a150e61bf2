import KeyExport.Text.Printable

set_option autoImplicit false

/-!
# Quoted text

A text is quoted with apostrophes, or with quotation marks when it holds an apostrophe and no
quotation mark. Inside, the chosen mark, the backslash and the three common line controls are
escaped by a letter, and every other character without graphic form by its number.
-/

namespace KeyExport.Text

/-- The low `count` hexadecimal digits of a number, in lower case. -/
def hexDigits : (count n : Nat) → List Char
  | 0, _ => []
  | k + 1, n => Nat.digitChar (n >>> (4 * k) % 16) :: hexDigits k n

@[simp] theorem length_hexDigits (k n : Nat) : (hexDigits k n).length = k := by
  induction k with
  | zero => rfl
  | succ k ih => simp [hexDigits, ih]

/-- The escape by number: two digits where they suffice, else four, else eight. -/
def numericEscape (c : Char) : List Char :=
  if c.toNat < 0x100 then '\\' :: 'x' :: hexDigits 2 c.toNat
  else if c.toNat < 0x10000 then '\\' :: 'u' :: hexDigits 4 c.toNat
  else '\\' :: 'U' :: hexDigits 8 c.toNat

def escape (mark c : Char) : List Char :=
  if c = mark ∨ c = '\\' then ['\\', c]
  else if c = '\n' then ['\\', 'n']
  else if c = '\r' then ['\\', 'r']
  else if c = '\t' then ['\\', 't']
  else if isPrintable c then [c]
  else numericEscape c

def quotationMark (text : List Char) : Char :=
  if '\'' ∈ text ∧ '"' ∉ text then '"' else '\''

def quote (text : String) : String :=
  let chars := text.toList
  let mark := quotationMark chars
  String.ofList (mark :: chars.flatMap (escape mark) ++ [mark])

end KeyExport.Text
