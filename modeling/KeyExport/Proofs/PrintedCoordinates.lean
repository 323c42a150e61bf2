import KeyExport.Proofs.Coordinates
import KeyExport.Proofs.HexGrammar
import Mathlib.Data.Nat.Digits.Defs

set_option autoImplicit false

/-!
# Printed coordinates

The printed form of a pair of integers is read back as the pair, so different pairs are printed
differently. Numbers that have room in the place of a coordinate are printed with 64 digits each,
which together are the hexadecimal form of the encoded pair.
-/

namespace KeyExport

namespace Text

/-! ## Digits of numbers -/

/-- The values of the digits in `hexDigits`. -/
def nibbles : (count n : Nat) → List Nat
  | 0, _ => []
  | k + 1, n => n >>> (4 * k) % 16 :: nibbles k n

theorem hexDigits_eq_map (k n : Nat) : hexDigits k n = (nibbles k n).map Nat.digitChar := by
  induction k with
  | zero => rfl
  | succ k ih => simp [hexDigits, nibbles, ih]

theorem lt_of_mem_nibbles {k n v : Nat} (mem : v ∈ nibbles k n) : v < 16 := by
  induction k with
  | zero => simp [nibbles] at mem
  | succ k ih =>
    rcases List.mem_cons.mp mem with rfl | mem
    · exact Nat.mod_lt _ (by decide)
    · exact ih mem

theorem length_nibbles (k n : Nat) : (nibbles k n).length = k := by
  induction k with
  | zero => rfl
  | succ k ih => simp [nibbles, ih]

theorem ofDigits_nibbles (k n : Nat) : Nat.ofDigits 16 (nibbles k n).reverse = n % 16 ^ k := by
  induction k with
  | zero => simp [nibbles, Nat.mod_one]
  | succ k ih =>
    have base : 2 ^ (4 * k) = 16 ^ k := Nat.pow_mul 2 4 k
    rw [nibbles, List.reverse_cons, Nat.ofDigits_append, ih, List.length_reverse, length_nibbles,
      Nat.ofDigits_singleton, Nat.shiftRight_eq_div_pow, base, Nat.pow_succ, Nat.mod_mul]

theorem filterMap_hexDigits (k n : Nat) :
    (hexDigits k n).filterMap Hex.digitValue? = nibbles k n := by
  induction k with
  | zero => rfl
  | succ k ih =>
    have value := Hex.digitValue?_digitChar (Nat.mod_lt (n >>> (4 * k)) (by decide : 0 < 16))
    rw [hexDigits, List.filterMap_cons_some value, ih, nibbles]

theorem isLower_of_mem_hexDigits {k n : Nat} {c : Char} (mem : c ∈ hexDigits k n) :
    '0' ≤ c ∧ c ≤ '9' ∨ 'a' ≤ c ∧ c ≤ 'f' := by
  rw [hexDigits_eq_map] at mem
  obtain ⟨v, nibble, rfl⟩ := List.mem_map.mp mem
  have lower : ∀ v < 16, '0' ≤ Nat.digitChar v ∧ Nat.digitChar v ≤ '9' ∨
    'a' ≤ Nat.digitChar v ∧ Nat.digitChar v ≤ 'f' := by decide
  exact lower v (lt_of_mem_nibbles nibble)

theorem isDigit_of_mem_hexDigits {k n : Nat} {c : Char} (mem : c ∈ hexDigits k n) :
    Hex.IsDigit c :=
  (isLower_of_mem_hexDigits mem).imp_right .inl

theorem lt_pow_hexDigitCount (n : Nat) : n < 16 ^ hexDigitCount n := by
  have enough : Binary.bitLength n ≤ 4 * hexDigitCount n := by
    rw [hexDigitCount]
    omega
  have bound := (Binary.bitLength_le_iff n _).mp enough
  rwa [Nat.pow_mul] at bound

/-! ## Reading numbers -/

/-- Reads the mark and as many digits as follow, at least one. -/
def scanMarked? : List Char → Option (Nat × List Char)
  | '0' :: 'x' :: text =>
    let digits := text.takeWhile fun c => Hex.IsDigit c
    if digits = [] then none
    else some (Nat.ofDigits 16 (digits.filterMap Hex.digitValue?).reverse,
      text.dropWhile fun c => Hex.IsDigit c)
  | _ => none

/-- Reads a number, which a sign may precede. -/
def scanNumber? : List Char → Option (Int × List Char)
  | '-' :: text => (scanMarked? text).map fun (n, rest) => (-n, rest)
  | text => (scanMarked? text).map fun (n, rest) => (n, rest)

/-- What follows a piece of text. -/
def after? (piece : String) (text : List Char) : Option (List Char) :=
  if piece.toList <+: text then some (text.drop piece.toList.length) else none

variable {k n : Nat} {rest : List Char}

theorem scanMarked?_hexDigits (positive : 0 < k) (fits : n < 16 ^ k)
    (stops : ∀ c ∈ rest.head?, ¬Hex.IsDigit c) :
    scanMarked? ('0' :: 'x' :: (hexDigits k n ++ rest)) = some (n, rest) := by
  have digits : ∀ c ∈ hexDigits k n, decide (Hex.IsDigit c) = true :=
    fun c mem => decide_eq_true (isDigit_of_mem_hexDigits mem)
  have front : rest.takeWhile (fun c => Hex.IsDigit c) = [] := by
    cases rest <;> simp_all
  have back : rest.dropWhile (fun c => Hex.IsDigit c) = rest := by
    cases rest <;> simp_all
  have nonempty : hexDigits k n ≠ [] := by
    rwa [← List.length_pos_iff, length_hexDigits]
  simp [scanMarked?, List.takeWhile_append_of_pos digits, List.dropWhile_append_of_pos digits,
    front, back, nonempty, filterMap_hexDigits, ofDigits_nibbles, Nat.mod_eq_of_lt fits]

theorem scanNumber?_unsigned (text : List Char) : scanNumber? ('0' :: text) =
    (scanMarked? ('0' :: text)).map fun (n, rest) => (n, rest) := rfl

theorem scanNumber?_hexNumber (width : Nat) (value : Int)
    (stops : ∀ c ∈ rest.head?, ¬Hex.IsDigit c) :
    scanNumber? (hexNumber width value ++ rest) = some (value, rest) := by
  have positive : ∀ room, 0 < max room (hexDigitCount value.natAbs) := by
    intro room
    rw [hexDigitCount]
    omega
  have fits : ∀ room, value.natAbs < 16 ^ max room (hexDigitCount value.natAbs) :=
    fun room => (lt_pow_hexDigitCount _).trans_le
      (Nat.pow_le_pow_right (by decide) (Nat.le_max_right room _))
  -- A sign takes a place from the padding, never from the digits of the number.
  have marked := fun room => scanMarked?_hexDigits (positive room) (fits room) stops
  by_cases negative : value < 0
  · have magnitude : -(value.natAbs : Int) = value := by omega
    simp only [hexNumber, sign, if_pos negative, List.cons_append, List.nil_append, scanNumber?,
      marked, Option.map_some, magnitude]
  · have magnitude : (value.natAbs : Int) = value := by omega
    simp only [hexNumber, sign, if_neg negative, List.cons_append, List.nil_append,
      scanNumber?_unsigned, marked, Option.map_some, magnitude]

@[simp] theorem after?_append (piece : String) (rest : List Char) :
    after? piece (piece.toList ++ rest) = some rest := by
  simp [after?]

end Text

namespace Hex

open Text

theorem encodeChars_append (a b : Bytes) :
    encodeChars (a ++ b) = encodeChars a ++ encodeChars b :=
  List.flatMap_append

theorem encodeChars_ofNat (k n : Nat) : encodeChars (Bytes.ofNat k n) = hexDigits (2 * k) n := by
  induction k with
  | zero => rfl
  | succ k ih =>
    have double : 4 * (2 * k) = 8 * k := by omega
    have next : 4 * (2 * k + 1) = 8 * k + 4 := by omega
    have high : (UInt8.ofNat (n >>> (8 * k))).toNat / 16 = n >>> (4 * (2 * k + 1)) % 16 := by
      rw [next, Nat.shiftRight_add, UInt8.toNat_ofNat', Nat.shiftRight_eq_div_pow (n >>> (8 * k))]
      omega
    have low : (UInt8.ofNat (n >>> (8 * k))).toNat % 16 = n >>> (4 * (2 * k)) % 16 := by
      rw [double, UInt8.toNat_ofNat']
      omega
    rw [Bytes.ofNat, encodeChars_cons_eq, ih, high, low]
    rfl

end Hex

namespace Coordinates

open Text

theorem toList_render (q : Coordinates) :
    q.render.toList = "CurvePoint(x=".toList ++ (hexNumber (2 * Sizes.coordinate + 2) q.x ++
      (", y=".toList ++ (hexNumber (2 * Sizes.coordinate + 2) q.y ++ ")".toList))) := by
  have printed : q.render = "CurvePoint(x=" ++ .ofList (hexNumber _ q.x) ++ ", y=" ++
    .ofList (hexNumber _ q.y) ++ ")" := rfl
  simp only [printed, String.toList_append, String.toList_ofList, List.append_assoc]

/-- Reads the printed form of coordinates. -/
def read? (text : String) : Option Coordinates := do
  let text ← after? "CurvePoint(x=" text.toList
  let (x, text) ← scanNumber? text
  let text ← after? ", y=" text
  let (y, text) ← scanNumber? text
  if text = [')'] then some ⟨x, y⟩ else none

theorem read?_render (q : Coordinates) : read? q.render = some q := by
  -- Neither number goes on in the text behind it.
  have comma : ∀ rest, ∀ c ∈ (", y=".toList ++ rest).head?, ¬Hex.IsDigit c := by
    intro rest c first
    cases first
    decide
  have parenthesis : ∀ c ∈ (")".toList).head?, ¬Hex.IsDigit c := by
    intro c first
    cases first
    decide
  simp only [read?, toList_render, after?_append, Option.bind_eq_bind, Option.bind_some,
    scanNumber?_hexNumber _ _ (comma _), scanNumber?_hexNumber _ _ parenthesis]
  rfl

theorem render_injective : Function.Injective render := by
  intro q r same
  have read := read?_render q
  rw [same, read?_render] at read
  exact (Option.some.inj read).symm

/-! ## Numbers of one width -/

theorem hexNumber_of_fits {value : Int} (fits : Fits value) :
    hexNumber (2 * Sizes.coordinate + 2) value = '0' :: 'x' :: hexDigits 64 value.toNat := by
  obtain ⟨nonneg, below⟩ := fits
  have few : hexDigitCount value.toNat ≤ 64 := by
    have bits := (Binary.bitLength_le_iff value.toNat 256).mpr (by omega)
    rw [hexDigitCount]
    omega
  have magnitude : value.natAbs = value.toNat := by omega
  have unsigned : sign value = [] := if_neg (Int.not_lt.mpr nonneg)
  have width : max (2 * Sizes.coordinate + 2 - 0 - 2) (hexDigitCount value.toNat) = 64 :=
    Nat.max_eq_left few
  simp only [hexNumber, unsigned, List.length_nil, List.nil_append, magnitude, width]

/-- The printed form of two integers is read back as the two, so no other pair is printed alike.
When both fit into 256 bits each has 64 lower-case digits behind its mark, and these digits are the
hexadecimal form of the encoded pair. -/
theorem render_faithful :
    (∀ q : Coordinates, read? q.render = some q) ∧ Function.Injective render ∧
    ∀ q : Coordinates, (0 ≤ q.x ∧ q.x < 2 ^ 256) → (0 ≤ q.y ∧ q.y < 2 ^ 256) →
      ∃ (x y : String) (data : Bytes), q.encode = .ok data ∧ x ++ y = Hex.encode data ∧
        x.length = 64 ∧ y.length = 64 ∧
        (∀ c ∈ (x ++ y).toList, '0' ≤ c ∧ c ≤ '9' ∨ 'a' ≤ c ∧ c ≤ 'f') ∧
        q.render = "CurvePoint(x=0x" ++ x ++ ", y=0x" ++ y ++ ")" := by
  refine ⟨read?_render, render_injective, fun q fitsX fitsY => ?_⟩
  rcases q.encode_cases with ⟨misfit, -⟩ | ⟨-, misfit, -⟩ | ⟨-, -, encoded⟩
  · exact absurd fitsX misfit
  · exact absurd fitsY misfit
  · refine ⟨.ofList (hexDigits 64 q.x.toNat), .ofList (hexDigits 64 q.y.toNat), _, encoded, ?_,
      ?_, ?_, ?_, ?_⟩
    · simp only [Hex.encode, Hex.encodeChars_append, Hex.encodeChars_ofNat, String.ofList_append]
      rfl
    · simp
    · simp
    · intro c mem
      rw [← String.ofList_append, String.toList_ofList] at mem
      rcases List.mem_append.mp mem with mem | mem <;> exact isLower_of_mem_hexDigits mem
    · simp [← String.toList_inj, toList_render, hexNumber_of_fits fitsX, hexNumber_of_fits fitsY]

end Coordinates
end KeyExport
