import KeyExport.Hex

set_option autoImplicit false

/-!
# Reading hexadecimal text back

What is written for a byte string has an even number of digits and no other characters, and
joining its digits in pairs restores the bytes. Digits may be in either case, each for itself.
-/

namespace KeyExport.Hex

theorem digitValue?_digitChar {n : Nat} (small : n < 16) :
    digitValue? (Nat.digitChar n) = some n := by
  revert n
  decide

/-- The high and the low digit of every byte. -/
def digitPairs (data : Bytes) : List Nat :=
  data.flatMap fun b => [b.toNat / 16, b.toNat % 16]

theorem high_lt (b : UInt8) : b.toNat / 16 < 16 := by
  have := b.toNat_lt
  omega

theorem low_lt (b : UInt8) : b.toNat % 16 < 16 :=
  Nat.mod_lt _ (by decide)

theorem encodeChars_cons_eq (b : UInt8) (rest : Bytes) : encodeChars (b :: rest) =
    Nat.digitChar (b.toNat / 16) :: Nat.digitChar (b.toNat % 16) :: encodeChars rest := by
  simp only [encodeChars_cons, Text.hexDigits, Nat.mul_one, Nat.mul_zero,
    Nat.shiftRight_eq_div_pow, Nat.pow_zero, Nat.div_one, Nat.reducePow,
    Nat.mod_eq_of_lt (high_lt b), List.cons_append, List.nil_append]

theorem digitValues_encodeChars (position : Nat) (data : Bytes) :
    digitValues position (encodeChars data) = .ok (digitPairs data) := by
  induction data generalizing position with
  | nil => rfl
  | cons b rest ih =>
    rw [encodeChars_cons_eq, digitValues, digitValue?_digitChar (high_lt b), digitValues,
      digitValue?_digitChar (low_lt b), ih]
    rfl

theorem joinPairs_digitPairs (data : Bytes) : joinPairs (digitPairs data) = data := by
  induction data with
  | nil => rfl
  | cons b rest ih =>
    have whole : b.toNat / 16 * 16 + b.toNat % 16 = b.toNat := by omega
    change UInt8.ofNat (b.toNat / 16 * 16 + b.toNat % 16) :: joinPairs (digitPairs rest) = b :: rest
    rw [whole, UInt8.ofNat_toNat, ih]

theorem digitValue?_toLower (c : Char) : digitValue? c.toLower = digitValue? c := by
  by_cases upper : 'A'.toNat ≤ c.toNat ∧ c.toNat ≤ 'Z'.toNat
  · have letters : ∀ i : Fin 26, digitValue? (Char.ofNat ('A'.toNat + i)).toLower =
        digitValue? (Char.ofNat ('A'.toNat + i)) := by decide
    obtain ⟨lower, higher⟩ := upper
    have few : c.toNat - 'A'.toNat < 26 := by
      have last : 'Z'.toNat = 'A'.toNat + 25 := rfl
      omega
    have same := letters ⟨c.toNat - 'A'.toNat, few⟩
    rwa [Nat.add_sub_cancel' lower, Char.ofNat_toNat] at same
  · have same : c.toLower = c := by
      unfold Char.toLower
      exact dif_neg upper
    rw [same]

/-- Digits keep their values when their case is forgotten. -/
theorem digitValues_of_toLower {position : Nat} {chars : List Char} {values : List Nat}
    (h : digitValues position (chars.map Char.toLower) = .ok values) :
    digitValues position chars = .ok values := by
  induction chars generalizing position values with
  | nil => exact h
  | cons c rest ih =>
    rw [List.map_cons, digitValues, digitValue?_toLower] at h
    rw [digitValues]
    cases value : digitValue? c with
    | none =>
      rw [value] at h
      cases h
    | some v =>
      simp only [value] at h ⊢
      cases later : digitValues (position + 1) (rest.map Char.toLower) with
      | error bad =>
        rw [later] at h
        cases h
      | ok others =>
        rw [later] at h
        rw [ih later]
        exact h

/-- A text is the hexadecimal form of a byte string but for the case of its letters. -/
def Renders (text : String) (data : Bytes) : Prop :=
  text.toList.map Char.toLower = encodeChars data

theorem decode_of_renders {text : String} {data : Bytes} (renders : Renders text data) :
    decode text = .ok data := by
  have size : text.toList.length = 2 * data.length := by
    rw [← length_encodeChars, ← renders, List.length_map]
  have even : ¬text.toList.length % 2 ≠ 0 := by omega
  have values : digitValues 0 text.toList = .ok (digitPairs data) := by
    apply digitValues_of_toLower
    rw [renders, digitValues_encodeChars]
  simp only [decode, values]
  rw [if_neg even, joinPairs_digitPairs]

theorem digitChar_toLower {n : Nat} (small : n < 16) :
    (Nat.digitChar n).toLower = Nat.digitChar n := by
  revert n
  decide

theorem renders_encode (data : Bytes) : Renders (encode data) data := by
  rw [Renders, encode, String.toList_ofList]
  induction data with
  | nil => rfl
  | cons b rest ih =>
    rw [encodeChars_cons_eq, List.map_cons, List.map_cons, digitChar_toLower (high_lt b),
      digitChar_toLower (low_lt b), ih]

theorem decode_encode (data : Bytes) : decode (encode data) = .ok data :=
  decode_of_renders (renders_encode data)

end KeyExport.Hex
