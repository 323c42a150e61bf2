import KeyExport.Proofs.Hex

set_option autoImplicit false

/-!
# The grammar of hexadecimal text

Text is read exactly when the number of its characters is even and all of them are digits. An odd
length is reported as such; else the first character that is no digit is named. What is read is
written back as the same text in lower case. A more generous reader, which also passes over blanks
between the pairs, never fails on such text and reads the same bytes.
-/

namespace KeyExport.Hex

/-- The characters of hexadecimal text. -/
def IsDigit (c : Char) : Prop :=
  '0' ≤ c ∧ c ≤ '9' ∨ 'a' ≤ c ∧ c ≤ 'f' ∨ 'A' ≤ c ∧ c ≤ 'F'

instance (c : Char) : Decidable (IsDigit c) :=
  inferInstanceAs (Decidable (_ ∨ _))

theorem digitValue?_eq_none_iff (c : Char) : digitValue? c = none ↔ ¬IsDigit c := by
  grind [digitValue?, IsDigit]

theorem isDigit_of_digitValue? {c : Char} {v : Nat} (h : digitValue? c = some v) : IsDigit c := by
  grind [digitValue?, IsDigit]

theorem IsDigit.toNat_lt {c : Char} (digit : IsDigit c) : c.toNat < 128 := by
  grind [IsDigit, Char.le_def, UInt32.le_iff_toNat_le, Char.toNat_val]

/-- In lower case a digit is the one that its value is written with. -/
theorem digitChar_of_digitValue? {c : Char} {v : Nat} (h : digitValue? c = some v) :
    v < 16 ∧ c.toLower = Nat.digitChar v := by
  have ascii : ∀ n < 128, ∀ v ∈ digitValue? (Char.ofNat n),
      v < 16 ∧ (Char.ofNat n).toLower = Nat.digitChar v := by decide
  have low := (isDigit_of_digitValue? h).toNat_lt
  simpa using ascii c.toNat low v (by simpa using h)

/-! ## The first character that is no digit -/

/-- The character at this place is no digit, and before it there are digits only. -/
structure FirstOther (chars : List Char) (position : Nat) (c : Char) : Prop where
  found : chars[position]? = some c
  other : ¬IsDigit c
  before : ∀ i < position, ∀ d, chars[i]? = some d → IsDigit d

variable {chars rest : List Char} {values : List Nat} {c d : Char} {position : Nat}

@[simp] theorem not_firstOther_nil : ¬FirstOther [] position c :=
  fun first => by simpa using first.found

@[simp] theorem firstOther_cons_zero : FirstOther (d :: rest) 0 c ↔ d = c ∧ ¬IsDigit d := by
  constructor
  · rintro ⟨found, other, -⟩
    cases found
    exact ⟨rfl, other⟩
  · rintro ⟨rfl, other⟩
    exact ⟨rfl, other, by simp⟩

@[simp] theorem firstOther_cons_succ :
    FirstOther (d :: rest) (position + 1) c ↔ IsDigit d ∧ FirstOther rest position c := by
  constructor
  · rintro ⟨found, other, before⟩
    exact ⟨before 0 (Nat.succ_pos _) d rfl, found, other,
      fun i less => before (i + 1) (Nat.succ_lt_succ less)⟩
  · rintro ⟨digit, found, other, before⟩
    refine ⟨found, other, fun i less e stands => ?_⟩
    cases i with
    | zero =>
      cases stands
      exact digit
    | succ i => exact before i (Nat.lt_of_succ_lt_succ less) e stands

/-! ## Reading the digits -/

theorem digitValues_cons_eq_ok_iff : digitValues position (c :: rest) = .ok values ↔
    ∃ v others, digitValue? c = some v ∧ digitValues (position + 1) rest = .ok others ∧
      v :: others = values := by
  cases value : digitValue? c <;> cases read : digitValues (position + 1) rest <;>
    simp [digitValues, value, read, Except.map]

theorem digitValues_cons_eq_error_iff {bad : Nat × Char} :
    digitValues position (c :: rest) = .error bad ↔
      ¬IsDigit c ∧ (position, c) = bad ∨
        IsDigit c ∧ digitValues (position + 1) rest = .error bad := by
  cases value : digitValue? c with
  | none => simp [digitValues, value, (digitValue?_eq_none_iff c).mp value]
  | some v =>
    cases read : digitValues (position + 1) rest <;>
      simp [digitValues, value, read, Except.map, isDigit_of_digitValue? value]

theorem digitValues_eq_error_iff {start : Nat} : digitValues start chars = .error (position, c) ↔
    ∃ i, start + i = position ∧ FirstOther chars i c := by
  -- The start moves on with the text, and the place is counted from it.
  induction chars generalizing start with
  | nil => simp [digitValues]
  | cons d rest ih =>
    rw [digitValues_cons_eq_error_iff, ih]
    constructor
    · rintro (⟨other, same⟩ | ⟨digit, i, place, first⟩)
      · cases same
        exact ⟨0, rfl, firstOther_cons_zero.mpr ⟨rfl, other⟩⟩
      · exact ⟨i + 1, by omega, firstOther_cons_succ.mpr ⟨digit, first⟩⟩
    · rintro ⟨i, place, first⟩
      cases i with
      | zero =>
        obtain ⟨rfl, other⟩ := firstOther_cons_zero.mp first
        exact .inl ⟨other, by rw [← place, Nat.add_zero]⟩
      | succ i =>
        obtain ⟨digit, later⟩ := firstOther_cons_succ.mp first
        exact .inr ⟨digit, i, by omega, later⟩

theorem exists_digitValues_iff (position : Nat) (chars : List Char) :
    (∃ values, digitValues position chars = .ok values) ↔ ∀ c ∈ chars, IsDigit c := by
  induction chars generalizing position with
  | nil => simp [digitValues]
  | cons c rest ih =>
    simp only [digitValues_cons_eq_ok_iff, List.forall_mem_cons, ← ih (position + 1)]
    constructor
    · rintro ⟨values, v, others, value, read, -⟩
      exact ⟨isDigit_of_digitValue? value, others, read⟩
    · rintro ⟨digit, others, read⟩
      cases value : digitValue? c with
      | none => exact absurd digit ((digitValue?_eq_none_iff c).mp value)
      | some v => exact ⟨v :: others, v, others, rfl, read, rfl⟩

/-- In lower case the characters are the digits that their values are written with. -/
theorem map_toLower_of_digitValues (read : digitValues position chars = .ok values) :
    chars.map Char.toLower = values.map Nat.digitChar ∧ ∀ v ∈ values, v < 16 := by
  induction chars generalizing position values with
  | nil =>
    cases read
    simp
  | cons c rest ih =>
    obtain ⟨v, others, value, later, rfl⟩ := digitValues_cons_eq_ok_iff.mp read
    obtain ⟨small, lower⟩ := digitChar_of_digitValue? value
    obtain ⟨same, below⟩ := ih later
    exact ⟨by simp [lower, same], List.forall_mem_cons.mpr ⟨small, below⟩⟩

theorem encodeChars_joinPairs (even : values.length % 2 = 0) (small : ∀ v ∈ values, v < 16) :
    encodeChars (joinPairs values) = values.map Nat.digitChar := by
  fun_induction joinPairs values with
  | case1 high low rest ih =>
    simp only [List.forall_mem_cons] at small
    obtain ⟨highSmall, lowSmall, restSmall⟩ := small
    have byte : (UInt8.ofNat (high * 16 + low)).toNat = high * 16 + low := by
      rw [UInt8.toNat_ofNat']
      omega
    have restEven : rest.length % 2 = 0 := (Nat.add_mod_right rest.length 2).symm.trans even
    rw [encodeChars_cons_eq, byte, ih restEven restSmall]
    have first : (high * 16 + low) / 16 = high := by omega
    have second : (high * 16 + low) % 16 = low := by omega
    simp [first, second]
  | case2 values short =>
    cases values with
    | nil => rfl
    | cons v rest =>
      cases rest with
      | nil => cases even
      | cons w others => exact (short v w others rfl).elim

/-! ## Texts -/

variable {text : String} {data : Bytes}

theorem decode_of_odd (odd : text.length % 2 = 1) :
    decode text = .error (.oddHex text.length text) := by
  simp [decode, String.length_toList, odd]

theorem decode_of_values (even : text.length % 2 = 0)
    (read : digitValues 0 text.toList = .ok values) : decode text = .ok (joinPairs values) := by
  simp [decode, String.length_toList, even, read]

theorem decode_of_other (even : text.length % 2 = 0) (first : FirstOther text.toList position c) :
    decode text = .error (.badHex position c) := by
  have read := digitValues_eq_error_iff.mpr ⟨position, Nat.zero_add position, first⟩
  simp [decode, String.length_toList, even, read]

theorem decode_cases (text : String) :
    text.length % 2 = 1 ∧ decode text = .error (.oddHex text.length text) ∨
      text.length % 2 = 0 ∧ (∃ position c, FirstOther text.toList position c ∧
        decode text = .error (.badHex position c)) ∨
      text.length % 2 = 0 ∧ ∃ values, digitValues 0 text.toList = .ok values ∧
        decode text = .ok (joinPairs values) := by
  rcases Nat.mod_two_eq_zero_or_one text.length with even | odd
  · cases read : digitValues 0 text.toList with
    | error bad =>
      obtain ⟨i, -, first⟩ := digitValues_eq_error_iff.mp read
      exact .inr (.inl ⟨even, i, bad.2, first, decode_of_other even first⟩)
    | ok values => exact .inr (.inr ⟨even, values, rfl, decode_of_values even read⟩)
  · exact .inl ⟨odd, decode_of_odd odd⟩

theorem decode_eq_ok_iff : decode text = .ok data ↔ text.length % 2 = 0 ∧
    ∃ values, digitValues 0 text.toList = .ok values ∧ joinPairs values = data := by
  constructor
  · intro decoded
    rcases decode_cases text with ⟨-, refused⟩ | ⟨-, position, c, -, refused⟩ |
      ⟨even, values, read, joined⟩
    · simp [refused] at decoded
    · simp [refused] at decoded
    · exact ⟨even, values, read, Except.ok.inj (joined.symm.trans decoded)⟩
  · rintro ⟨even, values, read, rfl⟩
    exact decode_of_values even read

/-- The ways in which text is refused. An odd length hides what else is wrong. -/
inductive Refused (text : String) : Failure → Prop where
  | odd (odd : text.length % 2 = 1) : Refused text (.oddHex text.length text)
  | other {position : Nat} {c : Char} (even : text.length % 2 = 0)
    (first : FirstOther text.toList position c) : Refused text (.badHex position c)

theorem decode_eq_error_iff {failure : Failure} :
    decode text = .error failure ↔ Refused text failure := by
  constructor
  · intro failed
    rcases decode_cases text with ⟨odd, refused⟩ | ⟨even, position, c, first, refused⟩ |
      ⟨even, values, -, joined⟩
    · rw [refused] at failed
      cases failed
      exact .odd odd
    · rw [refused] at failed
      cases failed
      exact .other even first
    · simp [joined] at failed
  · rintro (odd | ⟨even, first⟩)
    · exact decode_of_odd odd
    · exact decode_of_other even first

theorem decode_eq_ok_iff_renders : decode text = .ok data ↔ Renders text data := by
  refine ⟨fun decoded => ?_, decode_of_renders⟩
  obtain ⟨even, values, read, rfl⟩ := decode_eq_ok_iff.mp decoded
  obtain ⟨lower, small⟩ := map_toLower_of_digitValues read
  have size : text.length = values.length := by
    rw [← String.length_toList, ← List.length_map, lower, List.length_map]
  rw [Renders, lower, encodeChars_joinPairs (size ▸ even) small]

theorem renders_iff : Renders text data ↔ text.toLower = encode data := by
  have lower : text.toLower.toList = text.toList.map Char.toLower := String.toList_map
  rw [Renders, ← String.toList_inj, lower, encode, String.toList_ofList]

/-! ## Blanks -/

/-- The blanks among the first 128 characters. -/
def IsBlank (c : Char) : Prop :=
  c = ' ' ∨ '\t' ≤ c ∧ c ≤ '\r'

instance (c : Char) : Decidable (IsBlank c) :=
  inferInstanceAs (Decidable (_ ∨ _))

/-- Reads digits in pairs, with any number of blanks before and behind each pair. -/
def readSpaced? : List Char → Option Bytes
  | [] => some []
  | [c] => if IsBlank c then some [] else none
  | c :: d :: rest =>
    if IsBlank c then readSpaced? (d :: rest)
    else
      match digitValue? c, digitValue? d with
      | some high, some low => (readSpaced? rest).map (UInt8.ofNat (high * 16 + low) :: ·)
      | _, _ => none

theorem IsDigit.not_isBlank {c : Char} (digit : IsDigit c) : ¬IsBlank c := by
  rintro (rfl | ⟨low, high⟩)
  · revert digit
    decide
  · grind [IsDigit, Char.le_def, UInt32.le_iff_toNat_le]

theorem readSpaced?_of_digitValues (even : chars.length % 2 = 0)
    (read : digitValues position chars = .ok values) :
    readSpaced? chars = some (joinPairs values) := by
  fun_induction readSpaced? chars generalizing position values with
  | case1 =>
    cases read
    rfl
  | case2 c blank => cases even
  | case3 c other => cases even
  | case4 c d rest blank ih =>
    obtain ⟨v, -, value, -⟩ := digitValues_cons_eq_ok_iff.mp read
    exact absurd blank (isDigit_of_digitValue? value).not_isBlank
  | case5 c d rest clear high low second first ih =>
    obtain ⟨v, others, highValue, later, rfl⟩ := digitValues_cons_eq_ok_iff.mp read
    obtain ⟨w, more, lowValue, last, rfl⟩ := digitValues_cons_eq_ok_iff.mp later
    cases first.symm.trans highValue
    cases second.symm.trans lowValue
    have restEven : rest.length % 2 = 0 := (Nat.add_mod_right rest.length 2).symm.trans even
    rw [ih restEven last, joinPairs, Option.map_some]
  | case6 c d rest clear broken =>
    obtain ⟨v, others, first, later, rfl⟩ := digitValues_cons_eq_ok_iff.mp read
    obtain ⟨w, more, second, -, rfl⟩ := digitValues_cons_eq_ok_iff.mp later
    exact (broken v w first second).elim

theorem readSpaced?_of_decode_eq_ok (decoded : decode text = .ok data) :
    readSpaced? text.toList = some data := by
  obtain ⟨even, values, read, rfl⟩ := decode_eq_ok_iff.mp decoded
  rw [← String.length_toList] at even
  exact readSpaced?_of_digitValues even read

theorem length_of_renders (renders : Renders text data) : text.length = 2 * data.length := by
  rw [← String.length_toList, ← length_encodeChars, ← renders, List.length_map]

/-- Text is read exactly when it has an even number of characters and all are digits, and else it is
refused for its length or for the first other character. It is read as the bytes, half as many,
whose hexadecimal form it is in lower case; the reader that skips blanks reads it as the same. -/
theorem decode_exactly_digits (text : String) :
    ((∃ data, decode text = .ok data) ↔ text.length % 2 = 0 ∧ ∀ c ∈ text.toList, IsDigit c) ∧
    (∀ failure, decode text = .error failure ↔ Refused text failure) ∧
    (∀ data, decode text = .ok data ↔ text.toLower = encode data) ∧
    ∀ data, decode text = .ok data →
      data.length = text.length / 2 ∧ readSpaced? text.toList = some data := by
  refine ⟨?_, fun _ => decode_eq_error_iff, ?_, ?_⟩
  · rw [← exists_digitValues_iff 0]
    constructor
    · rintro ⟨data, decoded⟩
      obtain ⟨even, values, read, -⟩ := decode_eq_ok_iff.mp decoded
      exact ⟨even, values, read⟩
    · rintro ⟨even, values, read⟩
      exact ⟨joinPairs values, decode_of_values even read⟩
  · exact fun data => decode_eq_ok_iff_renders.trans renders_iff
  · intro data decoded
    have size := length_of_renders (decode_eq_ok_iff_renders.mp decoded)
    exact ⟨by omega, readSpaced?_of_decode_eq_ok decoded⟩

/-- Only the other reader takes blanks. -/
example : readSpaced? [' ', '0', 'a', '\n'] = some [10] ∧
    decode " 0a\n" = .error (.badHex 0 ' ') := ⟨rfl, rfl⟩

end KeyExport.Hex
