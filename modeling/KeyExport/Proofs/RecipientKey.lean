import KeyExport.Proofs.Coordinates
import KeyExport.RecipientKey
import Mathlib.Data.Set.Function

set_option autoImplicit false

/-!
# Recipient keys

A serialized recipient key is cut once, behind the key id. It is accepted exactly when it has the
right length and the two numbers behind the key id name a point of P-256, and every valid key has
one serialized form and no other.
-/

namespace KeyExport.RecipientKey

variable {key : RecipientKey} {data : Bytes}

/-- Four bytes of key id, and a point that passes the check. -/
structure Valid (key : RecipientKey) : Prop where
  keyId : key.keyId.length = Sizes.keyId
  point : key.point.check = .ok key.point

/-- What stands in the places of the key id and of the two coordinates. -/
def written (data : Bytes) : RecipientKey :=
  ⟨data.take Sizes.keyId, .written (data.drop Sizes.keyId)⟩

theorem decode_of_wrong_size (wrong : data.length ≠ Sizes.publicKey) :
    decode data = .error (.wrongSize .publicKey data.length) :=
  if_pos wrong

theorem length_point (size : data.length = Sizes.publicKey) :
    (data.drop Sizes.keyId).length = Sizes.point := by
  rw [List.length_drop, size]
  rfl

/-- With the right length, only the point is left to be checked. -/
theorem decode_of_size (size : data.length = Sizes.publicKey) :
    decode data = (written data).point.check.map fun q => ⟨data.take Sizes.keyId, q⟩ := by
  rw [decode, if_neg (not_not.mpr size), Coordinates.decode_of_size (length_point size), written]
  cases (Coordinates.written (data.drop Sizes.keyId)).check <;> rfl

theorem decode_eq_ok_iff : decode data = .ok key ↔
    data.length = Sizes.publicKey ∧ key = written data ∧ key.point.check = .ok key.point := by
  by_cases size : data.length = Sizes.publicKey
  · rw [decode_of_size size, and_iff_right size]
    cases check : (written data).point.check with
    | error failure =>
      constructor
      · intro h
        cases h
      · rintro ⟨rfl, accepted⟩
        rw [check] at accepted
        cases accepted
    | ok q =>
      obtain ⟨rfl, -⟩ := (Coordinates.check_eq_ok_iff _ _).mp check
      constructor
      · intro h
        cases h
        exact ⟨rfl, check⟩
      · rintro ⟨rfl, -⟩
        rfl
  · rw [decode_of_wrong_size size]
    constructor
    · intro h
      cases h
    · rintro ⟨right, -⟩
      exact absurd right size

theorem valid_of_decode_eq_ok (h : decode data = .ok key) : key.Valid := by
  obtain ⟨size, rfl, check⟩ := decode_eq_ok_iff.mp h
  refine ⟨?_, check⟩
  rw [written, List.length_take, size]
  rfl

theorem encode_eq_ok_iff : key.encode = .ok data ↔
    ∃ point, key.point.encode = .ok point ∧ data = key.keyId ++ point := by
  unfold encode
  cases key.point.encode with
  | error failure =>
    constructor
    · intro h
      cases h
    · rintro ⟨point, h, -⟩
      cases h
  | ok point =>
    constructor
    · intro h
      cases h
      exact ⟨point, rfl, rfl⟩
    · rintro ⟨_, h, rfl⟩
      cases h
      rfl

/-- Reading loses nothing. -/
theorem encode_of_decode_eq_ok (h : decode data = .ok key) : key.encode = .ok data := by
  obtain ⟨size, rfl, -⟩ := decode_eq_ok_iff.mp h
  exact encode_eq_ok_iff.mpr
    ⟨_, Coordinates.encode_written (length_point size), (List.take_append_drop _ _).symm⟩

/-- With a key id of the right length, reading an encoded key checks its point, and does nothing
else. -/
theorem decode_of_encode_eq_ok (keyIdSize : key.keyId.length = Sizes.keyId)
    (h : key.encode = .ok data) :
    decode data = key.point.check.map fun q => ⟨key.keyId, q⟩ := by
  obtain ⟨point, encoded, rfl⟩ := encode_eq_ok_iff.mp h
  have size : (key.keyId ++ point).length = Sizes.publicKey := by
    rw [List.length_append, keyIdSize, Coordinates.length_of_encode_eq_ok encoded]
    rfl
  rw [decode, if_neg (not_not.mpr size), List.take_left' keyIdSize, List.drop_left' keyIdSize,
    Coordinates.decode_of_encode_eq_ok encoded]
  cases key.point.check <;> rfl

/-- With any other key id an encoded key is refused for its length, so that no byte of the key id
is taken for one of the point. -/
theorem decode_of_encode_of_wrong_keyId (wrong : key.keyId.length ≠ Sizes.keyId)
    (h : key.encode = .ok data) :
    decode data = .error (.wrongSize .publicKey (key.keyId.length + Sizes.point)) := by
  obtain ⟨point, encoded, rfl⟩ := encode_eq_ok_iff.mp h
  have size : (key.keyId ++ point).length = key.keyId.length + Sizes.point := by
    rw [List.length_append, Coordinates.length_of_encode_eq_ok encoded]
  rw [← size]
  apply decode_of_wrong_size
  rw [size, Sizes.publicKey]
  omega

/-- Only a valid key survives being encoded and read, and it survives unchanged. -/
theorem decode_encode_eq_ok_iff {read : RecipientKey} (h : key.encode = .ok data) :
    decode data = .ok read ↔ key.Valid ∧ read = key := by
  by_cases keyIdSize : key.keyId.length = Sizes.keyId
  · rw [decode_of_encode_eq_ok keyIdSize h]
    cases check : key.point.check with
    | error failure =>
      constructor
      · intro decoded
        cases decoded
      · rintro ⟨⟨-, accepted⟩, -⟩
        rw [check] at accepted
        cases accepted
    | ok q =>
      obtain ⟨rfl, -⟩ := (Coordinates.check_eq_ok_iff _ _).mp check
      constructor
      · intro decoded
        cases decoded
        exact ⟨⟨keyIdSize, check⟩, rfl⟩
      · rintro ⟨-, rfl⟩
        rfl
  · rw [decode_of_encode_of_wrong_keyId keyIdSize h]
    constructor
    · intro decoded
      cases decoded
    · rintro ⟨⟨right, -⟩, -⟩
      exact absurd right keyIdSize

theorem Valid.exists_encode (valid : key.Valid) :
    ∃ data, key.encode = .ok data ∧ decode data = .ok key := by
  obtain ⟨point, encoded⟩ := Coordinates.exists_encode_of_check_eq_ok valid.point
  have whole : key.encode = .ok (key.keyId ++ point) :=
    encode_eq_ok_iff.mpr ⟨point, encoded, rfl⟩
  exact ⟨_, whole, (decode_encode_eq_ok_iff whole).mpr ⟨valid, rfl⟩⟩

theorem decode_append {keyId : Bytes} (size : keyId.length = Sizes.keyId)
    {x y : Curve.p256.Field} (onCurve : (Curve.Point.affine x y).OnCurve) :
    decode (keyId ++ (Bytes.ofNat Sizes.coordinate x.val ++ Bytes.ofNat Sizes.coordinate y.val)) =
      .ok ⟨keyId, ⟨x.val, y.val⟩⟩ := by
  have encoded : encode ⟨keyId, ⟨x.val, y.val⟩⟩ = .ok (keyId ++
      (Bytes.ofNat Sizes.coordinate x.val ++ Bytes.ofNat Sizes.coordinate y.val)) :=
    encode_eq_ok_iff.mpr ⟨_, Coordinates.encode_val x y, rfl⟩
  exact (decode_encode_eq_ok_iff encoded).mpr ⟨⟨size, Coordinates.check_val onCurve⟩, rfl⟩

/-- Behind the key id, the coordinates take up all that is left. -/
theorem written_point_eq (size : data.length = Sizes.publicKey) : (written data).point =
    ⟨Bytes.toNat ((data.drop 4).take 32), Bytes.toNat ((data.drop 36).take 32)⟩ := by
  have whole : (data.drop 36).take 32 = data.drop 36 := by
    apply List.take_of_length_le
    rw [List.length_drop, size]
    decide
  rw [whole, written, Coordinates.written, List.drop_drop]
  rfl

theorem exists_decode_iff : (∃ key, decode data = .ok key) ↔ data.length = Sizes.publicKey ∧
    Coordinates.Reduced .p256 (written data).point.x ∧
    Coordinates.Reduced .p256 (written data).point.y ∧ (written data).point.OnCurve .p256 := by
  constructor
  · rintro ⟨key, h⟩
    obtain ⟨size, rfl, check⟩ := decode_eq_ok_iff.mp h
    exact ⟨size, ((Coordinates.check_eq_ok_iff _ _).mp check).2⟩
  · rintro ⟨size, valid⟩
    exact ⟨_, decode_eq_ok_iff.mpr
      ⟨size, rfl, (Coordinates.check_eq_ok_iff _ _).mpr ⟨rfl, valid⟩⟩⟩

/-- Of several faults the first is reported. -/
theorem cases_of_decode_eq_error {failure : Failure} (h : decode data = .error failure) :
    data.length ≠ Sizes.publicKey ∧ failure = .wrongSize .publicKey data.length ∨
      data.length = Sizes.publicKey ∧
        (¬Coordinates.Reduced .p256 (written data).point.x ∧ failure = .outOfRange .x ∨
          Coordinates.Reduced .p256 (written data).point.x ∧
            ¬Coordinates.Reduced .p256 (written data).point.y ∧ failure = .outOfRange .y ∨
          Coordinates.Reduced .p256 (written data).point.x ∧
            Coordinates.Reduced .p256 (written data).point.y ∧
            ¬(written data).point.OnCurve .p256 ∧ failure = .offCurve) := by
  by_cases size : data.length = Sizes.publicKey
  · refine .inr ⟨size, ?_⟩
    rw [decode_of_size size] at h
    rcases (written data).point.check_cases with
      ⟨x, check⟩ | ⟨x, y, check⟩ | ⟨x, y, off, check⟩ | ⟨-, -, -, check⟩
    · rw [check] at h
      cases h
      exact .inl ⟨x, rfl⟩
    · rw [check] at h
      cases h
      exact .inr (.inl ⟨x, y, rfl⟩)
    · rw [check] at h
      cases h
      exact .inr (.inr ⟨x, y, off, rfl⟩)
    · rw [check] at h
      cases h
  · rw [decode_of_wrong_size size] at h
    cases h
    exact .inl ⟨size, rfl⟩

theorem decode_ne_wrong_point_size (data : Bytes) (size : Nat) :
    decode data ≠ .error (.wrongSize .point size) := by
  intro h
  rcases cases_of_decode_eq_error h with
    ⟨-, h⟩ | ⟨-, ⟨-, h⟩ | ⟨-, -, h⟩ | ⟨-, -, -, h⟩⟩ <;> cases h

theorem bijOn_decode : Set.BijOn decode {data | ∃ key, decode data = .ok key}
    {result | ∃ key : RecipientKey, result = .ok key ∧ key.Valid} := by
  refine ⟨?_, ?_, ?_⟩
  · rintro data ⟨key, h⟩
    exact ⟨key, h, valid_of_decode_eq_ok h⟩
  · rintro data ⟨key, h⟩ other - same
    have first := encode_of_decode_eq_ok h
    have second := encode_of_decode_eq_ok (same ▸ h)
    rw [first] at second
    exact Except.ok.inj second
  · rintro _ ⟨key, rfl, valid⟩
    obtain ⟨data, -, h⟩ := valid.exists_encode
    exact ⟨data, ⟨key, h⟩, h⟩

/-- A serialized key is accepted exactly when it has 68 bytes and the numbers behind its key id are
below the modulus and on the curve. Nothing of it is lost then, and else the first fault is
reported. So there is one accepted form of every valid key. -/
theorem decode_canonical :
    (∀ data : Bytes,
      let p : Int := Curve.p256.modulus
      let x : Int := Bytes.toNat ((data.drop 4).take 32)
      let y : Int := Bytes.toNat ((data.drop 36).take 32)
      ((∃ key, decode data = .ok key) ↔ data.length = 68 ∧ (0 ≤ x ∧ x < p) ∧ (0 ≤ y ∧ y < p) ∧
        y ^ 2 ≡ x ^ 3 - 3 * x + Curve.p256.b [ZMOD p]) ∧
      (∀ key, decode data = .ok key → key.keyId = data.take 4 ∧ key.point = ⟨x, y⟩ ∧
        ∃ point, key.point.encode = .ok point ∧ key.keyId ++ point = data) ∧
      ∀ failure, decode data = .error failure →
        data.length ≠ 68 ∧ failure = .wrongSize .publicKey data.length ∧
            failure.report = .wrongLength .publicKeyLength "publicKey" 68 data.length none ∨
          data.length = 68 ∧ ¬(0 ≤ x ∧ x < p) ∧ failure = .outOfRange .x ∨
          data.length = 68 ∧ (0 ≤ x ∧ x < p) ∧ ¬(0 ≤ y ∧ y < p) ∧ failure = .outOfRange .y ∨
          data.length = 68 ∧ (0 ≤ x ∧ x < p) ∧ (0 ≤ y ∧ y < p) ∧
            ¬y ^ 2 ≡ x ^ 3 - 3 * x + Curve.p256.b [ZMOD p] ∧ failure = .offCurve) ∧
      (∀ data size, decode data ≠ .error (.wrongSize .point size)) ∧
      Set.BijOn decode {data | ∃ key, decode data = .ok key}
        {result | ∃ key : RecipientKey, result = .ok key ∧ key.Valid} := by
  refine ⟨?_, decode_ne_wrong_point_size, bijOn_decode⟩
  intro data p x y
  -- The curve equation is the one that the check uses, on the numbers behind the key id.
  have equation : (⟨x, y⟩ : Coordinates).OnCurve .p256 ↔
      y ^ 2 ≡ x ^ 3 - 3 * x + Curve.p256.b [ZMOD p] := Coordinates.onCurve_p256_iff _
  refine ⟨?_, ?_, ?_⟩
  · rw [← equation, exists_decode_iff]
    constructor
    · rintro ⟨size, valid⟩
      rw [written_point_eq size] at valid
      exact ⟨size, valid⟩
    · rintro ⟨size, valid⟩
      rw [written_point_eq size]
      exact ⟨size, valid⟩
  · intro key h
    obtain ⟨point, encoded, whole⟩ := encode_eq_ok_iff.mp (encode_of_decode_eq_ok h)
    obtain ⟨size, rfl, -⟩ := decode_eq_ok_iff.mp h
    exact ⟨rfl, written_point_eq size, point, encoded, whole.symm⟩
  · intro failure h
    rw [← equation]
    rcases cases_of_decode_eq_error h with ⟨size, rfl⟩ | ⟨size, faults⟩
    · exact .inl ⟨size, rfl, rfl⟩
    · rw [written_point_eq size] at faults
      rcases faults with ⟨x, rfl⟩ | ⟨x, y, rfl⟩ | ⟨x, y, off, rfl⟩
      · exact .inr (.inl ⟨size, x, rfl⟩)
      · exact .inr (.inr (.inl ⟨size, x, y, rfl⟩))
      · exact .inr (.inr (.inr ⟨size, x, y, off, rfl⟩))

end KeyExport.RecipientKey
