import KeyExport.Proofs.Coordinates
import KeyExport.Proofs.Curve.P256

set_option autoImplicit false

/-!
# Private keys

A private key of P-256 is a scalar below the order of the generator, written in 32 bytes. Its public
point is on the curve, so that it passes the check and fits into a token. The order is prime, and so
the multiples of the generator below it are different points: a public point tells its scalar.
-/

namespace KeyExport

namespace Curve.Scalar

theorem eq_of_value_eq {c : Curve} {d e : c.Scalar} (same : d.value = e.value) : d = e := by
  cases d
  cases e
  simpa using same

theorem point_injective : Function.Injective (point (c := p256)) := by
  intro d e same
  -- Below the order of the generator its multiples are told apart.
  have below (s : p256.Scalar) : s.value ∈ Set.Iio (addOrderOf base) := by
    rw [addOrderOf_base]
    exact s.below
  rw [point_eq_ofGroup, point_eq_ofGroup] at same
  exact eq_of_value_eq
    (nsmul_injOn_Iio_addOrderOf (below d) (below e) (Point.ofGroup_injective same))

end Curve.Scalar

namespace PrivateKey

variable {key : PrivateKey} {data : Bytes} {d e : Curve.p256.Scalar}

/-- The length of the bytes is looked at before the range of the scalar. -/
theorem decode_cases (data : Bytes) :
    data.length ≠ Sizes.scalar ∧ decode data = .error (.wrongSize .privateKey data.length) ∨
      data.length = Sizes.scalar ∧ ¬(1 ≤ data.toNat ∧ data.toNat < Curve.p256.order) ∧
        decode data = .error .scalarOutOfRange ∨
      ∃ e : Curve.p256.Scalar, data.length = Sizes.scalar ∧ e.value = data.toNat ∧
        decode data = .ok (ofScalar e) := by
  by_cases size : data.length = Sizes.scalar
  · by_cases inRange : 1 ≤ data.toNat ∧ data.toNat < Curve.p256.order
    · let e : Curve.p256.Scalar := ⟨data.toNat, inRange.1, inRange.2⟩
      have found : Curve.Scalar.ofNat? .p256 (FixedWidth.decode data) = some e := dif_pos inRange
      refine .inr (.inr ⟨e, size, rfl, ?_⟩)
      rw [decode, if_neg (not_not.mpr size), found]
    · have missing : Curve.Scalar.ofNat? .p256 (FixedWidth.decode data) = none := dif_neg inRange
      refine .inr (.inl ⟨size, inRange, ?_⟩)
      rw [decode, if_neg (not_not.mpr size), missing]
  · exact .inl ⟨size, if_pos size⟩

theorem exists_decode_iff : (∃ key, decode data = .ok key) ↔
    data.length = Sizes.scalar ∧ 1 ≤ data.toNat ∧ data.toNat < Curve.p256.order := by
  rcases decode_cases data with
    ⟨wrong, refused⟩ | ⟨-, outside, refused⟩ | ⟨e, size, value, accepted⟩
  · simp [refused, wrong]
  · simp [refused, outside]
  · have inRange : 1 ≤ data.toNat ∧ data.toNat < Curve.p256.order := value ▸ ⟨e.positive, e.below⟩
    simp [accepted, size, inRange]

theorem cases_of_decode_eq_error {failure : Failure} (h : decode data = .error failure) :
    data.length ≠ Sizes.scalar ∧ failure = .wrongSize .privateKey data.length ∨
      data.length = Sizes.scalar ∧ ¬(1 ≤ data.toNat ∧ data.toNat < Curve.p256.order) ∧
        failure = .scalarOutOfRange := by
  rcases decode_cases data with
    ⟨wrong, refused⟩ | ⟨size, outside, refused⟩ | ⟨e, -, -, accepted⟩
  · rw [refused] at h
    cases h
    exact .inl ⟨wrong, rfl⟩
  · rw [refused] at h
    cases h
    exact .inr ⟨size, outside, rfl⟩
  · rw [accepted] at h
    cases h

/-- What is accepted are the bytes of a scalar of P-256. -/
theorem exists_scalar_of_decode_eq_ok (h : decode data = .ok key) :
    ∃ e : Curve.p256.Scalar, key = ofScalar e ∧ e.value = data.toNat ∧
      data.length = Sizes.scalar := by
  rcases decode_cases data with ⟨-, refused⟩ | ⟨-, -, refused⟩ | ⟨e, size, value, accepted⟩
  · rw [refused] at h
    cases h
  · rw [refused] at h
    cases h
  · rw [accepted] at h
    cases h
    exact ⟨e, rfl, value, size⟩

theorem decode_ofNat (e : Curve.p256.Scalar) :
    decode (Bytes.ofNat Sizes.scalar e.value) = .ok (ofScalar e) := by
  have fits : e.value < 256 ^ Sizes.scalar := e.below.trans (by decide)
  rw [decode, if_neg (not_not.mpr (Bytes.length_ofNat _ _)), FixedWidth.decode_ofNat fits,
    Curve.Scalar.ofNat?_eq_some_iff.mpr rfl]

theorem publicCoordinates_ofScalar {u v : Curve.p256.Field} (point : e.point = .affine u v) :
    (ofScalar e).publicCoordinates = ⟨u.val, v.val⟩ := by
  have coordinates : e.point.coordinates? = some ⟨u.val, v.val⟩ := by
    rw [point, Curve.Point.coordinates?_affine]
  simp only [publicCoordinates, ofScalar]
  exact congrArg (Option.getD · ⟨0, 0⟩) coordinates

theorem check_publicCoordinates (e : Curve.p256.Scalar) :
    (ofScalar e).publicCoordinates.check = .ok (ofScalar e).publicCoordinates := by
  obtain ⟨u, v, point, onCurve⟩ := e.exists_point_eq
  rw [publicCoordinates_ofScalar point]
  exact Coordinates.check_val onCurve

/-- The public point is encoded, and read again from its code. -/
theorem exists_encode_publicCoordinates (e : Curve.p256.Scalar) :
    ∃ token, (ofScalar e).publicCoordinates.encode = .ok token ∧
      Coordinates.decode token = .ok (ofScalar e).publicCoordinates := by
  obtain ⟨token, encoded⟩ := Coordinates.exists_encode_of_check_eq_ok (check_publicCoordinates e)
  refine ⟨token, encoded, ?_⟩
  rw [Coordinates.decode_of_encode_eq_ok encoded, check_publicCoordinates]

/-- The public point is the multiple of the generator in the group of the curve. -/
theorem exists_nsmul_base_eq (e : Curve.p256.Scalar) :
    ∃ x y, Curve.Point.ofGroup (e.value • Curve.base) = .affine x y ∧
      (ofScalar e).publicCoordinates = ⟨x.val, y.val⟩ := by
  obtain ⟨x, y, point, -⟩ := e.exists_point_eq
  exact ⟨x, y, e.point_eq_ofGroup.symm.trans point, publicCoordinates_ofScalar point⟩

theorem eq_of_publicCoordinates_eq
    (same : (ofScalar d).publicCoordinates = (ofScalar e).publicCoordinates) : d = e := by
  obtain ⟨u, v, point, -⟩ := d.exists_point_eq
  obtain ⟨x, y, otherPoint, -⟩ := e.exists_point_eq
  rw [publicCoordinates_ofScalar point, publicCoordinates_ofScalar otherPoint,
    Coordinates.mk.injEq, Int.ofNat_inj, Int.ofNat_inj, Fin.val_inj, Fin.val_inj] at same
  obtain ⟨rfl, rfl⟩ := same
  exact Curve.Scalar.point_injective (point.trans otherPoint.symm)

end PrivateKey
end KeyExport
