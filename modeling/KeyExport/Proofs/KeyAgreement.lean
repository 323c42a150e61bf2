import KeyExport.KeyAgreement
import KeyExport.Proofs.Action
import KeyExport.Proofs.Curve.PrimeGroup
import KeyExport.Proofs.PrivateKey

set_option autoImplicit false

/-!
# Agreed secrets

What an exchange answers decides the outcome of an agreement once the point is valid
(`agree_apply`). A scalar of P-256 agrees with every valid point, and a key of another curve with
none. Two private keys agree on one secret, whichever of them meets the other's public point.
-/

namespace KeyExport

namespace PrivateKey

variable {key : PrivateKey} {peer : Curve.p256.Point} {secret : Bytes}

/-- Only keys of P-256 take part in an exchange. -/
theorem exists_ofScalar_of_exchange_eq_ok (h : key.exchange peer = .ok secret) :
    ∃ e, key = ofScalar e := by
  rcases key with ⟨curve, scalar⟩
  cases curve with
  | p256 => exact ⟨scalar, rfl⟩
  | p224 => cases h
  | k256 => cases h
  | p384 => cases h
  | p521 => cases h

end PrivateKey

namespace KeyAgreement

theorem closed_attempt (exchange : Exchange) (point : Coordinates) :
    (attempt exchange point).Closed := by
  unfold attempt
  split
  · exact Action.closed_pure _
  · exact Action.closed_compute _ _

/-- An attempt hands the fault of an exchange on as a value. -/
theorem failsWithin_attempt {allowed : Failure → Prop} (exchange : Exchange) (point : Coordinates) :
    (attempt exchange point).FailsWithin allowed := by
  unfold attempt
  split
  · exact Action.failsWithin_pure _
  · exact Action.failsWithin_compute _ _

theorem closed_settle (answer : Except Fault Bytes) : (settle answer).Closed := by
  unfold settle
  split
  · split
    · exact Action.closed_pure _
    · exact Action.closed_fail _
  · split
    · exact (Action.closed_log _).bind fun _ => Action.closed_fail _
    · exact Action.closed_fail _

theorem closed_agree (exchange : Exchange) (point : Coordinates) :
    (agree exchange point).Closed := by
  rw [agree]
  exact (Action.closed_ofExcept _).bind fun _ =>
    (closed_attempt _ _).bind fun _ => closed_settle _

theorem agree_of_check_eq_error (exchange : Exchange) {point : Coordinates} {failure : Failure}
    (refused : point.check = .error failure) : agree exchange point = .fail failure := by
  rw [agree, refused, Action.ofExcept_error_bind]

/-- A valid point meets the exchange, and its answer is settled. -/
theorem agree_apply (exchange : Exchange) {x y : Curve.p256.Field}
    (onCurve : (Curve.Point.affine x y).OnCurve) (source : Source) :
    agree exchange ⟨x.val, y.val⟩ source =
      ⟨(settle (exchange (.affine x y)) source).result,
        .computed .exchange :: (settle (exchange (.affine x y)) source).events⟩ := by
  have attempted : attempt exchange ⟨x.val, y.val⟩ =
      .compute .exchange (exchange (.affine x y)) := by
    rw [attempt, Coordinates.toPoint_val onCurve]
  rw [agree, Coordinates.check_val onCurve, Action.ofExcept_ok_bind, attempted,
    Action.compute_bind_apply]

theorem eq_ok_of_settle_eq_ok {answer : Except Fault Bytes} {source : Source} {secret : Bytes}
    {events : List Event} (h : settle answer source = ⟨.ok secret, events⟩) :
    answer = .ok secret := by
  cases answer with
  | ok value =>
    by_cases size : value.length = Sizes.secret
    · rw [settle, if_pos size] at h
      cases h
      rfl
    · rw [settle, if_neg size] at h
      cases h
  | error fault =>
    by_cases refused : fault.category = .invalidValue
    · rw [settle, if_pos refused] at h
      cases h
    · rw [settle, if_neg refused] at h
      cases h

/-- An agreed secret is what the exchange answered. -/
theorem exists_of_agree_eq_ok {exchange : Exchange} {point : Coordinates} {source : Source}
    {secret : Bytes} {events : List Event}
    (h : agree exchange point source = ⟨.ok secret, events⟩) :
    ∃ peer, exchange peer = .ok secret := by
  rw [agree] at h
  obtain ⟨q, -, h⟩ := Action.ofExcept_bind_eq_ok h
  obtain ⟨answer, _, _, attempted, settled, -⟩ := Action.exists_of_bind_ok h
  cases eq_ok_of_settle_eq_ok settled
  cases imported : q.toPoint with
  | error fault =>
    rw [attempt, imported] at attempted
    cases attempted
  | ok peer =>
    rw [attempt, imported] at attempted
    exact ⟨peer, Except.ok.inj (congrArg Outcome.result attempted)⟩

theorem settle_ok {secret : Bytes} (size : secret.length = Sizes.secret) :
    settle (.ok secret) = pure secret := by
  rw [settle, if_pos size]

theorem exchange_ofScalar (e : Curve.p256.Scalar) {peer : Curve.p256.Point}
    {u v : Curve.p256.Field} (product : .multiple e.value peer = Curve.Point.affine u v) :
    (PrivateKey.ofScalar e).exchange peer = .ok (Bytes.ofNat Sizes.coordinate u.val) := by
  simp only [PrivateKey.ofScalar, PrivateKey.exchange, product,
    Curve.Point.coordinates?_affine, Int.toNat_natCast]

/-- A scalar agrees with every valid point with which it has a finite product. -/
theorem agree_ofScalar (e : Curve.p256.Scalar) {x y u v : Curve.p256.Field}
    (onCurve : (Curve.Point.affine x y).OnCurve)
    (product : .multiple e.value (.affine x y) = Curve.Point.affine u v) (source : Source) :
    agree (PrivateKey.ofScalar e).exchange ⟨x.val, y.val⟩ source =
      ⟨.ok (Bytes.ofNat Sizes.coordinate u.val), [.computed .exchange]⟩ := by
  have size : (Bytes.ofNat Sizes.coordinate u.val).length = Sizes.secret := Bytes.length_ofNat _ _
  rw [agree_apply _ onCurve, exchange_ofScalar e product, settle_ok size]
  rfl

theorem agreeUsing_serialized {data : Bytes} {key : PrivateKey}
    (decoded : PrivateKey.decode data = .ok key) (point : Coordinates) :
    agreeUsing (.serialized data) point = agree key.exchange point := by
  rw [agreeUsing, KeyMaterial.decode, decoded, Action.ofExcept_ok_bind]

theorem agree_publicCoordinates {e f : Curve.p256.Scalar} {u v : Curve.p256.Field}
    (product : .multiple e.value f.point = Curve.Point.affine u v) (source : Source) :
    agree (PrivateKey.ofScalar e).exchange (PrivateKey.ofScalar f).publicCoordinates source =
      ⟨.ok (Bytes.ofNat Sizes.coordinate u.val), [.computed .exchange]⟩ := by
  obtain ⟨x, y, point, onCurve⟩ := f.exists_point_eq
  rw [point] at product
  rw [PrivateKey.publicCoordinates_ofScalar point]
  exact agree_ofScalar e onCurve product source

/-- Two serialized private keys agree on one secret, from whichever side it is computed: 32 bytes,
the abscissa of the product of both scalars with the generator. -/
theorem agreeUsing_comm {a b : Bytes} {k l : PrivateKey} (first : PrivateKey.decode a = .ok k)
    (second : PrivateKey.decode b = .ok l) :
    ∃ (secret : Bytes) (x y : Curve.p256.Field),
      (∀ source, agreeUsing (.serialized a) l.publicCoordinates source =
        ⟨.ok secret, [.computed .exchange]⟩) ∧
      (∀ source, agreeUsing (.serialized b) k.publicCoordinates source =
        ⟨.ok secret, [.computed .exchange]⟩) ∧
      secret.length = 32 ∧
      Curve.Point.ofGroup ((a.toNat * b.toNat) • Curve.base) = .affine x y ∧
      FixedWidth.encode x.val 32 = .ok secret := by
  obtain ⟨e, rfl, eValue, -⟩ := PrivateKey.exists_scalar_of_decode_eq_ok first
  obtain ⟨f, rfl, fValue, -⟩ := PrivateKey.exists_scalar_of_decode_eq_ok second
  obtain ⟨x, y, product, -⟩ := e.exists_multiple_point_eq f
  have mirrored : .multiple f.value e.point = Curve.Point.affine x y := by
    rw [← Curve.Scalar.multiple_point_comm, product]
  refine ⟨Bytes.ofNat Sizes.coordinate x.val, x, y, ?_, ?_, Bytes.length_ofNat _ _, ?_, ?_⟩
  · intro source
    rw [agreeUsing_serialized first, agree_publicCoordinates product]
  · intro source
    rw [agreeUsing_serialized second, agree_publicCoordinates mirrored]
  · rw [← eValue, ← fValue, ← Curve.Scalar.multiple_point, product]
  · exact FixedWidth.encode_natCast (Coordinates.val_lt x)

/-- The two ends of the range of scalars. -/
theorem agreeUsing_comm_one_last :
    PrivateKey.decode (Bytes.ofNat 32 1) = .ok (.ofScalar .one) ∧
      PrivateKey.decode (Bytes.ofNat 32 (Curve.p256.order - 1)) = .ok (.ofScalar .last) ∧
      ∃ (secret : Bytes) (x y : Curve.p256.Field),
        (∀ source, agreeUsing (.serialized (Bytes.ofNat 32 1))
            (PrivateKey.ofScalar .last).publicCoordinates source =
          ⟨.ok secret, [.computed .exchange]⟩) ∧
        (∀ source, agreeUsing (.serialized (Bytes.ofNat 32 (Curve.p256.order - 1)))
            (PrivateKey.ofScalar .one).publicCoordinates source =
          ⟨.ok secret, [.computed .exchange]⟩) ∧
        secret.length = 32 ∧
        Curve.Point.ofGroup (((Bytes.ofNat 32 1).toNat *
          (Bytes.ofNat 32 (Curve.p256.order - 1)).toNat) • Curve.base) = .affine x y ∧
        FixedWidth.encode x.val 32 = .ok secret := by
  have first : PrivateKey.decode (Bytes.ofNat 32 1) = .ok (.ofScalar .one) :=
    PrivateKey.decode_ofNat .one
  have second : PrivateKey.decode (Bytes.ofNat 32 (Curve.p256.order - 1)) =
      .ok (.ofScalar .last) := PrivateKey.decode_ofNat .last
  exact ⟨first, second, agreeUsing_comm first second⟩

end KeyAgreement
end KeyExport
