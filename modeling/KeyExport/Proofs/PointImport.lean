import KeyExport.Proofs.KeyAgreement

set_option autoImplicit false

/-!
# Importing points

The check and the import of coordinates look at one curve equation, which knows integers only up to
the modulus. The check also asks for reduced coordinates, while the import asks that they are not
negative and reduces them. So what passes the check is imported as it is, and with a key of P-256 a
key agreement fails for a point in no other way than the check does.
-/

namespace KeyExport

namespace Coordinates

variable {c : Curve} {q r : Coordinates}

theorem onCurve_congr (x : q.x % c.modulus = r.x % c.modulus)
    (y : q.y % c.modulus = r.y % c.modulus) : q.OnCurve c ↔ r.OnCurve c := by
  rw [onCurve_iff, onCurve_iff, (Curve.reduce_eq_iff _ _).mpr x, (Curve.reduce_eq_iff _ _).mpr y]

theorem reduced_emod (c : Curve) (value : Int) : Reduced c (value % c.modulus) := by
  have positive := Int.natCast_pos.mpr c.positive
  exact ⟨Int.emod_nonneg _ positive.ne', Int.emod_lt_of_pos _ positive⟩

theorem emod_eq_self_iff (value : Int) : value % c.modulus = value ↔ Reduced c value := by
  constructor
  · intro same
    rw [← same]
    exact reduced_emod c value
  · rintro ⟨nonneg, below⟩
    exact Int.emod_eq_of_lt nonneg below

/-- Both numbers modulo the prime of P-256. -/
def residues (q : Coordinates) : Coordinates :=
  ⟨q.x % Curve.p256.modulus, q.y % Curve.p256.modulus⟩

theorem residues_eq_self_iff :
    q.residues = q ↔ Reduced .p256 q.x ∧ Reduced .p256 q.y := by
  rcases q with ⟨x, y⟩
  simp only [residues, Coordinates.mk.injEq, emod_eq_self_iff]

theorem onCurve_residues_iff : q.residues.OnCurve .p256 ↔ q.OnCurve .p256 :=
  onCurve_congr (Int.emod_emod _ _) (Int.emod_emod _ _)

theorem check_residues (onCurve : q.OnCurve .p256) : q.residues.check = .ok q.residues :=
  (check_eq_ok_iff _ _).mpr
    ⟨rfl, reduced_emod _ _, reduced_emod _ _, onCurve_residues_iff.mpr onCurve⟩

theorem residues_eq_self_iff_check (onCurve : q.OnCurve .p256) :
    q.residues = q ↔ q.check = .ok q := by
  rw [residues_eq_self_iff, check_eq_ok_iff]
  simp [onCurve]

theorem toPoint_of_negative (negative : q.x < 0 ∨ q.y < 0) :
    q.toPoint = .error ⟨.invalidValue, "coordinates must not be negative"⟩ :=
  if_pos negative

theorem toPoint_of_off_curve (nonneg : ¬(q.x < 0 ∨ q.y < 0)) (off : ¬q.OnCurve .p256) :
    q.toPoint = .error ⟨.invalidValue, "point is not on the curve"⟩ := by
  rw [toPoint, if_neg nonneg, if_pos off]

/-- Only negative numbers and pairs off the curve are refused, and what is imported is reduced. -/
theorem toPoint_cases (q : Coordinates) :
    ¬(0 ≤ q.x ∧ 0 ≤ q.y ∧ q.OnCurve .p256) ∧
        (∃ fault, q.toPoint = .error fault ∧ fault.category = .invalidValue) ∨
      (0 ≤ q.x ∧ 0 ≤ q.y ∧ q.OnCurve .p256) ∧
        ∃ point, q.toPoint = .ok point ∧ point.coordinates? = some q.residues := by
  by_cases negative : q.x < 0 ∨ q.y < 0
  · exact .inl ⟨by omega, _, toPoint_of_negative negative, rfl⟩
  · by_cases onCurve : q.OnCurve .p256
    · refine .inr ⟨⟨by omega, by omega, onCurve⟩, _, toPoint_of_onCurve negative onCurve, ?_⟩
      simp only [Curve.Point.coordinates?_affine, Curve.val_reduce, residues]
    · exact .inl ⟨fun within => onCurve within.2.2, _, toPoint_of_off_curve negative onCurve, rfl⟩

theorem exists_toPoint_iff :
    (∃ point, q.toPoint = .ok point) ↔ 0 ≤ q.x ∧ 0 ≤ q.y ∧ q.OnCurve .p256 := by
  rcases q.toPoint_cases with ⟨outside, fault, refused, -⟩ | ⟨within, point, imported, -⟩
  · simp [refused, outside]
  · simp [imported, within]

theorem category_of_toPoint_eq_error {fault : Fault} (refused : q.toPoint = .error fault) :
    fault.category = .invalidValue := by
  rcases q.toPoint_cases with ⟨-, other, reason, kind⟩ | ⟨-, point, imported, -⟩
  · rw [reason] at refused
    cases refused
    exact kind
  · rw [imported] at refused
    cases refused

theorem coordinates?_of_toPoint_eq_ok {point : Curve.p256.Point} (h : q.toPoint = .ok point) :
    point.coordinates? = some q.residues := by
  rcases q.toPoint_cases with ⟨-, fault, refused, -⟩ | ⟨-, other, imported, coordinates⟩
  · rw [refused] at h
    cases h
  · rw [imported] at h
    cases h
    exact coordinates

/-- What passes the check is imported as it is. -/
theorem exists_toPoint_of_check (checked : q.check = .ok q) :
    ∃ point, q.toPoint = .ok point ∧ point.coordinates? = some q := by
  obtain ⟨-, reducedX, reducedY, onCurve⟩ := (check_eq_ok_iff q q).mp checked
  obtain ⟨point, imported⟩ := exists_toPoint_iff.mpr ⟨reducedX.1, reducedY.1, onCurve⟩
  refine ⟨point, imported, ?_⟩
  rw [coordinates?_of_toPoint_eq_ok imported, residues_eq_self_iff.mpr ⟨reducedX, reducedY⟩]

end Coordinates

namespace KeyAgreement

/-- A key of P-256 agrees with every point that passes the check, and otherwise the agreement fails
as the check does, before anything has happened. -/
theorem agree_ofScalar_cases (e : Curve.p256.Scalar) (q : Coordinates) (source : Source) :
    (∃ failure, q.check = .error failure ∧
        agree (PrivateKey.ofScalar e).exchange q source = ⟨.error failure, []⟩) ∨
      q.check = .ok q ∧ ∃ secret,
        agree (PrivateKey.ofScalar e).exchange q source = ⟨.ok secret, [.computed .exchange]⟩ := by
  cases checked : q.check with
  | error failure =>
    exact .inl ⟨failure, rfl, by simp [agree_of_check_eq_error _ checked]⟩
  | ok r =>
    obtain ⟨x, y, rfl, onCurve⟩ := Coordinates.exists_val_of_check_eq_ok checked
    -- The product is not at infinity, because the order of the group is a prime above the scalar.
    obtain ⟨u, v, product, -⟩ := e.exists_multiple_affine_eq onCurve
    refine .inr ⟨?_, _, agree_ofScalar e onCurve product source⟩
    rw [← checked, Coordinates.check_val onCurve]

/-- No point makes a key of P-256 meet a refusal. -/
theorem agree_ofScalar_ne_refused (e : Curve.p256.Scalar) (q : Coordinates) (source : Source)
    (text : String) (events : List Event) :
    agree (PrivateKey.ofScalar e).exchange q source ≠
      ⟨.error (.agreementRefused text), events⟩ := by
  intro refused
  rcases agree_ofScalar_cases e q source with
    ⟨failure, checked, outcome⟩ | ⟨-, secret, outcome⟩
  · rw [outcome] at refused
    cases refused
    rcases q.check_cases with ⟨-, other⟩ | ⟨-, -, other⟩ | ⟨-, -, -, other⟩ | ⟨-, -, -, other⟩ <;>
      cases checked.symm.trans other
  · rw [outcome] at refused
    cases refused

end KeyAgreement

/-- The curve equation looks at its two numbers modulo the prime only. Numbers are imported exactly
when they are not negative and satisfy it. What comes out are the two numbers modulo the prime,
which always pass the check, and they are the ones that went in exactly when those pass it. So no
point that passes the check is refused or changed by the import, and a key of P-256 never meets a
refusal: a key agreement with it fails as the check does, or gives a secret. -/
theorem Coordinates.import_exact :
    (∀ q r : Coordinates, q.x % Curve.p256.modulus = r.x % Curve.p256.modulus →
      q.y % Curve.p256.modulus = r.y % Curve.p256.modulus →
        (q.OnCurve .p256 ↔ r.OnCurve .p256)) ∧
      ∀ q : Coordinates,
        (q.OnCurve .p256 ↔
          q.y ^ 2 ≡ q.x ^ 3 - 3 * q.x + Curve.p256.b [ZMOD Curve.p256.modulus]) ∧
        ((∃ point, q.toPoint = .ok point) ↔ 0 ≤ q.x ∧ 0 ≤ q.y ∧ q.OnCurve .p256) ∧
        (∀ fault, q.toPoint = .error fault → fault.category = .invalidValue) ∧
        (∀ point, q.toPoint = .ok point → point.coordinates? = some q.residues ∧
          q.residues.check = .ok q.residues ∧ (q.residues = q ↔ q.check = .ok q)) ∧
        (q.check = .ok q → ∃ point, q.toPoint = .ok point ∧ point.coordinates? = some q) ∧
        ∀ (e : Curve.p256.Scalar) (source : Source),
          ((∃ failure, q.check = .error failure ∧
              KeyAgreement.agree (PrivateKey.ofScalar e).exchange q source =
                ⟨.error failure, []⟩) ∨
            q.check = .ok q ∧ ∃ secret,
              KeyAgreement.agree (PrivateKey.ofScalar e).exchange q source =
                ⟨.ok secret, [.computed .exchange]⟩) ∧
          ∀ text events, KeyAgreement.agree (PrivateKey.ofScalar e).exchange q source ≠
            ⟨.error (.agreementRefused text), events⟩ := by
  refine ⟨fun q r => onCurve_congr, fun q => ⟨onCurve_p256_iff q, exists_toPoint_iff,
    fun _ => category_of_toPoint_eq_error, ?_, exists_toPoint_of_check, ?_⟩⟩
  · intro point imported
    obtain ⟨-, -, onCurve⟩ := exists_toPoint_iff.mp ⟨point, imported⟩
    exact ⟨coordinates?_of_toPoint_eq_ok imported, check_residues onCurve,
      residues_eq_self_iff_check onCurve⟩
  · intro e source
    exact ⟨KeyAgreement.agree_ofScalar_cases e q source,
      KeyAgreement.agree_ofScalar_ne_refused e q source⟩

end KeyExport
