import KeyExport.Curve.Coordinates
import KeyExport.Proofs.FixedWidth
import Mathlib.Data.Int.ModEq
import Mathlib.Data.Set.Function
import Mathlib.Tactic.Ring

set_option autoImplicit false

/-!
# Coordinates of points

Reduction carries integers into the field of a curve, so that the curve equation on integers is
the one on reduced coordinates. The coordinates of a point on P-256 pass the check, fit their
width, and lead back to the point.
-/

namespace KeyExport

namespace Curve

variable {c : Curve}

theorem val_reduce (value : Int) : ((c.reduce value).val : Int) = value % c.modulus :=
  Int.toNat_of_nonneg (Int.emod_nonneg value (by have := c.positive; omega))

theorem field_ext_int {v w : c.Field} (h : (v.val : Int) = w.val) : v = w :=
  Fin.ext (Int.ofNat_inj.mp h)

theorem reduce_eq_iff (a b : Int) :
    c.reduce a = c.reduce b ↔ a % c.modulus = b % c.modulus := by
  rw [← val_reduce, ← val_reduce, Int.ofNat_inj, Fin.val_inj]

theorem reduce_add (a b : Int) : c.reduce (a + b) = c.reduce a + c.reduce b := by
  apply field_ext_int
  rw [Fin.val_add, Int.natCast_emod, Int.natCast_add, val_reduce, val_reduce, val_reduce,
    ← Int.add_emod]

theorem reduce_mul (a b : Int) : c.reduce (a * b) = c.reduce a * c.reduce b := by
  apply field_ext_int
  rw [Fin.val_mul, Int.natCast_emod, Int.natCast_mul, val_reduce, val_reduce, val_reduce,
    ← Int.mul_emod]

theorem reduce_natCast (n : Nat) : c.reduce n = Fin.ofNat c.modulus n := by
  apply field_ext_int
  rw [val_reduce, Fin.val_ofNat, Int.natCast_emod]

@[simp] theorem reduce_val (v : c.Field) : c.reduce v.val = v := by
  rw [reduce_natCast]
  exact Fin.ofNat_val_eq_self v

end Curve

namespace Coordinates

variable {c : Curve}

theorem onCurve_iff (q : Coordinates) :
    q.OnCurve c ↔ (Curve.Point.affine (c.reduce q.x) (c.reduce q.y)).OnCurve := by
  rw [OnCurve, ← Curve.reduce_eq_iff, Curve.Point.OnCurve]
  simp only [Curve.reduce_add, Curve.reduce_mul, Curve.reduce_natCast]

/-- On P-256 the coefficient of x is minus three. -/
theorem onCurve_p256_iff (q : Coordinates) : q.OnCurve .p256 ↔
    q.y ^ 2 ≡ q.x ^ 3 - 3 * q.x + Curve.p256.b [ZMOD Curve.p256.modulus] := by
  have a_eq : (Curve.p256.a : Int) = Curve.p256.modulus - 3 := by decide
  have left : q.y * q.y = q.y ^ 2 := by ring
  have right : (q.x * q.x + Curve.p256.a) * q.x + Curve.p256.b =
      q.x ^ 3 - 3 * q.x + Curve.p256.b + Curve.p256.modulus * q.x := by
    rw [a_eq]
    ring
  rw [OnCurve, left, right, Int.add_mul_emod_self_left]
  rfl

/-- The first fault of the coordinates decides the outcome. -/
theorem check_cases (q : Coordinates) :
    ¬Reduced .p256 q.x ∧ q.check = .error (.outOfRange .x) ∨
      Reduced .p256 q.x ∧ ¬Reduced .p256 q.y ∧ q.check = .error (.outOfRange .y) ∨
      Reduced .p256 q.x ∧ Reduced .p256 q.y ∧ ¬q.OnCurve .p256 ∧ q.check = .error .offCurve ∨
      Reduced .p256 q.x ∧ Reduced .p256 q.y ∧ q.OnCurve .p256 ∧ q.check = .ok q := by
  by_cases hx : Reduced .p256 q.x
  · by_cases hy : Reduced .p256 q.y
    · by_cases onCurve : q.OnCurve .p256
      · refine .inr (.inr (.inr ⟨hx, hy, onCurve, ?_⟩))
        rw [check, if_neg (not_not.mpr hx), if_neg (not_not.mpr hy),
          if_neg (not_not.mpr onCurve)]
      · refine .inr (.inr (.inl ⟨hx, hy, onCurve, ?_⟩))
        rw [check, if_neg (not_not.mpr hx), if_neg (not_not.mpr hy), if_pos onCurve]
    · refine .inr (.inl ⟨hx, hy, ?_⟩)
      rw [check, if_neg (not_not.mpr hx), if_pos hy]
  · exact .inl ⟨hx, if_pos hx⟩

theorem check_eq_ok_iff (q r : Coordinates) : q.check = .ok r ↔
    r = q ∧ Reduced .p256 q.x ∧ Reduced .p256 q.y ∧ q.OnCurve .p256 := by
  unfold check
  split <;> rename_i hx
  · simp [hx]
  · split <;> rename_i hy
    · simp [hy]
    · split <;> rename_i h
      · simp [h]
      · simp_all [eq_comm]

theorem reduced_val (v : c.Field) : Reduced c v.val :=
  ⟨Int.natCast_nonneg _, Int.ofNat_lt.mpr v.isLt⟩

variable {x y : Curve.p256.Field}

theorem check_val (h : (Curve.Point.affine x y).OnCurve) :
    check ⟨x.val, y.val⟩ = .ok ⟨x.val, y.val⟩ := by
  rw [check_eq_ok_iff]
  refine ⟨rfl, reduced_val x, reduced_val y, (onCurve_iff _).mpr ?_⟩
  simpa using h

/-- Checked coordinates are those of a point on the curve. -/
theorem exists_val_of_check_eq_ok {q r : Coordinates} (h : q.check = .ok r) :
    ∃ x y : Curve.p256.Field, q = ⟨x.val, y.val⟩ ∧ (Curve.Point.affine x y).OnCurve := by
  obtain ⟨-, ⟨xNonneg, xBelow⟩, ⟨yNonneg, yBelow⟩, onCurve⟩ := (check_eq_ok_iff q r).mp h
  refine ⟨Curve.p256.reduce q.x, Curve.p256.reduce q.y, ?_, (onCurve_iff q).mp onCurve⟩
  rw [Curve.val_reduce, Curve.val_reduce, Int.emod_eq_of_lt xNonneg xBelow,
    Int.emod_eq_of_lt yNonneg yBelow]

theorem toPoint_of_onCurve {q : Coordinates} (nonneg : ¬(q.x < 0 ∨ q.y < 0))
    (onCurve : q.OnCurve .p256) :
    q.toPoint = .ok (.affine (Curve.p256.reduce q.x) (Curve.p256.reduce q.y)) := by
  rw [toPoint, if_neg nonneg, if_neg (not_not.mpr onCurve)]

theorem toPoint_val (h : (Curve.Point.affine x y).OnCurve) :
    toPoint ⟨x.val, y.val⟩ = .ok (.affine x y) := by
  have onCurve : OnCurve .p256 ⟨x.val, y.val⟩ := (onCurve_iff _).mpr (by simpa using h)
  simpa using toPoint_of_onCurve (by simp) onCurve

/-- Whether there is room for the number in the place of a coordinate. -/
def Fits (value : Int) : Prop :=
  0 ≤ value ∧ value < 2 ^ 256

/-- How a number is refused for which there is none. -/
def misfit (value : Int) : Failure :=
  if value < 0 then .negativeValue
  else .tooWide (Binary.bitLength value.toNat) Sizes.coordinate

theorem Fits.toNat_lt {value : Int} (fits : Fits value) : value.toNat < 256 ^ Sizes.coordinate := by
  have width : 256 ^ Sizes.coordinate = 2 ^ 256 := by decide
  obtain ⟨-, below⟩ := fits
  omega

theorem Reduced.fits {value : Int} (reduced : Reduced .p256 value) : Fits value :=
  ⟨reduced.1, reduced.2.trans (by decide)⟩

theorem encode_coordinate_cases (value : Int) :
    ¬Fits value ∧ FixedWidth.encode value Sizes.coordinate = .error (misfit value) ∨
      Fits value ∧ FixedWidth.encode value Sizes.coordinate =
        .ok (Bytes.ofNat Sizes.coordinate value.toNat) := by
  have width : 256 ^ Sizes.coordinate = 2 ^ 256 := by decide
  simp only [Fits, misfit]
  rcases FixedWidth.encode_cases value Sizes.coordinate with
    ⟨short, -⟩ | ⟨-, negative, refused⟩ | ⟨-, nonneg, wide, refused⟩ | ⟨-, nonneg, fits, written⟩
  · exact absurd short (by decide)
  · exact .inl ⟨by omega, by rw [refused, if_pos negative]⟩
  · rw [Int.toNat_natCast, width] at wide
    exact .inl ⟨by omega, by rw [refused, if_neg (Int.not_lt.mpr nonneg), Int.toNat_natCast]⟩
  · rw [Int.toNat_natCast, width] at fits
    exact .inr ⟨by omega, written⟩

theorem category_misfit (value : Int) : (misfit value).category = .encoding := by
  unfold misfit
  split <;> rfl

/-- The first coordinate without room decides how the pair is refused. -/
theorem encode_cases (q : Coordinates) :
    ¬Fits q.x ∧ q.encode = .error (misfit q.x) ∨
      Fits q.x ∧ ¬Fits q.y ∧ q.encode = .error (misfit q.y) ∨
      Fits q.x ∧ Fits q.y ∧ q.encode = .ok
        (Bytes.ofNat Sizes.coordinate q.x.toNat ++ Bytes.ofNat Sizes.coordinate q.y.toNat) := by
  unfold encode
  rcases encode_coordinate_cases q.x with ⟨misfitX, x⟩ | ⟨fitsX, x⟩
  · exact .inl ⟨misfitX, by rw [x]; rfl⟩
  · rcases encode_coordinate_cases q.y with ⟨misfitY, y⟩ | ⟨fitsY, y⟩
    · exact .inr (.inl ⟨fitsX, misfitY, by rw [x, y]; rfl⟩)
    · exact .inr (.inr ⟨fitsX, fitsY, by rw [x, y]; rfl⟩)

theorem encode_natCast {a b : Nat} (ha : a < 256 ^ Sizes.coordinate)
    (hb : b < 256 ^ Sizes.coordinate) : encode ⟨a, b⟩ =
      .ok (Bytes.ofNat Sizes.coordinate a ++ Bytes.ofNat Sizes.coordinate b) := by
  rw [encode, FixedWidth.encode_natCast ha, FixedWidth.encode_natCast hb]
  rfl

/-- Only two numbers that fit are encoded, one behind the other. -/
theorem exists_of_encode_eq_ok {q : Coordinates} {data : Bytes} (h : q.encode = .ok data) :
    ∃ a b : Nat, q = ⟨a, b⟩ ∧ a < 256 ^ Sizes.coordinate ∧ b < 256 ^ Sizes.coordinate ∧
      data = Bytes.ofNat Sizes.coordinate a ++ Bytes.ofNat Sizes.coordinate b := by
  rcases q.encode_cases with ⟨-, refused⟩ | ⟨-, -, refused⟩ | ⟨fitsX, fitsY, written⟩
  · rw [refused] at h
    cases h
  · rw [refused] at h
    cases h
  · rw [written] at h
    cases h
    refine ⟨q.x.toNat, q.y.toNat, ?_, fitsX.toNat_lt, fitsY.toNat_lt, rfl⟩
    rw [Int.toNat_of_nonneg fitsX.1, Int.toNat_of_nonneg fitsY.1]

theorem length_of_encode_eq_ok {q : Coordinates} {data : Bytes} (h : q.encode = .ok data) :
    data.length = Sizes.point := by
  obtain ⟨a, b, -, -, -, rfl⟩ := exists_of_encode_eq_ok h
  rw [List.length_append, Bytes.length_ofNat, Bytes.length_ofNat, Sizes.point, Nat.two_mul]

/-- Reduced coordinates fit their width. -/
theorem exists_encode_of_check_eq_ok {q r : Coordinates} (h : q.check = .ok r) :
    ∃ data, q.encode = .ok data := by
  obtain ⟨-, reducedX, reducedY, -⟩ := (check_eq_ok_iff q r).mp h
  rcases q.encode_cases with ⟨misfit, -⟩ | ⟨-, misfit, -⟩ | ⟨-, -, written⟩
  · exact absurd reducedX.fits misfit
  · exact absurd reducedY.fits misfit
  · exact ⟨_, written⟩

/-- The numbers that stand in the places of the two coordinates. -/
def written (data : Bytes) : Coordinates :=
  ⟨FixedWidth.decode (data.take Sizes.coordinate), FixedWidth.decode (data.drop Sizes.coordinate)⟩

theorem decode_of_size {data : Bytes} (size : data.length = Sizes.point) :
    decode data = (written data).check :=
  if_neg (not_not.mpr size)

theorem written_of_encode_eq_ok {q : Coordinates} {data : Bytes} (h : q.encode = .ok data) :
    written data = q := by
  obtain ⟨a, b, rfl, aFits, bFits, rfl⟩ := exists_of_encode_eq_ok h
  have size : (Bytes.ofNat Sizes.coordinate a).length = Sizes.coordinate := Bytes.length_ofNat _ _
  rw [written, List.take_left' size, List.drop_left' size, FixedWidth.decode_ofNat aFits,
    FixedWidth.decode_ofNat bFits]

/-- Decoding what was encoded checks the coordinates, and does nothing else. -/
theorem decode_of_encode_eq_ok {q : Coordinates} {data : Bytes} (h : q.encode = .ok data) :
    decode data = q.check := by
  rw [decode_of_size (length_of_encode_eq_ok h), written_of_encode_eq_ok h]

/-- What is encoded says which coordinates they were. -/
theorem encode_injOn : Set.InjOn encode {q | ∃ data, q.encode = .ok data} := by
  rintro q ⟨data, first⟩ r - same
  have second : r.encode = .ok data := same ▸ first
  rw [← written_of_encode_eq_ok first, written_of_encode_eq_ok second]

theorem encode_written {data : Bytes} (size : data.length = Sizes.point) :
    (written data).encode = .ok data := by
  have frontSize : (data.take Sizes.coordinate).length = Sizes.coordinate := by
    rw [List.length_take, size]
    rfl
  have backSize : (data.drop Sizes.coordinate).length = Sizes.coordinate := by
    rw [List.length_drop, size]
    rfl
  have front := FixedWidth.encode_decode (data.take Sizes.coordinate)
  have back := FixedWidth.encode_decode (data.drop Sizes.coordinate)
  rw [frontSize] at front
  rw [backSize] at back
  rw [written, encode, front, back]
  exact congrArg Except.ok (List.take_append_drop Sizes.coordinate data)

/-- A coordinate has its width because the modulus does. -/
theorem val_lt (v : Curve.p256.Field) : v.val < 256 ^ Sizes.coordinate :=
  v.isLt.trans (by decide)

theorem encode_val (x y : Curve.p256.Field) : encode ⟨x.val, y.val⟩ =
    .ok (Bytes.ofNat Sizes.coordinate x.val ++ Bytes.ofNat Sizes.coordinate y.val) :=
  encode_natCast (val_lt x) (val_lt y)

/-- A pair of integers is encoded exactly when both fit into 256 bits, always in 64 bytes, and else
the first that does not is reported. What is encoded is told from every other pair, and decoding it
ends as checking the pair does, with the same point or the same failure. A pair that passes the
check is always encoded. -/
theorem decode_encode_exact :
    (∀ q : Coordinates,
      ((∃ data, q.encode = .ok data) ↔
        (0 ≤ q.x ∧ q.x < 2 ^ 256) ∧ (0 ≤ q.y ∧ q.y < 2 ^ 256)) ∧
      (∀ data, q.encode = .ok data → data.length = 64 ∧ decode data = q.check) ∧
      (∀ failure, q.encode = .error failure → failure.category = .encoding ∧
        (¬(0 ≤ q.x ∧ q.x < 2 ^ 256) ∧ failure = misfit q.x ∨
          (0 ≤ q.x ∧ q.x < 2 ^ 256) ∧ ¬(0 ≤ q.y ∧ q.y < 2 ^ 256) ∧ failure = misfit q.y)) ∧
      ∀ point, q.check = .ok point → ∃ data, q.encode = .ok data) ∧
      Set.InjOn encode {q | ∃ data, q.encode = .ok data} := by
  refine ⟨fun q => ⟨?_, ?_, ?_, fun _ => exists_encode_of_check_eq_ok⟩, encode_injOn⟩
  · change (∃ data, q.encode = .ok data) ↔ Fits q.x ∧ Fits q.y
    rcases q.encode_cases with ⟨misfitX, refused⟩ | ⟨-, misfitY, refused⟩ | ⟨fitsX, fitsY, encoded⟩
    · simp [refused, misfitX]
    · simp [refused, misfitY]
    · simp [encoded, fitsX, fitsY]
  · exact fun data encoded => ⟨length_of_encode_eq_ok encoded, decode_of_encode_eq_ok encoded⟩
  · intro failure failed
    rcases q.encode_cases with ⟨misfitX, refused⟩ | ⟨fitsX, misfitY, refused⟩ | ⟨-, -, encoded⟩
    · rw [refused] at failed
      cases failed
      exact ⟨category_misfit _, .inl ⟨misfitX, rfl⟩⟩
    · rw [refused] at failed
      cases failed
      exact ⟨category_misfit _, .inr ⟨fitsX, misfitY, rfl⟩⟩
    · rw [encoded] at failed
      cases failed

end Coordinates
end KeyExport
