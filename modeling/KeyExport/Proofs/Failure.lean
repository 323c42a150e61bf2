import KeyExport.Failure.Basic
import Mathlib.Algebra.Group.Nat.Defs
import Mathlib.Logic.Basic

set_option autoImplicit false

/-!
# Kinds of failure

Whether a failure belongs to the library or comes from what it is built on, and whether it blames
malformed input. An integer of more than 4300 digits has no decimal form, so that a failure which
should name it is another one.
-/

namespace KeyExport

theorem Decimal.exists_value_eq_iff (value : Int) :
    (∃ number : Decimal, number.value = value) ↔ value.natAbs < 10 ^ 4300 := by
  rw [← Nat.length_toDigits_le_iff (by decide) (by decide)]
  constructor
  · rintro ⟨number, rfl⟩
    exact number.short
  · exact fun short => ⟨⟨value, short⟩, rfl⟩

theorem Decimal.natAbs_lt (number : Decimal) : number.value.natAbs < 10 ^ 4300 :=
  (exists_value_eq_iff _).mp ⟨number, rfl⟩

theorem Decimal.ne_of_le {value : Int} (long : 10 ^ 4300 ≤ value.natAbs) (number : Decimal) :
    number.value ≠ value := by
  rintro rfl
  exact absurd number.natAbs_lt (Nat.not_lt.mpr long)

theorem Category.not_within_input (category : GeneralCategory) :
    ¬(Category.general category).Within .input := by
  cases category <;> simp [Within, ancestors, generalLine]

theorem Category.not_within_failure (category : GeneralCategory) :
    ¬(Category.general category).Within .failure := by
  cases category <;> simp [Within, ancestors, generalLine]

namespace Failure

variable {failure : Failure}

/-- An integer is named, unless it has more digits than are written. -/
theorem naming_cases (failure : Decimal → Failure) (value : Int) :
    (∃ number : Decimal, number.value = value ∧ naming failure value = failure number) ∨
      10 ^ 4300 ≤ value.natAbs ∧ naming failure value = .tooManyDigits value := by
  by_cases short : (Nat.toDigits 10 value.natAbs).length ≤ Decimal.maxDigits
  · exact .inl ⟨⟨value, short⟩, rfl, by rw [naming, Decimal.ofInt?, dif_pos short]⟩
  · refine .inr ⟨?_, by rw [naming, Decimal.ofInt?, dif_neg short]⟩
    rw [← Nat.not_lt, ← Decimal.exists_value_eq_iff]
    rintro ⟨number, rfl⟩
    exact short number.short

theorem naming_of_le (failure : Decimal → Failure) {value : Int}
    (long : 10 ^ 4300 ≤ value.natAbs) : naming failure value = .tooManyDigits value := by
  rcases naming_cases failure value with ⟨number, same, -⟩ | ⟨-, unnamed⟩
  · exact absurd same (Decimal.ne_of_le long number)
  · exact unnamed

theorem not_isInput (category : Category) (same : failure.category = category)
    (elsewhere : ¬category.Within .input) : ¬failure.IsInput := by
  rw [IsInput, same]
  exact elsewhere

/-- The failure belongs to this library. -/
def IsOwn (failure : Failure) : Prop :=
  failure.category.Within .failure

/-- The failure comes from what the library is built on. -/
def IsForeign : Failure → Prop
  | versionNotByte _ | tooManyDigits _ | tooManyBytes _ | outside _ => True
  | _ => False

theorem isOwn_of_category {category : Category} (same : failure.category = category)
    (own : category.Within .failure) : failure.IsOwn := by
  rw [IsOwn, same]
  exact own

/-- No failure is of both kinds, and each is of one. -/
theorem isForeign_iff_not_isOwn : failure.IsForeign ↔ ¬failure.IsOwn := by
  cases failure with
  | wrongSize input actual =>
    have each : input.category.Within .failure := by cases input <;> decide
    exact iff_of_false id (not_not.mpr (isOwn_of_category rfl each))
  | versionNotByte version => exact iff_of_true trivial (Category.not_within_failure _)
  | tooManyDigits value => exact iff_of_true trivial (Category.not_within_failure _)
  | tooManyBytes length => exact iff_of_true trivial (Category.not_within_failure _)
  | outside fault => exact iff_of_true trivial (Category.not_within_failure _)
  | _ =>
    simp [IsForeign, IsOwn, Failure.category, report, Report.plain, Report.outputTooLong,
      Report.coordinateRange, Report.offCurve, Report.oddHex, Report.badHex, Report.inputType,
      Category.Within, Category.ancestors, Category.inputLine]

theorem isOwn_of_not_isForeign (own : ¬failure.IsForeign) : failure.IsOwn :=
  not_not.mp (mt isForeign_iff_not_isOwn.mpr own)

end Failure
end KeyExport
