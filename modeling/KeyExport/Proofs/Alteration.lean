import KeyExport.Bytes
import Mathlib.Data.List.Basic

set_option autoImplicit false

/-!
# Altered lists

A list is altered within a range when it keeps its length and everything outside the range, and
still differs. Parts that hold the whole range are altered too, and parts that miss it are kept.
-/

namespace KeyExport

variable {α : Type} {first last : Nat} {data changed : List α}

/-- The change is confined to the places from the first up to but not including the last. -/
structure AlteredWithin (first last : Nat) (data changed : List α) : Prop where
  ne : changed ≠ data
  length : changed.length = data.length
  front : changed.take first = data.take first
  back : changed.drop last = data.drop last

namespace AlteredWithin

theorem take_eq (altered : AlteredWithin first last data changed) {n : Nat} (before : n ≤ first) :
    changed.take n = data.take n := by
  have shorter := congrArg (List.take n) altered.front
  rwa [List.take_take, List.take_take, Nat.min_eq_left before] at shorter

theorem drop_eq (altered : AlteredWithin first last data changed) {n : Nat} (behind : last ≤ n) :
    changed.drop n = data.drop n := by
  obtain ⟨more, rfl⟩ := Nat.exists_eq_add_of_le behind
  rw [← List.drop_drop, ← List.drop_drop, altered.back]

theorem wider (altered : AlteredWithin first last data changed) {start stop : Nat}
    (before : start ≤ first) (behind : last ≤ stop) : AlteredWithin start stop data changed :=
  ⟨altered.ne, altered.length, altered.take_eq before, altered.drop_eq behind⟩

theorem head?_eq (altered : AlteredWithin first last data changed) (before : 1 ≤ first) :
    changed.head? = data.head? := by
  have heads := congrArg List.head? (altered.take_eq before)
  simpa only [List.head?_take, Nat.one_ne_zero, if_false] using heads

/-- What stands in a part before the range is kept. -/
theorem part_eq (altered : AlteredWithin first last data changed) {start size : Nat}
    (before : start + size ≤ first) :
    (changed.drop start).take size = (data.drop start).take size := by
  rw [List.take_drop, List.take_drop, altered.take_eq before]

theorem drop (altered : AlteredWithin first last data changed) {n : Nat} (before : n ≤ first) :
    AlteredWithin (first - n) (last - n) (data.drop n) (changed.drop n) where
  ne same := by
    apply altered.ne
    rw [← List.take_append_drop n changed, altered.take_eq before, same, List.take_append_drop]
  length := by rw [List.length_drop, List.length_drop, altered.length]
  front := altered.part_eq (by omega)
  back := by
    rw [List.drop_drop, List.drop_drop]
    exact altered.drop_eq (by omega)

theorem take (altered : AlteredWithin first last data changed) {n : Nat} (behind : last ≤ n) :
    AlteredWithin first last (data.take n) (changed.take n) where
  ne same := by
    apply altered.ne
    rw [← List.take_append_drop n changed, altered.drop_eq behind, same, List.take_append_drop]
  length := by rw [List.length_take, List.length_take, altered.length]
  front := by
    rw [List.take_take, List.take_take]
    exact altered.take_eq (Nat.min_le_left _ _)
  back := by rw [List.drop_take, List.drop_take, altered.back]

/-- Within a range of one place there is one entry to differ. -/
theorem exists_entry {n : Nat} (altered : AlteredWithin n (n + 1) data changed) :
    ∃ front entry other back, other ≠ entry ∧ data = front ++ entry :: back ∧
      changed = front ++ other :: back := by
  have below : n < data.length := by
    by_contra short
    apply altered.ne
    have kept := altered.front
    rwa [List.take_of_length_le (by rw [altered.length]; omega),
      List.take_of_length_le (by omega)] at kept
  have changedBelow : n < changed.length := by rwa [altered.length]
  have split : data = data.take n ++ data[n] :: data.drop (n + 1) := by
    rw [List.getElem_cons_drop, List.take_append_drop]
  have changedSplit : changed = data.take n ++ changed[n] :: data.drop (n + 1) := by
    rw [← altered.front, ← altered.back, List.getElem_cons_drop, List.take_append_drop]
  refine ⟨_, _, _, _, ?_, split, changedSplit⟩
  intro same
  exact altered.ne (by rw [changedSplit, same, ← split])

end AlteredWithin

theorem alteredWithin_set {place : Nat} {entry : α} (behind : first ≤ place) (before : place < last)
    (within : place < data.length) (other : data[place]? ≠ some entry) :
    AlteredWithin first last data (data.set place entry) where
  ne same := by
    apply other
    rw [← same, List.getElem?_set_self within]
  length := List.length_set
  front := List.take_set_of_le behind
  back := by rw [List.drop_set_of_lt before]

namespace Bytes

variable {size : Nat} {data changed : Bytes}

/-- The byte with its last bit turned is another one. -/
theorem getElem?_ne_turned {place : Nat} (within : place < data.length) :
    data[place]? ≠ some (data.getD place 0 ^^^ 1) := by
  rw [List.getD_eq_getElem?_getD, List.getElem?_eq_getElem within]
  simp only [Option.getD_some, ne_eq, Option.some.injEq]
  intro same
  have bit := (UInt8.xor_right_inj data[place]).mp (UInt8.xor_zero.trans same)
  cases bit

theorem flatten_pieces {count : Nat} (covered : data.length ≤ size * count) :
    (pieces size count data).flatten = data := by
  induction count generalizing data with
  | zero => exact (List.length_eq_zero_iff.mp (Nat.le_zero.mp covered)).symm
  | succ k ih =>
    have rest : (data.drop size).length ≤ size * k := by
      rw [Nat.mul_succ] at covered
      rw [List.length_drop]
      omega
    rw [pieces, List.flatten_cons, ih rest, List.take_append_drop]

theorem take_pieces (size count n : Nat) (data : Bytes) :
    (pieces size count data).take n = pieces size (min n count) (data.take (size * n)) := by
  induction n generalizing count data with
  | zero => rw [Nat.zero_min, List.take_zero, pieces]
  | succ n ih =>
    cases count with
    | zero => rw [Nat.min_zero, pieces, pieces, List.take_nil]
    | succ k =>
      have head : (data.take (size * (n + 1))).take size = data.take size := by
        rw [List.take_take, Nat.min_eq_left (Nat.le_mul_of_pos_right _ n.succ_pos)]
      have tail : (data.take (size * (n + 1))).drop size = (data.drop size).take (size * n) := by
        rw [List.drop_take, Nat.mul_succ, Nat.add_sub_cancel]
      rw [Nat.succ_min_succ, pieces, pieces, List.take_succ_cons, ih, head, tail]

theorem drop_pieces (size count n : Nat) (data : Bytes) :
    (pieces size count data).drop n = pieces size (count - n) (data.drop (size * n)) := by
  induction n generalizing count data with
  | zero => rw [Nat.mul_zero, List.drop_zero, List.drop_zero, Nat.sub_zero]
  | succ n ih =>
    cases count with
    | zero => rw [Nat.zero_sub, pieces, pieces, List.drop_nil]
    | succ k =>
      rw [pieces, List.drop_succ_cons, ih, List.drop_drop, Nat.succ_sub_succ, Nat.mul_succ,
        Nat.add_comm size]

/-- The lengths of the pieces depend on the length of the whole only. -/
theorem map_length_pieces (size count : Nat) (same : changed.length = data.length) :
    (pieces size count changed).map List.length = (pieces size count data).map List.length := by
  induction count generalizing data changed with
  | zero => rfl
  | succ k ih =>
    have rest : (changed.drop size).length = (data.drop size).length := by
      rw [List.length_drop, List.length_drop, same]
    rw [pieces, pieces, List.map_cons, List.map_cons, ih rest, List.length_take, List.length_take,
      same]

theorem length_le_of_mem_pieces {count : Nat} {piece : Bytes}
    (among : piece ∈ pieces size count data) : piece.length ≤ size := by
  induction count generalizing data with
  | zero => cases among
  | succ k ih =>
    rcases List.mem_cons.mp among with rfl | later
    · exact List.length_take_le _ _
    · exact ih later

/-- A change within one piece alters this piece and no other. -/
theorem alteredWithin_pieces {count n : Nat} (covered : data.length ≤ size * count)
    (altered : AlteredWithin (size * n) (size * (n + 1)) data changed) :
    AlteredWithin n (n + 1) (pieces size count data) (pieces size count changed) where
  ne same := by
    apply altered.ne
    have whole := congrArg List.flatten same
    rwa [flatten_pieces covered, flatten_pieces (by rwa [altered.length])] at whole
  length := by rw [length_pieces, length_pieces]
  front := by rw [take_pieces, take_pieces, altered.front]
  back := by rw [drop_pieces, drop_pieces, altered.back]

end Bytes
end KeyExport
