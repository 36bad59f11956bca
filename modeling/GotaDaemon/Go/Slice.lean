import Mathlib.Tactic

/-! Slices. Several slices may lie in one backing array, so that a write through
one of them shows in the others; what lies in different arrays is separate. -/
namespace GotaDaemon.Go

/-- The part of a backing array from `offset` on. -/
structure Slice where
  array : Nat
  offset : Nat
  length : Nat
  deriving DecidableEq, Repr

namespace Slice
variable {α : Type}

/-- The elements, given all backing arrays. -/
def read (slice : Slice) (arrays : List (List α)) : List α :=
  ((arrays[slice.array]?.getD []).drop slice.offset).take slice.length

/-- A slice with a backing array of its own, as `append` makes it for a nil slice. -/
def alloc (arrays : List (List α)) (contents : List α) : Slice × List (List α) :=
  (⟨arrays.length, 0, contents.length⟩, arrays ++ [contents])

/-- An assignment to one element of a backing array. -/
def write (arrays : List (List α)) (array index : Nat) (value : α) : List (List α) :=
  arrays.modify array (·.set index value)

/-- Whether this element of a backing array is one of the slice. -/
def Covers (slice : Slice) (array index : Nat) : Prop :=
  array = slice.array ∧ slice.offset ≤ index ∧ index < slice.offset + slice.length

instance (slice : Slice) (array index : Nat) : Decidable (slice.Covers array index) :=
  inferInstanceAs (Decidable (_ ∧ _ ∧ _))

/-- What the assignment does to the elements of the slice. -/
def patch (slice : Slice) (array index : Nat) (value : α) (elements : List α) : List α :=
  if slice.Covers array index then elements.set (index - slice.offset) value else elements

variable {slice : Slice} {arrays : List (List α)} {array index : Nat} {value : α}

@[simp] theorem write_length : (write arrays array index value).length = arrays.length :=
  List.length_modify ..

theorem read_alloc (arrays : List (List α)) (contents : List α) :
    (alloc arrays contents).1.read (alloc arrays contents).2 = contents := by
  simp [alloc, read]

theorem read_append (known : slice.array < arrays.length) (more : List (List α)) :
    slice.read (arrays ++ more) = slice.read arrays := by
  rw [read, read, List.getElem?_append_left known]

theorem length_read_le : (slice.read arrays).length ≤ slice.length := List.length_take_le ..

theorem known_of_read (filled : 0 < (slice.read arrays).length) :
    slice.array < arrays.length := by
  by_contra unknown
  simp [read, List.getElem?_eq_none (Nat.not_lt.mp unknown)] at filled

theorem patch_uncovered (elements : List α) (beside : ¬ slice.Covers array index) :
    slice.patch array index value elements = elements := if_neg beside

theorem read_write_other (other : array ≠ slice.array) :
    slice.read (write arrays array index value) = slice.read arrays := by
  simp [read, write, other]

/-- An assignment shows in the slice where it covers the element, and nowhere else. -/
theorem read_write :
    slice.read (write arrays array index value) =
      slice.patch array index value (slice.read arrays) := by
  by_cases same : array = slice.array
  · subst same
    have written : slice.read (write arrays slice.array index value) =
        (((arrays[slice.array]?.getD []).set index value).drop slice.offset).take slice.length := by
      cases found : arrays[slice.array]? <;> simp [read, write, found]
    rw [written, List.drop_set]
    rcases Nat.lt_or_ge index slice.offset with below | inside
    · rw [if_pos below, patch_uncovered _ fun covers => Nat.not_lt.mpr covers.2.1 below]
      rfl
    · rw [if_neg (Nat.not_lt.mpr inside), List.take_set]
      rcases Nat.lt_or_ge index (slice.offset + slice.length) with covered | beyond
      · exact (if_pos ⟨rfl, inside, covered⟩).symm
      · rw [patch_uncovered _ fun covers => Nat.not_lt.mpr beyond covers.2.2]
        apply List.set_eq_of_length_le
        have short : (slice.read arrays).length ≤ slice.length := length_read_le
        exact short.trans (by omega)
  · rw [read_write_other same, patch_uncovered _ fun covers => same covers.1]

end Slice

end GotaDaemon.Go
