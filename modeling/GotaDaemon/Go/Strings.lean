import GotaDaemon.Go.Outcome

/-! Go strings as lists of bytes: indexing and slicing with their bounds checks,
and the functions of package strings with a one-byte separator. -/
namespace GotaDaemon.Go

/-- The bytes of a string constant. -/
def utf8 (text : String) : List UInt8 := text.toUTF8.data.toList

variable {ε α : Type}

/-- text[i] -/
def charAt (text : List α) (i : Nat) : Outcome ε α :=
  match text[i]? with
  | some char => .ok char
  | none => .panic .indexOutOfRange

/-- text[low:high] -/
def slice (text : List α) (low high : Nat) : Outcome ε (List α) :=
  if low ≤ high ∧ high ≤ text.length then .ok ((text.take high).drop low)
  else .panic .sliceBoundsOutOfRange

section Search
variable [DecidableEq α]

def lastIndex (sep : α) : List α → Option Nat
  | [] => none
  | char :: rest =>
    match lastIndex sep rest with
    | some i => some (i + 1)
    | none => if char = sep then some 0 else none

/-- The slices on both sides of the last separator, or the error for a text
without one. -/
def splitLast (sep : α) (text : List α) (err : ε) : Outcome ε (List α × List α) := do
  let i ← .orElse (lastIndex sep text) err
  let after ← slice text (i + 1) text.length
  let before ← slice text 0 i
  return (before, after)

/-- The text before the first separator and the text after it. -/
def cut (sep : α) : List α → Option (List α × List α)
  | [] => none
  | char :: rest =>
    if char = sep then some ([], rest)
    else (cut sep rest).map fun parts => (char :: parts.1, parts.2)

end Search

section Laws
variable {text part : List α} {low high i : Nat} {char sep : α}

theorem charAt_eq_ok : (charAt text i : Outcome ε α) = .ok char ↔ text[i]? = some char := by
  unfold charAt
  cases text[i]? <;> simp

theorem slice_eq_ok : (slice text low high : Outcome ε (List α)) = .ok part ↔
    ∃ before after, text = before ++ part ++ after ∧ before.length = low ∧
    low + part.length = high := by
  unfold slice
  split
  · rename_i bounds
    rw [Outcome.ok.injEq]
    constructor
    · rintro rfl
      refine ⟨(text.take high).take low, text.drop high, ?_, ?_, ?_⟩
      · rw [List.take_append_drop, List.take_append_drop]
      · simp only [List.length_take]
        omega
      · simp only [List.length_drop, List.length_take]
        omega
    · rintro ⟨before, after, rfl, rfl, rfl⟩
      rw [List.take_left' (by simp), List.drop_left]
  · rename_i bounds
    simp only [reduceCtorEq, false_iff, not_exists, not_and]
    rintro before after rfl rfl rfl
    exact bounds ⟨by omega, by simp⟩

theorem safe_charAt (bound : i < text.length) : (charAt text i : Outcome ε α).Safe := by
  rw [charAt_eq_ok.mpr (List.getElem?_eq_getElem bound)]
  exact Outcome.safe_ok _

theorem safe_slice (ordered : low ≤ high) (bound : high ≤ text.length) :
    (slice text low high : Outcome ε (List α)).Safe := by
  rw [slice, if_pos ⟨ordered, bound⟩]
  exact Outcome.safe_ok _

theorem slice_before {before after : List α} :
    (slice (before ++ after) 0 before.length : Outcome ε (List α)) = .ok before :=
  slice_eq_ok.mpr ⟨[], after, rfl, rfl, Nat.zero_add _⟩

theorem slice_after {before after : List α} :
    (slice (before ++ sep :: after) (before.length + 1)
      (before ++ sep :: after).length : Outcome ε (List α)) =
      .ok after :=
  slice_eq_ok.mpr ⟨before ++ [sep], [], by simp, by simp, by simp; omega⟩

/-- A text has one last separator. -/
theorem last_unique {first second left right : List α}
    (same : first ++ sep :: left = second ++ sep :: right) (absent : sep ∉ left)
    (absent' : sep ∉ right) : first = second ∧ left = right := by
  rcases List.append_eq_append_iff.mp same with ⟨rest, rfl, tail⟩ | ⟨rest, rfl, tail⟩
  · cases rest with
    | nil => simpa using tail
    | cons head rest =>
      obtain ⟨_, rfl⟩ := List.cons.inj tail
      simp at absent
  · cases rest with
    | nil => simpa using tail.symm
    | cons head rest =>
      obtain ⟨_, rfl⟩ := List.cons.inj tail
      simp at absent'

variable [DecidableEq α]

theorem lastIndex_eq_none : lastIndex sep text = none ↔ sep ∉ text := by
  induction text with
  | nil => simp [lastIndex]
  | cons char rest ih =>
    rw [lastIndex, List.mem_cons, not_or, ← ih]
    cases lastIndex sep rest with
    | some i => simp
    | none => simp [eq_comm]

theorem lastIndex_append (before after : List α) (absent : sep ∉ after) :
    lastIndex sep (before ++ sep :: after) = some before.length := by
  induction before with
  | nil => simp [lastIndex, lastIndex_eq_none.mpr absent]
  | cons char rest ih => simp [lastIndex, ih]

theorem lastIndex_eq_some : lastIndex sep text = some i ↔
    ∃ before after, text = before ++ sep :: after ∧ before.length = i ∧ sep ∉ after := by
  constructor
  · intro found
    induction text generalizing i with
    | nil => simp [lastIndex] at found
    | cons char rest ih =>
      rw [lastIndex] at found
      cases inner : lastIndex sep rest with
      | some j =>
        simp only [inner, Option.some.injEq] at found
        obtain ⟨before, after, rfl, rfl, absent⟩ := ih inner
        exact ⟨char :: before, after, rfl, found, absent⟩
      | none =>
        simp only [inner, Option.ite_none_right_eq_some, Option.some.injEq] at found
        obtain ⟨rfl, rfl⟩ := found
        exact ⟨[], rest, rfl, rfl, lastIndex_eq_none.mp inner⟩
  · rintro ⟨before, after, rfl, rfl, absent⟩
    exact lastIndex_append before after absent

theorem splitLast_eq_ok {err : ε} {parts : List α × List α} :
    splitLast sep text err = .ok parts ↔ text = parts.1 ++ sep :: parts.2 ∧ sep ∉ parts.2 := by
  obtain ⟨left, right⟩ := parts
  simp only [splitLast, Outcome.bind_eq_ok, Outcome.orElse_eq_ok, lastIndex_eq_some,
    Outcome.pure_ok,
    Outcome.ok.injEq, Prod.mk.injEq]
  constructor
  · rintro ⟨_, ⟨before, after, rfl, rfl, absent⟩, _, sliced, _, sliced', rfl, rfl⟩
    rw [slice_after] at sliced
    rw [slice_before] at sliced'
    cases sliced
    cases sliced'
    exact ⟨rfl, absent⟩
  · rintro ⟨rfl, absent⟩
    exact ⟨_, ⟨left, right, rfl, rfl, absent⟩, right, slice_after, left, slice_before, rfl, rfl⟩

theorem safe_splitLast {err : ε} : (splitLast sep text err).Safe := by
  refine Outcome.safe_orElse.bind fun i found => ?_
  obtain ⟨before, after, rfl, rfl, _⟩ := lastIndex_eq_some.mp (Outcome.orElse_eq_ok.mp found)
  rw [slice_after, slice_before]
  exact Outcome.safe_ok _

theorem cut_append (before after : List α) (absent : sep ∉ before) :
    cut sep (before ++ sep :: after) = some (before, after) := by
  induction before with
  | nil => simp [cut]
  | cons char rest ih =>
    simp only [List.mem_cons, not_or] at absent
    simp [cut, ih absent.2, Ne.symm absent.1]

end Laws

end GotaDaemon.Go
