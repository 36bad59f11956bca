import Mathlib.Data.List.AList
import Mathlib.Tactic

/-! Go maps as association lists without repeated keys. How often a value
occurs in a map follows its insertions and deletions. -/
namespace GotaDaemon.Go

abbrev Map (κ ν : Type) := AList (fun _ : κ => ν)

namespace Map
variable {κ ν : Type} [DecidableEq κ] [DecidableEq ν] {m : Map κ ν} {key : κ} {value : ν}

def values (m : Map κ ν) : List ν := m.entries.map Sigma.snd

omit [DecidableEq κ] [DecidableEq ν] in
@[simp] theorem values_empty : values (∅ : Map κ ν) = [] := rfl

theorem count_erase (found : m.lookup key = some value) (other : ν) :
    (values m).count other =
      (values (m.erase key)).count other + if value = other then 1 else 0 := by
  have member : key ∈ m.entries.keys := AList.lookup_isSome.mp (by simp [found])
  obtain ⟨held, left, right, fresh, entries, rest⟩ := List.exists_of_kerase member
  have same : held = value := by
    have looked : m.entries.dlookup key = some value := found
    have inside : (⟨key, held⟩ : Sigma fun _ : κ => ν) ∈ m.entries := by simp [entries]
    exact Option.some.inj ((List.mem_dlookup m.nodupKeys inside).symm.trans looked)
  subst same
  have erased : (m.erase key).entries = left ++ right := rest
  simp only [values, erased, entries, List.map_append, List.map_cons, List.count_append,
    List.count_cons, beq_iff_eq]
  omega

omit [DecidableEq ν] in
theorem erase_absent (absent : m.lookup key = none) : m.erase key = m :=
  AList.ext (List.kerase_of_notMem_keys (AList.lookup_eq_none.mp absent))

omit [DecidableEq ν] in
theorem erase_insert_self (m : Map κ ν) (key : κ) (value : ν) :
    (m.insert key value).erase key = m.erase key := by
  apply AList.ext
  change List.kerase key (⟨key, value⟩ :: List.kerase key m.entries) = List.kerase key m.entries
  exact List.kerase_cons_eq rfl

omit [DecidableEq ν] in
theorem erase_insert_ne (m : Map κ ν) {key other : κ} (value : ν) (distinct : key ≠ other) :
    (m.insert key value).erase other = (m.erase other).insert key value := by
  apply AList.ext
  change List.kerase other (⟨key, value⟩ :: List.kerase key m.entries) =
    ⟨key, value⟩ :: List.kerase key (List.kerase other m.entries)
  rw [List.kerase_cons_ne (by exact distinct.symm), List.kerase_comm]

omit [DecidableEq ν] in
theorem lookup_of_erase {other : κ} (found : (m.erase key).lookup other = some value) :
    m.lookup other = some value := by
  by_cases same : other = key
  · subst same
    simp at found
  · rwa [AList.lookup_erase_ne same] at found

omit [DecidableEq ν] in
theorem values_insert : values (m.insert key value) = value :: values (m.erase key) := rfl

theorem count_insert (m : Map κ ν) (key : κ) (value other : ν) :
    (values (m.insert key value)).count other + (if m.lookup key = some other then 1 else 0) =
      (values m).count other + if value = other then 1 else 0 := by
  rw [values_insert, List.count_cons]
  cases found : m.lookup key with
  | none => simp [erase_absent found]
  | some old =>
    have counted := count_erase found other
    simp only [beq_iff_eq, Option.some.injEq]
    omega

omit [DecidableEq ν] in
theorem mem_values_of_lookup (found : m.lookup key = some value) : value ∈ values m := by
  have inside : (⟨key, value⟩ : Sigma fun _ : κ => ν) ∈ m.entries :=
    List.of_mem_dlookup (show value ∈ m.entries.dlookup key from found)
  exact List.mem_map_of_mem inside

omit [DecidableEq ν] in
theorem exists_lookup_of_mem (member : value ∈ values m) : ∃ key, m.lookup key = some value := by
  obtain ⟨⟨key, held⟩, inside, rfl⟩ := List.mem_map.mp member
  exact ⟨key, List.mem_dlookup m.nodupKeys inside⟩

end Map
end GotaDaemon.Go
