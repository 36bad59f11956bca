import Mathlib.Tactic

/-! Workers that a WaitGroup counts. A worker runs, then leaves and goes through
its deferred calls on the strength of one token, and has ended once the token is
given back. Tokens and workers correspond, so that the counter never runs below
zero and reaches it only when everybody has ended. -/
namespace GotaDaemon

inductive Phase where
  | running | deferred | exited
  deriving DecidableEq, Repr

/-- All workers ever added, and the tokens of those on their way out. -/
structure Crew where
  workers : List Phase
  tokens : List Nat

namespace Crew

/-- A move of a crew, with the numbers of Add and Done calls. -/
inductive Move : Crew → Nat → Nat → Crew → Prop where
  | stay : Move crew 0 0 crew
  | add : Move crew 1 0 { crew with workers := crew.workers ++ [.running] }
  | leave : crew.workers[index]? = some .running →
      Move crew 0 0 ⟨crew.workers.set index .deferred, crew.tokens ++ [index]⟩
  | done : crew.tokens = before ++ index :: after →
      Move crew 0 1 ⟨crew.workers.set index .exited, before ++ after⟩

/-- One token for each worker on its way out, and none for anybody else. -/
def Kept (crew : Crew) : Prop :=
  ∀ index, crew.tokens.count index = if crew.workers[index]? = some .deferred then 1 else 0

def live (crew : Crew) : Nat := crew.workers.countP (· ≠ .exited)

variable {crew next : Crew} {index added ended : Nat} {before after : List Nat}

theorem Kept.token (kept : crew.Kept) (held : crew.tokens = before ++ index :: after) :
    crew.workers[index]? = some .deferred := by
  have counted := kept index
  by_contra other
  rw [if_neg other, held, List.count_append, List.count_cons_self] at counted
  omega

theorem Kept.add (kept : crew.Kept) :
    Kept { crew with workers := crew.workers ++ [.running] } := by
  intro index
  have counted := kept index
  dsimp only
  rcases Nat.lt_trichotomy index crew.workers.length with old | rfl | beyond
  · rwa [List.getElem?_append_left old]
  · simpa using counted
  · rw [counted, List.getElem?_eq_none (by omega), List.getElem?_eq_none (by simp; omega)]

theorem Kept.leave (kept : crew.Kept) (running : crew.workers[index]? = some .running) :
    Kept ⟨crew.workers.set index .deferred, crew.tokens ++ [index]⟩ := by
  have bound := (List.getElem?_eq_some_iff.mp running).1
  intro other
  have counted := kept other
  dsimp only
  rw [List.count_append]
  by_cases same : index = other
  · subst same
    rw [counted, running, List.getElem?_set_self bound]
    simp
  · rw [counted, List.getElem?_set_ne same, List.count_singleton]
    simp [same]

theorem Kept.done (kept : crew.Kept) (held : crew.tokens = before ++ index :: after) :
    Kept ⟨crew.workers.set index .exited, before ++ after⟩ := by
  have leaving := kept.token held
  have bound := (List.getElem?_eq_some_iff.mp leaving).1
  intro other
  have counted := kept other
  rw [held, List.count_append, List.count_cons] at counted
  dsimp only
  rw [List.count_append]
  by_cases same : index = other
  · subst same
    rw [leaving] at counted
    rw [List.getElem?_set_self bound]
    simp at counted ⊢
    omega
  · rw [List.getElem?_set_ne same, ← counted]
    simp [same]

theorem Move.kept (move : Move crew added ended next) (kept : crew.Kept) : next.Kept := by
  cases move with
  | stay => exact kept
  | add => exact kept.add
  | leave running => exact kept.leave running
  | done held => exact kept.done held

theorem live_pos {phase : Phase} (found : crew.workers[index]? = some phase)
    (here : phase ≠ .exited) : 0 < crew.live :=
  List.countP_pos_iff.mpr ⟨phase, List.mem_of_getElem? found, by simpa using here⟩

/-- The crew grows by the Add calls and shrinks by the Done calls. -/
theorem Move.live (move : Move crew added ended next) (kept : crew.Kept) :
    next.live + ended = crew.live + added := by
  cases move with
  | stay => rfl
  | add => simp [Crew.live]
  | leave running =>
    have positive := live_pos running (by simp)
    obtain ⟨bound, here⟩ := List.getElem?_eq_some_iff.mp running
    simp only [Crew.live, List.countP_set bound, here, ne_eq, reduceCtorEq, not_false_eq_true,
      decide_true, if_true] at positive ⊢
    omega
  | done held =>
    have leaving := kept.token held
    have positive := live_pos leaving (by simp)
    obtain ⟨bound, here⟩ := List.getElem?_eq_some_iff.mp leaving
    simp only [Crew.live, List.countP_set bound, here, ne_eq, reduceCtorEq, not_false_eq_true,
      not_true_eq_false, decide_true, decide_false, if_true, Bool.false_eq_true, if_false]
      at positive ⊢
    omega

theorem live_zero (none : crew.live = 0) {phase : Phase} (member : phase ∈ crew.workers) :
    phase = .exited := by
  have all := List.countP_eq_zero.mp none phase member
  simpa using all

end Crew

end GotaDaemon
