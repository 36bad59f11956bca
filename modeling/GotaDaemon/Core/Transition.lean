import Mathlib.Tactic

/-! Labelled, nondeterministic runs. A step emits a list of events, so a silent
step leaves no mark on the trace. Runs grow at their end: an invariant relates
the trace so far to the state it has reached. -/
namespace GotaDaemon.Transition
variable {S T E F : Type}

inductive Run (step : S → List E → S → Prop) (s : S) : List E → S → Prop where
  | refl : Run step s [] s
  | next : Run step s es t → step t fs u → Run step s (es ++ fs) u

namespace Run
variable {step : S → List E → S → Prop} {s t u : S} {es fs : List E}

theorem single (head : step s es t) : Run step s es t := by
  simpa only [List.nil_append] using Run.next .refl head

theorem trans (first : Run step s es t) (second : Run step t fs u) :
    Run step s (es ++ fs) u := by
  induction second with
  | refl => simpa only [List.append_nil] using first
  | next _ last ih => simpa only [List.append_assoc] using Run.next ih last

theorem mono {other : S → List E → S → Prop} (weaker : ∀ {t fs u}, step t fs u → other t fs u)
    (run : Run step s es t) : Run other s es t := by
  induction run with
  | refl => exact .refl
  | next _ last ih => exact ih.next (weaker last)

/-- An invariant may rely on what is known of every state reached. -/
theorem invariant_reached {P : List E → S → Prop} (initial : P [] s)
    (preserves : ∀ {es t fs u}, Run step s es t → P es t → step t fs u → P (es ++ fs) u)
    (run : Run step s es t) : P es t := by
  induction run with
  | refl => exact initial
  | next before last ih => exact preserves before ih last

theorem invariant {P : List E → S → Prop} (initial : P [] s)
    (preserves : ∀ {es t fs u}, P es t → step t fs u → P (es ++ fs) u)
    (run : Run step s es t) : P es t :=
  run.invariant_reached initial fun _ => preserves

/-- Forward simulation: if every step can be answered by a run of the
specification that restores the relation, so can every run. -/
theorem simulated {spec : T → List F → T → Prop} {R : List E → S → List F → T → Prop} {a : T}
    (initial : R [] s [] a)
    (simulates : ∀ {es t fs u as b}, Run step s es t → R es t as b → step t fs u →
      ∃ bs c, Run spec b bs c ∧ R (es ++ fs) u (as ++ bs) c)
    (run : Run step s es t) : ∃ as b, Run spec a as b ∧ R es t as b := by
  induction run with
  | refl => exact ⟨[], a, .refl, initial⟩
  | next before last ih =>
    obtain ⟨as, b, path, related⟩ := ih
    obtain ⟨bs, c, more, restored⟩ := simulates before related last
    exact ⟨as ++ bs, c, path.trans more, restored⟩

/-- What has come in is held or has gone out, if no step loses or makes any. -/
theorem conserved {α : Type} {held : S → List α} {inflow outflow : E → List α}
    (initial : held s = [])
    (balanced : ∀ {t fs u}, step t fs u →
    (held t ++ fs.flatMap inflow).Perm (held u ++ fs.flatMap outflow))
    (run : Run step s es t) : (es.flatMap inflow).Perm (held t ++ es.flatMap outflow) := by
  induction run with
  | refl => simp [initial]
  | @next past middle events last _ move ih =>
    rw [List.flatMap_append, List.flatMap_append]
    have here : ((held middle ++ past.flatMap outflow) ++ events.flatMap inflow).Perm
        (past.flatMap outflow ++ (held middle ++ events.flatMap inflow)) := by
      rw [List.append_assoc]
      exact List.perm_append_comm_assoc ..
    have moved := (balanced move).append_left (past.flatMap outflow)
    exact (ih.append_right _).trans (here.trans (moved.trans (List.perm_append_comm_assoc ..)))

end Run

/-! A list of processes of which one is about to move. -/

namespace Pool
variable {α : Type} {pool before after : List α} {moving process : α}

theorem mem (at_ : pool = before ++ moving :: after) : moving ∈ pool := by
  rw [at_]
  exact List.mem_append_right _ List.mem_cons_self

/-- The moving process ends. -/
theorem fewer (at_ : pool = before ++ moving :: after) : (before ++ after).Sublist pool := by
  rw [at_]
  exact (List.sublist_cons_self _ _).append_left _

theorem others (at_ : pool = before ++ moving :: after) (member : process ∈ pool) :
    process = moving ∨ process ∈ before ++ after := by
  rw [at_, List.mem_append, List.mem_cons] at member
  rcases member with left | here | right
  · exact .inr (List.mem_append_left _ left)
  · exact .inl here
  · exact .inr (List.mem_append_right _ right)

/-- The moving process goes on as another. -/
theorem replaced {later : α} (at_ : pool = before ++ moving :: after)
    (member : process ∈ before ++ later :: after) :
    process = later ∨ process ∈ pool := by
  rcases others rfl member with here | stays
  · exact .inl here
  · exact .inr ((fewer at_).subset stays)

/-- A pool of which one process has moved is another one. -/
theorem replaced_ne {later : α} (at_ : pool = before ++ moving :: after)
    (differs : later ≠ moving) : before ++ later :: after ≠ pool := by
  rintro rfl
  exact differs (List.cons.inj (List.append_cancel_left at_)).1

theorem fewer_ne (at_ : pool = before ++ moving :: after) : before ++ after ≠ pool := by
  rintro rfl
  have lengths := congrArg List.length at_
  simp at lengths

theorem sum (cost : α → Nat) (at_ : pool = before ++ moving :: after) :
    (pool.map cost).sum = ((before ++ after).map cost).sum + cost moving := by
  rw [at_, List.map_append, List.map_append, List.map_cons, List.sum_append, List.sum_append,
    List.sum_cons]
  omega

end Pool

/-- What is found in a list that has grown at its end was there before or is new. -/
theorem earlier_or_last {α : Type} {xs : List α} {x y : α} {k : Nat}
    (found : (xs ++ [x])[k]? = some y) :
    xs[k]? = some y ∨ k = xs.length ∧ y = x := by
  rcases Nat.lt_or_ge k xs.length with inside | beyond
  · exact .inl (by rwa [List.getElem?_append_left inside] at found)
  · rw [List.getElem?_append_right beyond, List.getElem?_singleton] at found
    split at found
    next first => exact .inr ⟨by omega, (Option.some.inj found).symm⟩
    · contradiction

theorem prefix_at {α : Type} {xs ys : List α} {x : α} {k : Nat} (initial : xs <+: ys)
    (found : xs[k]? = some x) : ys[k]? = some x := by
  obtain ⟨bound, rfl⟩ := List.getElem?_eq_some_iff.mp found
  exact List.prefix_iff_getElem?.mp initial k bound

/-- An event of a longer trace is one of the old trace or one of the new part. -/
theorem split_append {α : Type} {before after first second : List α} {last : α}
    (same : first ++ second = before ++ last :: after) :
    (∃ rest, first = before ++ last :: rest) ∨ ∃ rest, before = first ++ rest ∧
    second = rest ++ last :: after := by
  rcases List.append_eq_append_iff.mp same with ⟨rest, rfl, rfl⟩ | ⟨rest, rfl, tail⟩
  · exact .inr ⟨rest, rfl, rfl⟩
  · cases rest with
    | nil => exact .inr ⟨[], by simp, by simpa using tail.symm⟩
    | cons head rest =>
      obtain ⟨rfl, _⟩ := List.cons.inj tail
      exact .inl ⟨rest, rfl⟩

/-- A run passes through the step that emits an event of its trace. -/
theorem Run.at_event {step : S → List E → S → Prop} {s t : S} {events past later : List E}
    {event : E} (run : Run step s events t)
    (alone : ∀ {t fs u}, step t fs u → event ∈ fs → fs = [event])
    (split : events = past ++ event :: later) :
    ∃ before after, Run step s past before ∧ step before [event] after ∧
      Run step after later t := by
  induction run generalizing later with
  | refl => simp at split
  | @next es t fs u first last ih =>
    rcases split_append split with ⟨rest, old⟩ | ⟨rest, rfl, new⟩
    · obtain ⟨before, after, reached, emits, goes⟩ := ih old
      obtain rfl : rest ++ fs = later := by simpa [old] using split
      exact ⟨before, after, reached, emits, goes.next last⟩
    · -- the last step emits nothing beside the event
      have only : rest ++ event :: later = [event] := new ▸ alone last (by simp [new])
      obtain ⟨rfl, rfl⟩ : rest = [] ∧ later = [] := by
        cases rest with
        | nil => simpa using only
        | cons => simp at only
      refine ⟨t, u, by simpa using first, ?_, .refl⟩
      simpa [new] using last

/-- Two events in the image of a trace, in this order, come from two events of
the trace in the same order. -/
theorem pair_of_filterMap {α β : Type} {f : α → Option β} {trace : List α} {first second : β}
    (ordered : [first, second].Sublist (trace.filterMap f)) :
    ∃ x y, [x, y].Sublist trace ∧ f x = some first ∧ f y = some second := by
  obtain ⟨chosen, inside, image⟩ := List.sublist_filterMap_iff.mp ordered
  obtain ⟨before, x, rest, rfl, skipped, here, later⟩ := List.filterMap_eq_cons_iff.mp image.symm
  obtain ⟨between, y, after, rfl, _, there, _⟩ := List.filterMap_eq_cons_iff.mp later
  refine ⟨x, y, List.Sublist.trans ?_ inside, here, there⟩
  exact (((List.nil_sublist after).cons_cons y).trans
    (List.sublist_append_right between _)).cons_cons x |>.trans
    (List.sublist_append_right before _)

/-- Two events of a longer trace are both old, both new, or one of each. -/
theorem pair_append {α : Type} {past trace : List α} {first second : α}
    (ordered : [first, second].Sublist (past ++ trace)) :
    [first, second].Sublist past ∨ (first ∈ past ∧ second ∈ trace) ∨
    [first, second].Sublist trace := by
  obtain ⟨left, right, parts, old, new⟩ := List.sublist_append_iff.mp ordered
  cases left with
  | nil => exact .inr (.inr (by simpa [parts] using new))
  | cons head left =>
    obtain ⟨rfl, rest⟩ := List.cons.inj parts
    cases left with
    | nil =>
      have last : [second] = right := rest
      exact .inr (.inl ⟨old.subset List.mem_cons_self, new.subset (last ▸ List.mem_cons_self)⟩)
    | cons other left =>
      obtain ⟨rfl, ended⟩ := List.cons.inj rest
      obtain ⟨rfl, -⟩ := List.append_eq_nil_iff.mp ended.symm
      exact .inl old

/-- A pair of a longer trace whose first event is new lies in the new part. -/
theorem pair_of_new {α : Type} {past trace : List α} {first second : α}
    (ordered : [first, second].Sublist (past ++ trace)) (fresh : first ∉ past) :
    [first, second].Sublist trace := by
  rcases pair_append ordered with old | ⟨old, _⟩ | new
  · exact absurd (old.subset List.mem_cons_self) fresh
  · exact absurd old fresh
  · exact new

end GotaDaemon.Transition
