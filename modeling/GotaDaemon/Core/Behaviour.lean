import GotaDaemon.Core.Transition

/-! Infinite behaviours. A behaviour may pause at any time, also for ever, so
that every run is the beginning of one; what has to happen in the end follows
from what the behaviour is known to do again and again. -/
namespace GotaDaemon.Transition
variable {S E : Type}

structure Behaviour (step : S → List E → S → Prop) (s : S) (trace : Nat → S) : Prop where
  start : trace 0 = s
  next : ∀ time, trace (time + 1) = trace time ∨
    ∃ events, step (trace time) events (trace (time + 1))

/-- Weak fairness: what stays possible is done. -/
def WeaklyFair (possible done : Nat → Prop) : Prop :=
  ∀ start, (∀ time, start ≤ time → possible time) → ∃ time, start ≤ time ∧ done time

/-- Strong fairness: what is possible again and again is done. -/
def StronglyFair (possible done : Nat → Prop) : Prop :=
  ∀ start, (∀ time, start ≤ time → ∃ later, time ≤ later ∧ possible later) →
    ∃ time, start ≤ time ∧ done time

/-- Steps of a system that keeps its trace. -/
def Traced (step : S → List E → S → Prop) (before : List E × S) (events : List E)
    (after : List E × S) : Prop :=
  step before.2 events after.2 ∧ after.1 = before.1 ++ events

/-- Nothing can be done any more. -/
def AtRest (step : S → List E → S → Prop) (s : S) : Prop := ∀ events next, ¬step s events next

/-- Whatever is done next, `P` comes about: it holds, or something can be done
and leads there whatever it is. -/
inductive Inevitable (step : S → List E → S → Prop) (P : S → Prop) : S → Prop where
  | now : P s → Inevitable step P s
  | later : (∃ events next, step s events next) →
      (∀ events next, step s events next → Inevitable step P next) → Inevitable step P s

variable {step : S → List E → S → Prop} {s t : S} {trace : Nat → S} {es : List E}

theorem Behaviour.reached (behaviour : Behaviour step s trace) (time : Nat) :
    ∃ events, Run step s events (trace time) := by
  induction time with
  | zero =>
    rw [behaviour.start]
    exact ⟨[], .refl⟩
  | succ time ih =>
    obtain ⟨events, run⟩ := ih
    rcases behaviour.next time with same | ⟨more, moved⟩
    · rw [same]
      exact ⟨events, run⟩
    · exact ⟨events ++ more, run.next moved⟩

/-- A property that steps keep holds from the time it first does. -/
theorem Behaviour.persists (behaviour : Behaviour step s trace) {P : S → Prop} {first last : Nat}
    (keeps : ∀ {t events u}, step t events u → P t → P u) (later : first ≤ last)
    (holds : P (trace first)) : P (trace last) := by
  induction last, later using Nat.le_induction with
  | base => exact holds
  | succ time _ ih =>
    rcases behaviour.next time with same | ⟨_, moved⟩
    · rwa [same]
    · exact keeps moved ih

/-- Nothing need happen after a run. -/
theorem Run.behaviour (run : Run step s es t) :
    ∃ trace last, Behaviour step s trace ∧ ∀ time, last ≤ time → trace time = t := by
  induction run with
  | refl => exact ⟨fun _ => s, 0, ⟨rfl, fun _ => .inl rfl⟩, fun _ _ => rfl⟩
  | @next _ middle more u _ moved ih =>
    obtain ⟨trace, last, ⟨start, next⟩, rests⟩ := ih
    refine ⟨fun time => if time ≤ last then trace time else u, last + 1, ⟨?_, ?_⟩, ?_⟩
    · simpa using start
    · intro time
      rcases Nat.lt_trichotomy time last with before | rfl | after
      · have inside : time + 1 ≤ last := before
        simpa [inside, Nat.le_of_lt before] using next time
      · refine .inr ⟨more, ?_⟩
        simpa [rests time (Nat.le_refl time)] using moved
      · have outside : ¬time + 1 ≤ last := by omega
        simp [outside, Nat.not_le.mpr after]
    · intro time later
      exact if_neg (by omega)

/-- A bounded count that never falls is constant in the end. -/
theorem settles {count : Nat → Nat} {limit : Nat} (grows : ∀ time, count time ≤ count (time + 1))
    (bounded : ∀ time, count time ≤ limit) (start : Nat) :
    ∃ settled, start ≤ settled ∧ ∀ time, settled ≤ time → count time = count settled := by
  -- by induction on how far the count may still rise
  induction gap : limit - count start using Nat.strong_induction_on generalizing start with
  | h gap ih =>
    by_cases constant : ∀ time, start ≤ time → count time = count start
    · exact ⟨start, Nat.le_refl start, constant⟩
    · push Not at constant
      obtain ⟨time, later, differs⟩ := constant
      have above := monotone_nat_of_le_succ grows later
      have limited := bounded time
      obtain ⟨settled, after, still⟩ := ih (limit - count time) (by omega) time rfl
      exact ⟨settled, Nat.le_trans later after, still⟩

/-- A rank that falls whenever something is done that can be done until the goal
is reached, and never rises before. -/
theorem WeaklyFair.reaches {possible done goal : Nat → Prop} (fair : WeaklyFair possible done)
    (rank : Nat → Nat) (ready : ∀ time, ¬goal time → possible time)
    (stays : ∀ time, ¬goal time → rank (time + 1) ≤ rank time)
    (falls : ∀ time, ¬goal time → done time → rank (time + 1) < rank time) (start : Nat) :
    ∃ time, start ≤ time ∧ goal time := by
  induction left : rank start using Nat.strong_induction_on generalizing start with
  | h left ih =>
    by_contra never
    push Not at never
    have below (time : Nat) (later : start ≤ time) : rank time ≤ rank start := by
      induction time, later using Nat.le_induction with
      | base => exact Nat.le_refl _
      | succ time later ih => exact (stays time (never time later)).trans ih
    obtain ⟨time, later, moved⟩ := fair start fun time later => ready time (never time later)
    have fallen : rank (time + 1) < rank start :=
      (falls time (never time later) moved).trans_le (below time later)
    obtain ⟨reached, after, holds⟩ := ih _ (left ▸ fallen) (time + 1) rfl
    exact never reached (by omega) holds

/-- What can end as long as it lasts, and ends when it does, comes to an end. -/
theorem WeaklyFair.leaves {possible done : Nat → Prop} (fair : WeaklyFair possible done)
    (here : Nat → Prop) {start : Nat} (ready : ∀ time, start ≤ time → here time → possible time)
    (ends : ∀ time, here time → done time → ¬here (time + 1)) (holds : here start) :
    ∃ time, start ≤ time ∧ here time ∧ ¬here (time + 1) := by
  by_contra never
  push Not at never
  have stays (time : Nat) (later : start ≤ time) : here time := by
    induction time, later using Nat.le_induction with
    | base => exact holds
    | succ time later ih => exact never time later ih
  obtain ⟨time, later, moved⟩ :=
    fair start fun time later => ready time later (stays time later)
  exact ends time (stays time later) moved (never time later (stays time later))

/-- The end may be described with what every step keeps. -/
theorem Inevitable.mono {P Q I : S → Prop} (sooner : Inevitable step P s)
    (keeps : ∀ {s events next}, I s → step s events next → I next)
    (implies : ∀ {s}, I s → P s → Q s) (initial : I s) : Inevitable step Q s := by
  induction sooner with
  | now holds => exact .now (implies initial holds)
  | later able _ ih => exact .later able fun events next moved => ih _ _ moved (keeps initial moved)

end GotaDaemon.Transition
