import GotaDaemon.Core.Behaviour

/-! What a sync.WaitGroup does when it is used again too early. A Wait that has been
let go looks at the counter once more and panics if an Add has raised it since. A
system whose steps know only the counter is run here with this panic added: what
comes about in any case still does, or the process ends with the panic, and that
only after such an Add. -/
namespace GotaDaemon.Go
open Transition
variable {S E : Type}

/-- What a system shows of its WaitGroup: the counter and the number of calls in Wait. -/
structure WaitGroup (S : Type) where
  counter : S → Nat
  waiting : S → Nat

namespace WaitGroup

/-- A state of the system: whether calls of Wait have been let go and not all
returned, and whether one of them has panicked. -/
structure State (S : Type) where
  system : S
  released : Bool
  reused : Bool

def State.initial (s : S) : State S := ⟨s, false, false⟩

/-- The counter has reached zero and the calls in Wait are let go. One that finds
it at zero does not wait, but may not have returned either. -/
def releases (wg : WaitGroup S) (released : Bool) (s : S) : Bool :=
  if wg.counter s = 0 then decide (0 < wg.waiting s) else released

inductive Step (wg : WaitGroup S) (step : S → List E → S → Prop) :
    State S → List E → State S → Prop where
  | go : step s events t →
      Step wg step ⟨s, released, false⟩ events ⟨t, wg.releases released t, false⟩
  /-- "WaitGroup is reused before previous Wait has returned" -/
  | reuse : 0 < wg.counter s → Step wg step ⟨s, true, false⟩ [] ⟨s, true, true⟩

/-- An Add has raised the counter from zero while a call was in Wait. -/
def Overtaken (wg : WaitGroup S) (step : S → List E → S → Prop) (s : S) (events : List E) : Prop :=
  ∃ past more later t u, events = past ++ more ++ later ∧ Run step s past t ∧ step t more u ∧
    wg.counter t = 0 ∧ 0 < wg.waiting t ∧ 0 < wg.counter u

variable {wg : WaitGroup S} {step : S → List E → S → Prop} {s t : S} {w w' : State S}
  {events more : List E}

/-- The panic aside, the system runs as before. -/
theorem run_system (run : Run (wg.Step step) w events w') : Run step w.system events w'.system := by
  apply run.invariant (P := fun events now => Run step w.system events now.system)
  · exact .refl
  · intro events now more next ran moved
    cases moved with
    | go move => exact ran.next move
    | reuse => simpa using ran

theorem run_lift (wg : WaitGroup S) (released : Bool) (run : Run step s events t) :
    ∃ after, Run (wg.Step step) ⟨s, released, false⟩ events ⟨t, after, false⟩ := by
  induction run with
  | refl => exact ⟨released, .refl⟩
  | next _ moved ih =>
    obtain ⟨after, lifted⟩ := ih
    exact ⟨_, lifted.next (.go moved)⟩

theorem step_lift (wg : WaitGroup S) (alive : w.reused = false) (moved : step w.system events t) :
    ∃ after, wg.Step step w events ⟨t, after, false⟩ := by
  obtain ⟨_, released, _⟩ := w
  obtain rfl : _ = false := alive
  exact ⟨_, .go moved⟩

/-- A process that does not panic behaves as the system does. -/
theorem behaviour_system {trace : Nat → State S} (behaviour : Behaviour (wg.Step step) w trace)
    (alive : ∀ time, (trace time).reused = false) :
    Behaviour step w.system fun time => (trace time).system where
  start := congrArg State.system behaviour.start
  next time := by
    rcases behaviour.next time with same | ⟨events, moved⟩
    · exact .inl (congrArg State.system same)
    · have after := alive (time + 1)
      generalize trace time = now, trace (time + 1) = next at moved after
      cases moved with
      | go move => exact .inr ⟨events, move⟩
      | reuse => contradiction

theorem Overtaken.mono (overtaken : wg.Overtaken step s events) (more : List E) :
    wg.Overtaken step s (events ++ more) := by
  obtain ⟨past, middle, later, t, u, rfl, rest⟩ := overtaken
  exact ⟨past, middle, later ++ more, t, u, by simp, rest⟩

/-- Calls that have been let go find the counter at zero unless they are overtaken. -/
theorem run_released (run : Run (wg.Step step) (.initial s) events w) :
    (w.released = true → wg.counter w.system = 0 ∧ 0 < wg.waiting w.system ∨
      wg.Overtaken step s events) ∧
    (w.reused = true → wg.Overtaken step s events) := by
  apply run.invariant_reached (P := fun events w => (w.released = true →
    wg.counter w.system = 0 ∧ 0 < wg.waiting w.system ∨ wg.Overtaken step s events) ∧
    (w.reused = true → wg.Overtaken step s events))
  · exact ⟨nofun, nofun⟩
  · intro events now more next ran held moved
    cases moved with
    | @go before _ after _ move =>
      refine ⟨fun released => ?_, nofun⟩
      simp only [releases] at released
      split at released
      next zero => exact .inl ⟨zero, of_decide_eq_true released⟩
      next above =>
        refine .inr ?_
        rcases held.1 released with ⟨zero, waiting⟩ | earlier
        · exact ⟨events, more, [], before, after, by simp, run_system ran, move, zero, waiting,
            Nat.pos_of_ne_zero above⟩
        · exact earlier.mono more
    | reuse above =>
      have earlier : wg.Overtaken step s events :=
        (held.1 rfl).resolve_left fun zero => above.ne' zero.1
      exact ⟨fun _ => .inr (earlier.mono []), fun _ => earlier.mono []⟩

/-- Where nothing is added any more, a panic has its cause in what was before. -/
theorem run_lowering (lowers : ∀ {s events t}, step s events t → wg.counter t ≤ wg.counter s)
    (run : Run (wg.Step step) w events w') (panicked : w'.reused = true) :
    w.reused = true ∨ w.released = true ∧ 0 < wg.counter w.system := by
  have kept : w'.reused = true ∨ w'.released = true ∧ 0 < wg.counter w'.system →
      w.reused = true ∨ w.released = true ∧ 0 < wg.counter w.system := by
    apply run.invariant (P := fun _ now =>
      now.reused = true ∨ now.released = true ∧ 0 < wg.counter now.system →
      w.reused = true ∨ w.released = true ∧ 0 < wg.counter w.system)
    · exact id
    · intro _ now _ next held moved
      cases moved with
      | go move =>
        rintro (panicked | ⟨released, above⟩)
        · contradiction
        · rw [releases, if_neg above.ne'] at released
          exact held (.inr ⟨released, above.trans_le (lowers move)⟩)
      | reuse above => exact fun _ => held (.inr ⟨rfl, above⟩)
  exact kept (.inl panicked)

theorem atRest_of_reused (panicked : w.reused = true) : AtRest (wg.Step step) w := by
  rintro events next (move | above) <;> contradiction

end WaitGroup

end GotaDaemon.Go
