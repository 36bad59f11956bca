import GotaDaemon.Core.Behaviour
import GotaDaemon.Ipc.Listener

/-! A local listener after its context has been cancelled. Whatever else its
watcher closes, the listener of a cancelled context does not stay open. -/
namespace GotaDaemon.Ipc.Listener
open Transition

/-- A move of the goroutines in flight: nobody calls the listener. -/
structure Inner (platform : Platform) (st : State) (events : List Event) (next : State) : Prop where
  step : Step platform st events next
  changed : next.running ≠ st.running
  fewer : next.running.length ≤ st.running.length

/-- The current socket is the only open one, and somebody watches its context. -/
structure Guarded (st : State) : Prop where
  only : ∀ ln socket, st.sockets[ln]? = some socket → socket.closed = true ∨
    st.listener.listener = some ln
  watched : ∀ own, st.currentContext = some own → own ∈ st.watched

def Goroutine.cost : Goroutine → Nat
  | .watcher _ => 2
  | .stopping _ | .accept _ => 1

def State.cost (st : State) : Nat := (st.running.map Goroutine.cost).sum

variable {platform : Platform} {st next : State} {events : List Event} {path : String}

/-- After a Stop no socket is open. -/
theorem Guarded.stop {closeErr result : Option String} (held : Guarded st)
    (stopped : st.stop closeErr = (result, next)) (rest : List Goroutine) :
    Guarded { next with running := rest } := by
  cases current : st.listener.listener with
  | none =>
    rw [stop_none stopped current]
    exact ⟨held.only, by simp [State.currentContext, current]⟩
  | some own =>
    simp only [State.stop, current, Prod.mk.injEq] at stopped
    rw [← stopped.2]
    refine ⟨fun ln socket found => .inl ?_, by simp [State.currentContext]⟩
    rw [List.getElem?_modify] at found
    obtain ⟨old, before, rfl⟩ := Option.map_eq_some_iff.mp found
    by_cases same : own = ln
    · simp [same]
    · have closed := (held.only ln old before).resolve_right fun now =>
        same (Option.some.inj (current.symm.trans now))
      simpa [same] using closed

theorem Guarded.start {ctx : Nat} {answers : Answers} (held : Guarded st)
    (started : st.start platform ctx answers = .ok next) : Guarded next := by
  obtain ⟨idle, rfl⟩ := start_ok started
  refine ⟨fun ln socket found => ?_, fun own current => ?_⟩
  · rcases earlier_or_last found with old | ⟨rfl, rfl⟩
    · have closed := (held.only ln socket old).resolve_right (by simp [idle])
      exact .inl closed
    · exact .inr rfl
  · have same : ctx = own := by simpa [State.currentContext] using current
    simp [State.watched, Goroutine.watches, same]

theorem step_guarded (step : Step platform st events next) (held : Guarded st) : Guarded next := by
  cases step with
  | start ctx answers started => exact held.start started
  | stop closeErr stopped => exact held.stop stopped next.running
  | watcherStop closeErr at_ stopped => exact held.stop stopped _
  | startFails | acceptRefused => exact held
  | cancel => exact ⟨held.only, held.watched⟩
  | wake at_ =>
    refine ⟨held.only, fun own current => ?_⟩
    have here := held.watched own current
    simpa [State.watched, at_, Goroutine.watches] using here
  | accept =>
    refine ⟨held.only, fun own current => ?_⟩
    have here := held.watched own current
    simpa [State.watched, Goroutine.watches] using here
  | accepted at_ | acceptFails at_ =>
    refine ⟨held.only, fun own current => ?_⟩
    have here := held.watched own current
    simpa [State.watched, at_, Goroutine.watches] using here

theorem runs_guarded (run : Run (Step platform) (.initial path) events st) : Guarded st := by
  apply Run.invariant (P := fun _ st => Guarded st) _ _ run
  · constructor <;> simp [State.initial, State.currentContext, IpcListener.new]
  · exact fun held step => step_guarded step held

section Moves
variable {before after : List Goroutine}

theorem Inner.replaced {old new : Goroutine} (step : Step platform st events next)
    (at_ : st.running = before ++ old :: after) (moved : next.running = before ++ new :: after)
    (differs : new ≠ old) : Inner platform st events next := by
  exact ⟨step, moved ▸ Pool.replaced_ne at_ differs, by simp [at_, moved]⟩

theorem Inner.removed {old : Goroutine} (step : Step platform st events next)
    (at_ : st.running = before ++ old :: after) (moved : next.running = before ++ after) :
    Inner platform st events next := by
  exact ⟨step, moved ▸ Pool.fewer_ne at_, by simp [at_, moved]⟩

end Moves

end GotaDaemon.Ipc.Listener
