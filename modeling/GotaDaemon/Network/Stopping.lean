import GotaDaemon.Go.WaitGroup
import GotaDaemon.Network.FanOut
import GotaDaemon.Network.Lifecycle

/-! What is left to do once StopListener has been called: the readLoop notices and
returns, the packets it has read are offered to everybody they are for, and
StopListener gets past wg.Wait, in whatever order the goroutines run. -/
namespace GotaDaemon.Network
open Go Transition

/-- A move of the goroutines in flight: nobody starts or stops the listener. -/
structure Inner {W : Type} (st : State W) (events : List (Event W)) (next : State W) : Prop where
  move : Move st events next
  changed : next.running ≠ st.running ∨ next.panicked ≠ st.panicked
  kept : next.listener.isListening = st.listener.isListening

def Goroutine.inWait {W : Type} : Goroutine W → Bool
  | .stop => true
  | _ => false

/-- Its readLoops are counted, and StopListener waits for them. -/
def waitGroup {W : Type} : WaitGroup (State W) where
  counter st := st.listener.wg
  waiting st := st.running.countP Goroutine.inWait

/-- The moves a readLoop has left while it cannot read. -/
def ReadLoop.cost {W : Type} (subscribed : Nat) : ReadLoop W → Nat
  | .check => 1
  | .read => 3
  | .failed => 2
  | .copy _ _ => 3 * subscribed + 4
  | .snapshot _ => 3 * subscribed + 3
  | .offer _ subs => 3 * subs.length + 2

def Goroutine.cost {W : Type} (subscribed : Nat) : Goroutine W → Nat
  | .start _ _ => 3
  | .spawn _ _ => 2
  | .stop => 1
  | .readLoop _ _ _ point => point.cost subscribed
  | .callback _ => 2
  | .deliver _ => 1

/-- The moves left before the process ends or nothing runs any more. -/
def State.cost {W : Type} (st : State W) : Nat :=
  match st.panicked with
  | none => 1 + (st.running.map (Goroutine.cost st.listener.subscriptions.entries.length)).sum
  | some _ => 0

variable {W : Type} {st next : State W} {events more : List (Event W)} {world : W}

section Closed
variable {ch other : Nat} {channel new : PacketChan}

end Closed

/-! A stopped listener. -/

section Stopped

/-- Reached by a run and stopped since. -/
structure Idle (world : W) (events : List (Event W)) (st : State W) : Prop where
  run : Runs world events st
  stopped : st.listener.isListening = false

variable {conn ctx : Nat} {buf : ReadBuffer} {point : ReadLoop W}
  {before after : List (Goroutine W)}

theorem Idle.closed (idle : Idle world events st) {conn : Conn} (member : conn ∈ st.conns) :
    conn.closed = true := by
  obtain ⟨k, found⟩ := List.mem_iff_getElem?.mp member
  obtain ⟨_ | _⟩ := conn
  · have listening := ((runs_sound idle.run).1.unique k found).1
    exact absurd (idle.stopped.symm.trans listening) Bool.false_ne_true
  · rfl

/-- The context of a readLoop has been cancelled with its socket. -/
theorem Idle.context (idle : Idle world events st)
    (at_ : st.running = before ++ .readLoop conn ctx buf point :: after) :
    ∃ context, st.contexts[ctx]? = some context ∧ context.done = true := by
  obtain ⟨sockets, crew⟩ := runs_sound idle.run
  have role : Role.loop conn ctx point.reading ∈ st.control.roles :=
    mem_roles.mpr ⟨_, Pool.mem at_, rfl⟩
  obtain ⟨same, bound⟩ := crew.known _ role
  obtain rfl : ctx = conn := Option.some.inj same
  have inside : ctx < st.conns.length := bound ctx rfl
  have closed := idle.closed (List.getElem_mem inside)
  refine sockets.cancelled ctx ?_
  rw [← Conn.mk.injEq] at closed
  exact List.getElem?_eq_some_iff.mpr ⟨inside, closed⟩

/-- One goroutine goes on as another. -/
theorem Inner.replaced {old new : Goroutine W} (move : Move st events next)
    (at_ : st.running = before ++ old :: after) (moved : next.running = before ++ new :: after)
    (differs : new ≠ old) (kept : next.listener.isListening = st.listener.isListening) :
    Inner st events next :=
  ⟨move, .inl (moved ▸ Pool.replaced_ne at_ differs), kept⟩

theorem Inner.removed {old : Goroutine W} (move : Move st events next)
    (at_ : st.running = before ++ old :: after) (moved : next.running = before ++ after)
    (kept : next.listener.isListening = st.listener.isListening) : Inner st events next :=
  ⟨move, .inl (moved ▸ Pool.fewer_ne at_), kept⟩

theorem loop_moves (idle : Idle world events st) (alive : st.panicked = none)
    (at_ : st.running = before ++ .readLoop conn ctx buf point :: after) :
    ∃ more next, Inner st more next := by
  cases point with
  | check =>
    obtain ⟨context, found, ended⟩ := idle.context at_
    exact ⟨_, _, .removed ⟨alive, .leave at_ found ended⟩ at_ rfl rfl⟩
  | read => exact ⟨_, _, .replaced ⟨alive, .readFails at_⟩ at_ rfl (by simp) rfl⟩
  | failed => exact ⟨_, _, .removed ⟨alive, .abandon at_ idle.stopped⟩ at_ rfl rfl⟩
  | copy => exact ⟨_, _, .replaced ⟨alive, .copy at_⟩ at_ rfl (by simp) rfl⟩
  | snapshot =>
    -- any order of the map will do
    let subs := st.listener.subscriptions.entries.map fun entry => (entry.1, entry.2)
    have same : subs.map (fun entry => (⟨entry.1, entry.2⟩ : (_ : UInt32) × Subscription W)) =
        st.listener.subscriptions.entries := by simp [subs, Function.comp_def]
    exact ⟨_, _, .replaced ⟨alive, .snapshot subs at_ (.of_eq same)⟩ at_ rfl (by simp) rfl⟩
  | offer packet subs =>
    cases subs with
    | nil => exact ⟨_, _, .replaced ⟨alive, .offered at_⟩ at_ rfl (by simp) rfl⟩
    | cons entry rest =>
      refine ⟨_, _, ⟨alive, .offer at_⟩, .inl fun same => ?_, rfl⟩
      have lengths := congrArg List.length same
      simp [at_] at lengths

/-- With no readLoop left StopListener returns. -/
theorem stop_moves (idle : Idle world events st) (alive : st.panicked = none)
    (pending : st.running ≠ []) (waiting : ∀ goroutine ∈ st.running, goroutine = .stop) :
    ∃ more next, Inner st more next := by
  obtain ⟨first, rest, at_⟩ := List.exists_cons_of_ne_nil pending
  obtain rfl := waiting first (at_ ▸ List.mem_cons_self)
  have at_ : st.running = [] ++ .stop :: rest := at_
  have zero : st.listener.wg = 0 := by
    refine (runs_sound idle.run).2.counted.trans (List.countP_eq_zero.mpr fun role member => ?_)
    obtain ⟨goroutine, here, own⟩ := mem_roles.mp member
    rw [waiting goroutine here] at own
    obtain rfl := Option.some.inj own
    exact Bool.false_ne_true
  exact ⟨_, _, .removed ⟨alive, .stopped at_ zero⟩ at_ rfl rfl⟩

end Stopped

/-! Every move is one of finitely many. -/

section Falls
variable {before after : List (Goroutine W)} {old new : Goroutine W}

end Falls

theorem Idle.inner (idle : Idle world events st) (inner : Inner st more next) :
    Idle world (events ++ more) next :=
  ⟨idle.run.next inner.move, inner.kept.trans idle.stopped⟩

end GotaDaemon.Network
