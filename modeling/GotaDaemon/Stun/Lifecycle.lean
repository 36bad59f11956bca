import GotaDaemon.Stun.Discoverer

/-! Start and Stop of the Discoverer and the discovery loops they launch. A loop is
seen from outside queryServer, which takes any time and answers anything; the
worker over the listener is one such loop. -/
namespace GotaDaemon.Stun.Lifecycle
open Go Transition

structure Discoverer where
  servers : List String
  cancel : Option Nat
  wg : Nat
  isRunning : Bool

/-- Control points of discoveryLoop: queryAll with the servers left to ask, one
of its calls of queryServer, SetPublicAddr, and the select of the loop. -/
inductive Loop where
  | queryAll (servers : List String)
  | queryServer (server : String) (rest : List String)
  | publish (addr : UDPAddr)
  | select
  deriving DecidableEq, Repr

inductive Goroutine where
  | loop (number ctx : Nat) (point : Loop)
  /-- A call of Stop that has not got the lock. -/
  | stop (call : Nat)
  /-- A call of Stop in wg.Wait. -/
  | waiting (call : Nat)

structure State where
  discoverer : Discoverer
  identity : Identity
  /-- Which of the contexts given to the loops have ended. -/
  contexts : List Bool
  launched : Nat
  calls : Nat
  running : List Goroutine

inductive Event where
  | started (loop : Nat)
  | ended (loop : Nat)
  | published (loop : Nat) (addr : UDPAddr)
  | stopCalled (call : Nat)
  /-- Stop returns, after wg.Wait or because isRunning was false. -/
  | stopReturned (call : Nat) (waited : Bool)
  deriving DecidableEq

inductive StartError where
  | alreadyRunning
  | noServers
  deriving DecidableEq, Repr

def StartError.text : StartError → String
  | .alreadyRunning => "stun discoverer is already running"
  | .noServers => "no stun servers configured"

namespace State

/-- NewDiscoverer. -/
def initial (servers : List String) (identity : Identity) : State where
  discoverer := { servers := servers, cancel := none, wg := 0, isRunning := false }
  identity := identity
  contexts := []
  launched := 0
  calls := 0
  running := []

/-- Start with a context that may have ended already. -/
def start (st : State) (done : Bool) : Except StartError State :=
  if st.discoverer.isRunning then .error .alreadyRunning
  else if st.discoverer.servers.length = 0 then .error .noServers
  else .ok { st with
    discoverer := { st.discoverer with
      isRunning := true, cancel := some st.contexts.length, wg := st.discoverer.wg + 1 }
    contexts := st.contexts ++ [done]
    launched := st.launched + 1
    running :=
      st.running ++ [.loop st.launched st.contexts.length (.queryAll st.discoverer.servers)] }

/-- The critical section of Stop while the discoverer is running. -/
def stop (st : State) : State :=
  { st with
    discoverer := { st.discoverer with isRunning := false }
    contexts := st.discoverer.cancel.elim st.contexts (st.contexts.set · true) }

end State

/-- Moves of discoveryLoop before it returns, with the address it publishes. -/
inductive LoopStep (servers : List String) (done : Bool) : Loop → Option UDPAddr → Loop → Prop where
  | exhausted : LoopStep servers done (.queryAll []) none .select
  | cancelled : done = true → LoopStep servers done (.queryAll (server :: rest)) none .select
  | attempt : done = false → LoopStep servers done (.queryAll (server :: rest)) none
      (.queryServer server rest)
  | failed : LoopStep servers done (.queryServer server rest) none (.queryAll rest)
  | succeeded (addr) : LoopStep servers done (.queryServer server rest) none (.publish addr)
  | publish : LoopStep servers done (.publish addr) (some addr) .select
  -- select takes the ticker even when the context has ended as well
  | tick : LoopStep servers done .select none (.queryAll servers)

inductive Step : State → List Event → State → Prop where
  | start (done) : st.start done = .ok next → Step st [.started st.launched] next
  | startFails (done) : st.start done = .error err → Step st [] st
  | callStop : Step st [.stopCalled st.calls]
      { st with calls := st.calls + 1, running := st.running ++ [.stop st.calls] }
  | stop : st.running = before ++ .stop call :: after → st.discoverer.isRunning = true →
      Step st [] { st.stop with running := before ++ .waiting call :: after }
  | stopIdle : st.running = before ++ .stop call :: after → st.discoverer.isRunning = false →
      Step st [.stopReturned call false] { st with running := before ++ after }
  | stopped : st.running = before ++ .waiting call :: after → st.discoverer.wg = 0 →
      Step st [.stopReturned call true] { st with running := before ++ after }
  -- the context of the caller of Start
  | expire (ctx) : Step st [] { st with contexts := st.contexts.set ctx true }
  | loop : st.running = before ++ .loop number ctx point :: after → st.contexts[ctx]? = some done →
      LoopStep st.discoverer.servers done point addr later →
      Step st (addr.toList.map (.published number))
        { st with
          identity := addr.elim st.identity fun addr => st.identity.setPublicAddr (some addr)
          running := before ++ .loop number ctx later :: after }
  | leave : st.running = before ++ .loop number ctx .select :: after →
      st.contexts[ctx]? = some true → Step st [.ended number]
        { st with discoverer.wg := st.discoverer.wg - 1, running := before ++ after }

/-- The loop that a worker over the listener is in. -/
def point : Worker → Loop
  | .idle => .select
  | .next servers => .queryAll servers
  | .resolve server rest | .random server rest _ | .leave server rest _ => .queryServer server rest
  | .subscribe query rest | .send query rest _ | .write query rest _ _ | .wait query rest _
  | .unsubscribe query rest _ _ => .queryServer query.server rest
  | .publish addr => .publish addr

/-- Between two calls of queryAll the worker over the listener does what a
discovery loop does, and publishes what it publishes. -/
theorem worker_step {W : Type} {servers : List String} {st next : Stun.State W}
    {events : List (Stun.Event W)} (step : Stun.Step servers st events next) :
    (point next.worker = point st.worker ∧ next.identity = st.identity) ∨
    ∃ addr, LoopStep servers st.done (point st.worker) addr (point next.worker) ∧
      next.identity = addr.elim st.identity fun addr => st.identity.setPublicAddr (some addr) := by
  cases step with
  | queryAll at_ =>
    rw [at_]
    exact .inr ⟨none, .tick, rfl⟩
  | exhausted at_ =>
    rw [at_]
    exact .inr ⟨none, .exhausted, rfl⟩
  | cancelled at_ done =>
    rw [at_]
    exact .inr ⟨none, .cancelled done, rfl⟩
  | attempt at_ lasting =>
    rw [at_]
    exact .inr ⟨none, .attempt lasting, rfl⟩
  | succeeded at_ =>
    rw [at_]
    exact .inr ⟨none, .succeeded _, rfl⟩
  | failed at_ =>
    rw [at_]
    exact .inr ⟨none, .failed, rfl⟩
  | publish at_ =>
    rw [at_]
    exact .inr ⟨some _, .publish, rfl⟩
  | listener | cancel | crashed => exact .inl ⟨rfl, rfl⟩
  | unresolved _ at_ | resolve _ at_ | noRandom _ at_ | make _ at_ | subscribe at_
  | sendRefused at_ | send at_
  | writeFails _ at_ | write at_ | contextDone _ at_ | timeout at_ | receive at_
  | unsubscribe at_ =>
    rw [at_]
    exact .inl ⟨rfl, rfl⟩

/-- When a Stop returns, the loops launched before it was called have ended, and
publish nothing afterwards. -/
def StopsWait (events : List Event) : Prop :=
  ∀ before call waited after, events = before ++ .stopReturned call waited :: after →
    ∀ number, [.started number, .stopCalled call].Sublist before →
      .ended number ∈ before ∧ ∀ addr, .published number addr ∉ after

/-- A Stop that finds the discoverer stopped does not find another Stop waiting
for a loop. -/
def Careful (st : State) : Event → Prop
  | .stopReturned _ false => (∃ call, .waiting call ∈ st.running) → st.discoverer.wg = 0
  | _ => True

def CarefulStep (st : State) (events : List Event) (next : State) : Prop :=
  Step st events next ∧ ∀ event ∈ events, Careful st event

def Goroutine.number : Goroutine → Option Nat
  | .loop number _ _ => some number
  | _ => none

/-- The loops that have not ended. -/
def State.loops (st : State) : List Nat := st.running.filterMap Goroutine.number

def State.Waits (st : State) : Prop := ∃ call, .waiting call ∈ st.running

/-- What a step may do to the loops and to the Stops that wait for them. -/
inductive Change (st next : State) : List Event → Prop where
  | launched : next.loops = st.loops ++ [st.launched] → next.launched = st.launched + 1 →
      next.discoverer.wg = st.discoverer.wg + 1 → next.discoverer.isRunning = true →
      Change st next [.started st.launched]
  | ended : st.loops = before ++ number :: after → next.loops = before ++ after →
      next.launched = st.launched → next.discoverer.wg = st.discoverer.wg - 1 →
        next.discoverer.isRunning = st.discoverer.isRunning →
      (st.Waits → next.Waits) → Change st next [.ended number]
  | stopping : next.loops = st.loops → next.launched = st.launched →
      next.discoverer.wg = st.discoverer.wg → next.Waits → Change st next []
  | returned : next.loops = st.loops → next.launched = st.launched →
      next.discoverer.wg = st.discoverer.wg → next.discoverer.isRunning = st.discoverer.isRunning →
      (waited = true → st.discoverer.wg = 0) →
      (waited = false → st.discoverer.isRunning = false ∧ (st.Waits → next.Waits)) →
      Change st next [.stopReturned call waited]
  | other : next.loops = st.loops → next.launched = st.launched →
      next.discoverer.wg = st.discoverer.wg → next.discoverer.isRunning = st.discoverer.isRunning →
        (st.Waits → next.Waits) →
      (∀ event ∈ events, (∃ call, event = .stopCalled call) ∨
        ∃ number addr, event = .published number addr ∧ number ∈ st.loops) →
      Change st next events

variable {st next : State} {events past : List Event} {servers : List String} {identity : Identity}

theorem start_ok {done : Bool} (started : st.start done = .ok next) : next = { st with
    discoverer := { st.discoverer with
      isRunning := true, cancel := some st.contexts.length, wg := st.discoverer.wg + 1 }
    contexts := st.contexts ++ [done]
    launched := st.launched + 1
    running :=
      st.running ++ [.loop st.launched st.contexts.length (.queryAll st.discoverer.servers)] } := by
  unfold State.start at started
  split at started
  · contradiction
  · split at started
    · contradiction
    · exact (Except.ok.inj started).symm

theorem loops_split {before after : List Goroutine} {moving : Goroutine}
    (at_ : st.running = before ++ moving :: after) :
    st.loops = before.filterMap Goroutine.number ++
      (moving.number.toList ++ after.filterMap Goroutine.number) := by
  simp only [State.loops, at_, List.filterMap_append, List.filterMap_cons]
  cases moving.number <;> rfl

/-- A Stop that waits goes on waiting while others move. -/
theorem waits_moved {before after : List Goroutine} {moving : Goroutine}
    (at_ : st.running = before ++ moving :: after) (other : ∀ call, moving ≠ .waiting call)
    (kept : (before ++ after).Sublist next.running) :
    st.Waits → next.Waits := by
  rintro ⟨call, member⟩
  rcases Pool.others at_ member with here | stays
  · exact absurd here.symm (other call)
  · exact ⟨call, kept.subset stays⟩

theorem step_change (step : Step st events next) : Change st next events := by
  cases step with
  | start done started =>
    rw [start_ok started]
    exact .launched (by simp [State.loops, Goroutine.number]) rfl rfl rfl
  | startFails => exact .other rfl rfl rfl rfl id (by simp)
  | callStop =>
    refine .other ?_ rfl rfl rfl ?_ (by simp)
    · simp [State.loops, Goroutine.number, List.filterMap_cons]
    · exact fun ⟨call, member⟩ => ⟨call, List.mem_append_left _ member⟩
  | stop at_ =>
    refine .stopping ?_ rfl rfl ⟨_, List.mem_append_right _ List.mem_cons_self⟩
    rw [loops_split at_]
    simp [State.loops, Goroutine.number, List.filterMap_cons]
  | stopIdle at_ idle =>
    refine .returned ?_ rfl rfl rfl nofun fun _ =>
      ⟨idle, waits_moved at_ nofun (List.Sublist.refl _)⟩
    rw [loops_split at_]
    simp [State.loops, Goroutine.number]
  | stopped at_ none =>
    refine .returned ?_ rfl rfl rfl (fun _ => none) nofun
    rw [loops_split at_]
    simp [State.loops, Goroutine.number]
  | expire => exact .other rfl rfl rfl rfl id (by simp)
  | loop at_ =>
    refine .other ?_ rfl rfl rfl (waits_moved at_ nofun (Pool.fewer rfl)) fun event member =>
      .inr ?_
    · rw [loops_split at_]
      simp [State.loops, Goroutine.number]
    · obtain ⟨addr, _, rfl⟩ := List.mem_map.mp member
      refine ⟨_, addr, rfl, ?_⟩
      rw [loops_split at_]
      simp [Goroutine.number]
  | leave at_ =>
    refine .ended (loops_split at_) ?_ rfl rfl rfl (waits_moved at_ nofun (List.Sublist.refl _))
    simp [State.loops]

/-- The wait group counts the loops that have not ended, an ended loop is gone for
good, and while a stopped discoverer has loops left some Stop waits for them. -/
structure Accounted (events : List Event) (st : State) : Prop where
  counted : st.discoverer.wg = st.loops.length
  alive : ∀ number, .started number ∈ events → .ended number ∈ events ∨ number ∈ st.loops
  below : ∀ number ∈ st.loops, number < st.launched
  single : st.loops.Nodup
  gone : ∀ number, .ended number ∈ events → number < st.launched ∧ number ∉ st.loops
  silent : ∀ number addr, ¬ [.ended number, .published number addr].Sublist events
  waited : st.discoverer.isRunning = false → 0 < st.discoverer.wg → st.Waits

theorem Accounted.still_silent (held : Accounted past st)
    (published : ∀ number addr, .published number addr ∈ events → .ended number ∉ past)
    (unended : ∀ number addr, ¬ [.ended number, .published number addr].Sublist events)
    (number : Nat) (addr : UDPAddr) :
    ¬ [.ended number, .published number addr].Sublist (past ++ events) := by
  intro ordered
  rcases pair_append ordered with old | ⟨old, new⟩ | new
  · exact held.silent number addr old
  · exact published number addr new old
  · exact unended number addr new

/-- A step that neither launches nor ends a loop. -/
theorem Accounted.keep (held : Accounted past st) (loops : next.loops = st.loops)
    (launched : next.launched = st.launched) (wg : next.discoverer.wg = st.discoverer.wg)
    (quiet : ∀ number, .started number ∉ events ∧ .ended number ∉ events)
    (published : ∀ number addr, .published number addr ∈ events → number ∈ st.loops)
    (waits : next.discoverer.isRunning = false → 0 < next.discoverer.wg → next.Waits) :
    Accounted (past ++ events) next where
  counted := by rw [wg, loops, held.counted]
  alive number member := by
    rw [loops]
    rcases List.mem_append.mp member with old | new
    · exact (held.alive number old).imp_left (List.mem_append_left _)
    · exact absurd new (quiet number).1
  below := by
    rw [loops, launched]
    exact held.below
  single := by
    rw [loops]
    exact held.single
  gone number member := by
    rw [loops, launched]
    rcases List.mem_append.mp member with old | new
    · exact held.gone number old
    · exact absurd new (quiet number).2
  silent := by
    apply held.still_silent
    · intro number addr member old
      exact (held.gone number old).2 (published number addr member)
    · intro number addr ordered
      exact (quiet number).2 (ordered.subset List.mem_cons_self)
  waited := waits

/-- Start launches a loop under a new number. -/
theorem Accounted.launch (held : Accounted past st) (loops : next.loops = st.loops ++ [st.launched])
    (launched : next.launched = st.launched + 1)
    (wg : next.discoverer.wg = st.discoverer.wg + 1) (running : next.discoverer.isRunning = true) :
    Accounted (past ++ [.started st.launched]) next where
  counted := by rw [wg, loops, held.counted, List.length_append, List.length_singleton]
  alive number member := by
    rw [loops]
    rcases List.mem_append.mp member with old | new
    · exact (held.alive number old).imp (List.mem_append_left _) (List.mem_append_left _)
    · obtain rfl := Event.started.inj (List.mem_singleton.mp new)
      exact .inr (List.mem_append_right _ List.mem_cons_self)
  below number member := by
    rw [loops] at member
    rw [launched]
    rcases List.mem_append.mp member with old | new
    · exact Nat.lt_succ_of_lt (held.below number old)
    · rw [List.mem_singleton.mp new]
      exact Nat.lt_succ_self _
  single := by
    have fresh : st.launched ∉ st.loops := fun member => Nat.lt_irrefl _ (held.below _ member)
    rw [loops]
    exact held.single.append (List.nodup_singleton _) (by simpa using fresh)
  gone number member := by
    have old : .ended number ∈ past := by simpa using member
    obtain ⟨bound, absent⟩ := held.gone number old
    rw [loops, launched]
    refine ⟨Nat.lt_succ_of_lt bound, fun live => ?_⟩
    rcases List.mem_append.mp live with before | new
    · exact absent before
    · exact Nat.lt_irrefl _ (List.mem_singleton.mp new ▸ bound)
  silent := held.still_silent (by simp) (by simp)
  waited idle := by
    rw [running] at idle
    contradiction

/-- A loop ends for good. -/
theorem Accounted.leave (held : Accounted past st) {before after : List Nat} {number : Nat}
    (split : st.loops = before ++ number :: after) (loops : next.loops = before ++ after)
    (launched : next.launched = st.launched) (wg : next.discoverer.wg = st.discoverer.wg - 1)
    (waits : next.discoverer.isRunning = false → 0 < next.discoverer.wg → next.Waits) :
    Accounted (past ++ [.ended number]) next where
  counted := by
    rw [wg, loops, held.counted, split]
    simp
  alive other member := by
    rw [loops]
    have old : .started other ∈ past := by simpa using member
    rcases held.alive other old with done | live
    · exact .inl (List.mem_append_left _ done)
    · rcases Pool.others split live with rfl | stays
      · exact .inl (List.mem_append_right _ List.mem_cons_self)
      · exact .inr stays
  below other member := by
    rw [loops] at member
    rw [launched]
    exact held.below other ((Pool.fewer split).subset member)
  single := by
    rw [loops]
    exact held.single.sublist (Pool.fewer split)
  gone other member := by
    rw [loops, launched]
    rcases List.mem_append.mp member with old | new
    · obtain ⟨bound, absent⟩ := held.gone other old
      exact ⟨bound, fun live => absent ((Pool.fewer split).subset live)⟩
    · obtain rfl := Event.ended.inj (List.mem_singleton.mp new)
      have single := held.single
      rw [split] at single
      exact ⟨held.below _ (Pool.mem split), (List.nodup_middle.mp single).notMem⟩
  silent := held.still_silent (by simp) (by simp)
  waited := waits

theorem Change.accounted (change : Change st next events) (held : Accounted past st) :
    Accounted (past ++ events) next := by
  cases change with
  | launched loops launched wg running => exact held.launch loops launched wg running
  | ended split loops launched wg running waits =>
    refine held.leave split loops launched wg fun idle some_ => ?_
    exact waits (held.waited (running ▸ idle) (by omega))
  | stopping loops launched wg waits =>
    exact held.keep loops launched wg (by simp) (by simp) fun _ _ => waits
  | @returned waited call loops launched wg running none idle =>
    refine held.keep loops launched wg (by simp) (by simp) fun stopped some_ => ?_
    rw [wg] at some_
    cases waited with
    | true => exact absurd (none rfl) (by omega)
    | false => exact (idle rfl).2 (held.waited (running ▸ stopped) some_)
  | other loops launched wg running waits kinds =>
    refine held.keep loops launched wg (fun number => ⟨fun member => ?_, fun member => ?_⟩)
      (fun number addr member => ?_) ?_
    · rcases kinds _ member with ⟨_, same⟩ | ⟨_, _, same, _⟩ <;> cases same
    · rcases kinds _ member with ⟨_, same⟩ | ⟨_, _, same, _⟩ <;> cases same
    · rcases kinds _ member with ⟨_, same⟩ | ⟨_, _, same, live⟩
      · cases same
      · cases same
        exact live
    · intro idle some_
      exact waits (held.waited (running ▸ idle) (wg ▸ some_))

theorem accounted_initial : Accounted [] (.initial servers identity) where
  counted := rfl
  alive _ member := absurd member List.not_mem_nil
  below _ member := absurd member List.not_mem_nil
  single := List.nodup_nil
  gone _ member := absurd member List.not_mem_nil
  silent _ _ ordered := by simp at ordered
  waited _ some_ := absurd some_ (Nat.lt_irrefl 0)

/-- A Stop that returns in a careful run leaves no loop behind. -/
theorem Change.joined (change : Change st next events)
    (careful : ∀ event ∈ events, Careful st event) (held : Accounted past st) {call : Nat}
    {waited : Bool} (returned : .stopReturned call waited ∈ events) :
    events = [.stopReturned call waited] ∧ st.loops = [] := by
  cases change with
  | @returned kind _ _ _ _ _ done idle =>
    have none : st.discoverer.wg = 0 := by
      cases kind with
      | true => exact done rfl
      | false =>
        have alone : Careful st (.stopReturned _ false) := careful _ List.mem_cons_self
        by_contra some_
        exact some_ (alone (held.waited (idle rfl).1 (Nat.pos_of_ne_zero some_)))
    refine ⟨by rw [List.mem_singleton.mp returned], ?_⟩
    exact List.eq_nil_of_length_eq_zero (held.counted ▸ none)
  | other _ _ _ _ _ kinds =>
    rcases kinds _ returned with ⟨_, same⟩ | ⟨_, _, same, _⟩ <;> cases same
  | launched | ended | stopping => simp at returned

/-- If no Stop comes to a stopped discoverer while another one is waiting for a
loop, every Stop returns after the loops it is to wait for. -/
theorem careful_stops_wait (servers : List String) (identity : Identity) (events : List Event)
    (st : State) (run : Run CarefulStep (.initial servers identity) events st) :
    StopsWait events := by
  have kept : Accounted events st ∧ ∀ before call waited after,
    events = before ++ .stopReturned call waited :: after →
      ∀ number, .started number ∈ before → .ended number ∈ before := by
    apply Run.invariant (P := fun events st => Accounted events st ∧
      ∀ before call waited after, events = before ++ Event.stopReturned call waited :: after →
        ∀ number, Event.started number ∈ before → Event.ended number ∈ before) _ _ run
    · refine ⟨accounted_initial, fun before call waited after same => ?_⟩
      simp at same
    · rintro past middle events next ⟨held, joined⟩ ⟨step, careful⟩
      have change := step_change step
      refine ⟨change.accounted held, fun before call waited after same number started => ?_⟩
      rcases split_append same with ⟨rest, old⟩ | ⟨rest, rfl, new⟩
      · exact joined before call waited rest old number started
      · obtain ⟨only, empty⟩ :=
          change.joined careful held (new ▸ List.mem_append_right _ List.mem_cons_self)
        obtain rfl : rest = [] := by
          rw [only] at new
          cases rest with
          | nil => rfl
          | cons => simp at new
        rw [List.append_nil] at started ⊢
        rcases held.alive number started with ended | live
        · exact ended
        · rw [empty] at live
          exact absurd live List.not_mem_nil
  intro before call waited after same number ordered
  have ended := kept.2 before call waited after same number (ordered.subset List.mem_cons_self)
  refine ⟨ended, fun addr published => kept.1.silent number addr ?_⟩
  rw [same]
  exact (List.singleton_sublist.mpr ended).append
    (List.singleton_sublist.mpr (List.mem_cons_of_mem _ published))

theorem careful_stops_wait_once :
    ∃ events st, Run CarefulStep (.initial ["stun.example.org:3478"] ⟨none⟩) events st ∧
    .stopReturned 0 true ∈ events ∧ StopsWait events := by
  have run : Run CarefulStep (.initial ["stun.example.org:3478"] ⟨none⟩) _ _ := .refl
  have run := run.next ⟨.start false rfl, by simp [Careful]⟩
  have run := run.next ⟨.callStop, by simp [Careful]⟩
  have run := run.next ⟨.stop (rfl : _ = [_] ++ _ :: []) rfl, by simp⟩
  have run := run.next ⟨.loop (rfl : _ = [] ++ _ :: [_]) rfl (.cancelled rfl), by simp⟩
  have run := run.next ⟨.leave (rfl : _ = [] ++ _ :: [_]) rfl, by simp [Careful]⟩
  have run := run.next ⟨.stopped (rfl : _ = [] ++ _ :: []) rfl, by simp [Careful]⟩
  exact ⟨_, _, run, by simp [State.initial], careful_stops_wait _ _ _ _ run⟩

/-- The second of two overlapping Stops returns at once, and the loop publishes an address after
that. -/
theorem second_stop_returns_early : ∃ events st,
    Run Step (.initial ["stun.example.org:3478"] ⟨none⟩) events st ∧ ¬ StopsWait events := by
  have run : Run Step (.initial ["stun.example.org:3478"] ⟨none⟩) _ _ := .refl
  have run := run.next (.start false rfl)
  have run := run.next (.loop (rfl : _ = [] ++ _ :: []) rfl (.attempt rfl))
  have run := run.next .callStop
  have run := run.next (.stop (rfl : _ = [_] ++ _ :: []) rfl)
  have run := run.next .callStop
  have run := run.next (.stopIdle (rfl : _ = [_, _] ++ _ :: []) rfl)
  have run :=
    run.next (.loop (rfl : _ = [] ++ _ :: [_]) rfl (.succeeded ⟨[203, 0, 113, 7], 4000, ""⟩))
  have run := run.next (.loop (rfl : _ = [] ++ _ :: [_]) rfl .publish)
  refine ⟨_, _, run, fun waits => ?_⟩
  have ended :=
    (waits [.started 0, .stopCalled 0, .stopCalled 1] 1 false [.published 0 _] rfl 0 (by decide)).1
  revert ended
  decide

end GotaDaemon.Stun.Lifecycle
