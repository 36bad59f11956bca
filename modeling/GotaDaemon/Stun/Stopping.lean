import GotaDaemon.Go.WaitGroup
import GotaDaemon.Stun.Succession

/-! The end of a discovery. A Stop that no Start follows outlives all loops and
returns, unless an earlier Start has overtaken a Stop that was on its way out of
its Wait. The ticker may keep a loop from noticing that its context has ended, but
not for ever. -/
namespace GotaDaemon.Stun.Lifecycle
open Go Transition

/-- What a step does to a call of Stop. -/
inductive Proceeds (st next : State) (call : Nat) : Goroutine → Prop where
  | still : goroutine ∈ next.running → Proceeds st next call goroutine
  | locked : st.discoverer.isRunning = true → next.discoverer.isRunning = false →
      Proceeds st next call (.stop call)
  | idle : next.discoverer.isRunning = false → .stop call ∉ next.crew →
      Proceeds st next call (.stop call)
  | returned : .stop call ∉ next.crew → Proceeds st next call (.waiting call)

/-- The moves a loop has left before it comes to its select. -/
def Loop.cost : Loop → Nat
  | .queryServer _ _ => 2
  | .queryAll _ | .publish _ => 1
  | .select => 0

/-- A goroutine moves on. -/
def Goes (who : Who) (st next : State) : Prop :=
  ∃ goroutine ∈ st.running, goroutine.who = who ∧ goroutine ∉ next.running

/-- A loop is at its select and finds its context ended. -/
def State.MayEnd (st : State) (number : Nat) : Prop :=
  ∃ ctx, .loop number ctx .select ∈ st.running ∧ st.contexts[ctx]? = some true

def Goroutine.inWait : Goroutine → Bool
  | .waiting _ => true
  | _ => false

/-- Its loops are counted, and Stop waits for them. -/
def waitGroup : WaitGroup State where
  counter st := st.discoverer.wg
  waiting st := st.running.countP Goroutine.inWait

/-- Whoever can go on does, and a loop whose select may end it again and again is
ended: select takes one of the cases that are ready at random. A process that has
panicked does nothing any more. -/
structure Fair (trace : Nat → WaitGroup.State State) : Prop where
  scheduled : ∀ who, WeaklyFair
    (fun time => ∃ events next, waitGroup.Step Step (trace time) events next ∧
      Goes who (trace time).system next.system)
    fun time => Goes who (trace time).system (trace (time + 1)).system
  chosen : ∀ number, StronglyFair
    (fun time => (trace time).reused = false ∧ (trace time).system.MayEnd number)
    fun time => .loop number ∉ (trace time).system.crew

/-- The same where nothing panics. -/
structure FairSteps (trace : Nat → State) : Prop where
  scheduled : ∀ who, WeaklyFair
    (fun time => ∃ events next, Step (trace time) events next ∧ Goes who (trace time) next)
    fun time => Goes who (trace time) (trace (time + 1))
  chosen : ∀ number, StronglyFair (fun time => (trace time).MayEnd number)
    fun time => .loop number ∉ (trace time).crew

/-- A step with which no discovery starts. -/
def Unstarted (st : State) (events : List Event) (next : State) : Prop :=
  Step st events next ∧ next.launched = st.launched

variable {st next : State} {events past : List Event} {servers : List String} {identity : Identity}
  {who : Who} {number ctx call : Nat} {point : Loop} {goroutine : Goroutine}

section Calls
variable {before after : List Goroutine} {moving : Goroutine}

theorem step_proceeds (step : Step st events next) (distinct : Distinct st)
    (member : goroutine ∈ st.running) (own : goroutine.who = .stop call) :
    Proceeds st next call goroutine := by
  cases step with
  | start done started =>
    refine .still ?_
    rw [start_ok started]
    exact List.mem_append_left _ member
  | startFails | expire => exact .still member
  | callStop => exact .still (List.mem_append_left _ member)
  | stop at_ running =>
    rcases Pool.others at_ member with rfl | stays
    · cases own
      exact .locked running rfl
    · exact .still ((Pool.fewer rfl).subset stays)
  | stopIdle at_ stopped =>
    rcases Pool.others at_ member with rfl | stays
    · cases own
      exact .idle stopped (distinct.ended at_ rfl)
    · exact .still stays
  | stopped at_ =>
    rcases Pool.others at_ member with rfl | stays
    · cases own
      exact .returned (distinct.ended at_ rfl)
    · exact .still stays
  | loop at_ =>
    rcases Pool.others at_ member with rfl | stays
    · cases own
    · exact .still ((Pool.fewer rfl).subset stays)
  | leave at_ =>
    rcases Pool.others at_ member with rfl | stays
    · cases own
    · exact .still stays

theorem Distinct.alone (held : Distinct st) (at_ : st.running = before ++ moving :: after) :
    moving ∉ before ++ after := by
  have once := held.once.of_map
  rw [at_] at once
  exact (List.nodup_middle.mp once).notMem

theorem Distinct.replaced (held : Distinct st) (at_ : st.running = before ++ moving :: after)
    (differs : moving ≠ goroutine) : moving ∉ before ++ goroutine :: after := by
  intro member
  rcases Pool.others rfl member with same | stays
  · exact differs same
  · exact held.alone at_ stays

/-- A call of Stop gets the lock. -/
theorem stop_moves (distinct : Distinct st) (member : .stop call ∈ st.running) :
    ∃ events next, Step st events next ∧ .stop call ∉ next.running := by
  obtain ⟨before, after, at_⟩ := List.append_of_mem member
  cases running : st.discoverer.isRunning with
  | true => exact ⟨_, _, .stop at_ running, distinct.replaced at_ (by simp)⟩
  | false => exact ⟨_, _, .stopIdle at_ running, distinct.alone at_⟩

theorem waiting_moves (distinct : Distinct st) (none : st.discoverer.wg = 0)
    (member : .waiting call ∈ st.running) :
    ∃ events next, Step st events next ∧ .waiting call ∉ next.running := by
  obtain ⟨before, after, at_⟩ := List.append_of_mem member
  exact ⟨_, _, .stopped at_ none, distinct.alone at_⟩

/-- Every control point of a loop is followed by another one. -/
theorem loop_moves (distinct : Distinct st) (member : .loop number ctx point ∈ st.running)
    {done : Bool} (context : st.contexts[ctx]? = some done) :
    ∃ events next, Step st events next ∧ .loop number ctx point ∉ next.running := by
  obtain ⟨before, after, at_⟩ := List.append_of_mem member
  have moves {addr : Option UDPAddr} {later : Loop}
      (moved : LoopStep st.discoverer.servers done point addr later) (differs : point ≠ later) :
      ∃ events next, Step st events next ∧ .loop number ctx point ∉ next.running :=
    ⟨_, _, .loop at_ context moved, distinct.replaced at_ (by simpa using differs)⟩
  cases point with
  | queryAll rest =>
    cases rest with
    | nil => exact moves .exhausted (by simp)
    | cons server rest =>
      cases done with
      | true => exact moves (.cancelled rfl) (by simp)
      | false => exact moves (.attempt rfl) (by simp)
  | queryServer => exact moves .failed (by simp)
  | publish => exact moves .publish (by simp)
  | select => exact moves .tick (by simp)

theorem LoopStep.cost {addr : Option UDPAddr} {later : Loop}
    (step : LoopStep servers true point addr later) (busy : point ≠ .select) :
    later.cost < point.cost := by
  cases step <;> simp_all [Loop.cost]

theorem mem_loops : number ∈ st.loops ↔ .loop number ∈ st.crew := by
  simp only [State.loops, State.crew, List.mem_filterMap, List.mem_map]
  refine exists_congr fun goroutine => and_congr_right fun _ => ?_
  cases goroutine <;> simp [Goroutine.number, Goroutine.who]

theorem runs_accounted (run : Run Step (.initial servers identity) events st) :
    Accounted events st := by
  apply Run.invariant (P := Accounted) accounted_initial _ run
  exact fun held step => (step_change step).accounted held

end Calls

/-! Fair behaviours in which no discovery starts. -/

section Behaviours
variable {trace : Nat → State}

/-- A state of such a behaviour is one that the discoverer can reach. -/
theorem reachable (run : Run Step (.initial servers identity) past st)
    (behaviour : Behaviour Unstarted st trace) (time : Nat) :
    ∃ events, Run Step (.initial servers identity) events (trace time) := by
  obtain ⟨more, further⟩ := behaviour.reached time
  exact ⟨_, run.trans (further.mono And.left)⟩

theorem distinct_at (run : Run Step (.initial servers identity) past st)
    (behaviour : Behaviour Unstarted st trace) (time : Nat) : Distinct (trace time) := by
  obtain ⟨_, run⟩ := reachable run behaviour time
  exact runs_distinct run

theorem launched_at (behaviour : Behaviour Unstarted st trace) (time : Nat) :
    (trace time).launched = st.launched := by
  apply behaviour.persists (P := fun now => now.launched = st.launched) _ (Nat.zero_le time)
  · rw [behaviour.start]
  · exact fun move same => move.2.trans same

/-- A goroutine that can go on from where it is does so with some step. -/
theorem FairSteps.moves (fair : FairSteps trace)
    (run : Run Step (.initial servers identity) past st)
    (behaviour : Behaviour Unstarted st trace) {start : Nat}
    (here : goroutine ∈ (trace start).running)
    (able : ∀ time, start ≤ time → goroutine ∈ (trace time).running →
      ∃ events next, Step (trace time) events next ∧ goroutine ∉ next.running) :
    ∃ time events, start ≤ time ∧ Step (trace time) events (trace (time + 1)) ∧
      goroutine ∈ (trace time).running ∧ goroutine ∉ (trace (time + 1)).running := by
  have goes : ∃ time, start ≤ time ∧ goroutine ∈ (trace time).running ∧
      goroutine ∉ (trace (time + 1)).running := by
    apply (fair.scheduled goroutine.who).leaves (fun time => goroutine ∈ (trace time).running)
    · intro time later member
      obtain ⟨events, next, step, left⟩ := able time later member
      exact ⟨events, next, step, goroutine, member, rfl, left⟩
    · rintro time member ⟨other, there, own, left⟩
      rwa [(distinct_at run behaviour time).same member there own.symm]
    · exact here
  obtain ⟨time, later, member, left⟩ := goes
  rcases behaviour.next time with same | ⟨events, move⟩
  · rw [same] at left
    contradiction
  · exact ⟨time, events, later, move.1, member, left⟩

/-- Without Start a stopped discoverer stays stopped. -/
theorem step_stopped (move : Unstarted st events next)
    (stopped : st.discoverer.isRunning = false) : next.discoverer.isRunning = false := by
  cases move.1 with
  | start done started =>
    have more := move.2
    rw [start_ok started] at more
    exact absurd more (Nat.succ_ne_self _)
  | stop => rfl
  | _ => exact stopped

/-- A loop that has been told to end comes to its select again and again. -/
theorem comes_to_select (run : Run Step (.initial servers identity) past st)
    (behaviour : Behaviour Unstarted st trace) (fair : FairSteps trace) {start : Nat}
    (stopped : (trace start).discoverer.isRunning = false)
    (member : .loop number ctx point ∈ (trace start).running) :
    ∃ time, start ≤ time ∧ (trace time).MayEnd number := by
  have context {time : Nat} {here : Loop} (later : start ≤ time)
      (member : .loop number ctx here ∈ (trace time).running) :
      (trace time).contexts[ctx]? = some true := by
    obtain ⟨_, reached⟩ := reachable run behaviour time
    exact runs_superseded reached member (.inl (behaviour.persists step_stopped later stopped))
  induction left : point.cost using Nat.strong_induction_on generalizing point start with
  | h left ih =>
    by_cases busy : point = .select
    · subst busy
      exact ⟨start, Nat.le_refl start, ctx, member, context (Nat.le_refl start) member⟩
    · obtain ⟨time, events, later, step, here, gone⟩ := fair.moves run behaviour member
        fun time later here => loop_moves (distinct_at run behaviour time) here (context later here)
      have distinct := distinct_at run behaviour time
      cases step_follows step distinct here with
      | still stays => exact absurd stays gone
      | ended => exact absurd rfl busy
      | moved found moved stays =>
        obtain rfl := Option.some.inj (found.symm.trans (context later here))
        have after : start ≤ time + 1 := by omega
        obtain ⟨last, further, there⟩ := ih _ (left ▸ moved.cost busy)
          (behaviour.persists step_stopped after stopped) stays
          (fun later => context (after.trans later)) rfl
        exact ⟨last, after.trans further, there⟩

theorem loop_ends (run : Run Step (.initial servers identity) past st)
    (behaviour : Behaviour Unstarted st trace) (fair : FairSteps trace) {start : Nat}
    (stopped : (trace start).discoverer.isRunning = false) (number : Nat) :
    ∃ time, start ≤ time ∧ .loop number ∉ (trace time).crew := by
  by_contra never
  push Not at never
  obtain ⟨time, later, ended⟩ := fair.chosen number start fun time later => by
    obtain ⟨goroutine, member, own⟩ := mem_crew.mp (never time later)
    cases goroutine with
    | loop other ctx point =>
      obtain rfl := Who.loop.inj own
      exact comes_to_select run behaviour fair
        (behaviour.persists step_stopped later stopped) member
    | stop | waiting => cases own
  exact ended (never time later)

/-- Who has ended does not come back. -/
theorem gone_for_good (behaviour : Behaviour Unstarted st trace) {first last : Nat}
    (later : first ≤ last) (known : who.Known (trace first)) (gone : who ∉ (trace first).crew) :
    who ∉ (trace last).crew := by
  have kept : who.Known (trace last) ∧ who ∉ (trace last).crew := by
    apply behaviour.persists (P := fun st => who.Known st ∧ who ∉ st.crew) _ later ⟨known, gone⟩
    rintro st events next ⟨step, _⟩ ⟨known, gone⟩
    exact ⟨(step_shift step).known known, (step_shift step).gone known gone⟩
  exact kept.2

/-- One after the other all loops end. -/
theorem loops_end (run : Run Step (.initial servers identity) past st)
    (behaviour : Behaviour Unstarted st trace) (fair : FairSteps trace) {start : Nat}
    (stopped : (trace start).discoverer.isRunning = false) :
    ∃ time, start ≤ time ∧ ∀ later, time ≤ later → (trace later).loops = [] := by
  have below (bound : Nat) (some_ : bound ≤ st.launched) : ∃ time, start ≤ time ∧
      ∀ later, time ≤ later → ∀ number < bound, .loop number ∉ (trace later).crew := by
    induction bound with
    | zero => exact ⟨start, Nat.le_refl start, fun _ _ number few => absurd few (Nat.not_lt_zero _)⟩
    | succ bound ih =>
      obtain ⟨time, after, ended⟩ := ih (by omega)
      obtain ⟨last, further, gone⟩ := loop_ends run behaviour fair
        (behaviour.persists step_stopped after stopped) bound
      have known : Who.Known (trace last) (.loop bound) := by
        rw [Who.Known, launched_at behaviour]
        exact some_
      refine ⟨last, after.trans further, fun later much number few => ?_⟩
      rcases Nat.lt_succ_iff_lt_or_eq.mp few with fewer | rfl
      · exact ended later (further.trans much) number fewer
      · exact gone_for_good behaviour much known gone
  obtain ⟨time, after, ended⟩ := below st.launched (Nat.le_refl _)
  refine ⟨time, after, fun later much => List.eq_nil_iff_forall_not_mem.mpr fun number member => ?_⟩
  have running := mem_loops.mp member
  have known : number < (trace later).launched :=
    (distinct_at run behaviour later).known _ running
  rw [launched_at behaviour] at known
  exact ended later much number known running

/-- A call of Stop gets the lock and finds or leaves the discoverer stopped. -/
theorem stop_locks (run : Run Step (.initial servers identity) past st)
    (behaviour : Behaviour Unstarted st trace) (fair : FairSteps trace)
    (called : .stop call ∈ st.running) :
    ∃ time, (trace time).discoverer.isRunning = false := by
  obtain ⟨time, events, _, step, here, gone⟩ := fair.moves run behaviour
    (behaviour.start ▸ called) fun time _ => stop_moves (distinct_at run behaviour time)
  cases step_proceeds step (distinct_at run behaviour time) here rfl with
  | still stays => exact absurd stays gone
  | locked _ stopped | idle stopped => exact ⟨time + 1, stopped⟩

/-- With all loops ended a call of Stop returns. -/
theorem stop_ends (run : Run Step (.initial servers identity) past st)
    (behaviour : Behaviour Unstarted st trace) (fair : FairSteps trace) {start : Nat}
    (stopped : (trace start).discoverer.isRunning = false)
    (ended : ∀ time, start ≤ time → (trace time).loops = []) (call : Nat) :
    ∃ time, start ≤ time ∧ .stop call ∉ (trace time).crew := by
  by_cases member : .stop call ∈ (trace start).crew
  · obtain ⟨goroutine, here, own⟩ := mem_crew.mp member
    obtain ⟨time, events, later, step, here, gone⟩ := fair.moves run behaviour here
      fun time later here => by
        have distinct := distinct_at run behaviour time
        cases goroutine with
        | loop => cases own
        | stop => exact stop_moves distinct here
        | waiting =>
          obtain ⟨_, reached⟩ := reachable run behaviour time
          have none : (trace time).discoverer.wg = 0 := by
            rw [(runs_accounted reached).counted, ended time later, List.length_nil]
          exact waiting_moves distinct none here
    refine ⟨time + 1, by omega, ?_⟩
    cases step_proceeds step (distinct_at run behaviour time) here own with
    | still stays => exact absurd stays gone
    | locked running =>
      have idle := behaviour.persists step_stopped later stopped
      exact absurd (idle.symm.trans running) Bool.false_ne_true
    | idle _ returned | returned returned => exact returned
  · exact ⟨start, Nat.le_refl start, member⟩

/-- A call that is not yet over returns, and in the end no loop is left. -/
theorem call_returns (run : Run Step (.initial servers identity) past st)
    (behaviour : Behaviour Unstarted st trace) (fair : FairSteps trace)
    (called : .stop call ∈ st.running ∨
      .waiting call ∈ st.running ∧ st.discoverer.isRunning = false) :
    ∃ time, ∀ later, time ≤ later →
      (trace later).loops = [] ∧ .stop call ∉ (trace later).crew := by
  obtain ⟨locked, stopped⟩ : ∃ time, (trace time).discoverer.isRunning = false := by
    rcases called with called | ⟨_, stopped⟩
    · exact stop_locks run behaviour fair called
    · exact ⟨0, behaviour.start ▸ stopped⟩
  obtain ⟨first, after, ended⟩ := loops_end run behaviour fair stopped
  obtain ⟨last, further, gone⟩ :=
    stop_ends run behaviour fair (behaviour.persists step_stopped after stopped) ended call
  have known : Who.Known (trace last) (.stop call) := by
    have before : Who.Known (trace 0) (.stop call) := by
      rw [behaviour.start]
      refine (runs_distinct run).known _ (mem_crew.mpr ?_)
      rcases called with called | ⟨called, _⟩ <;> exact ⟨_, called, rfl⟩
    exact behaviour.persists (P := fun st => Who.Known st (.stop call))
      (fun move known => (step_shift move.1).known known) (Nat.zero_le last) before
  exact ⟨last, fun later much =>
    ⟨ended later (further.trans much), gone_for_good behaviour much known gone⟩⟩

end Behaviours

section Panics
variable {w : WaitGroup.State State} {trace : Nat → WaitGroup.State State}

theorem Fair.steps (fair : Fair trace) (alive : ∀ time, (trace time).reused = false) :
    FairSteps fun time => (trace time).system where
  scheduled who start possible := by
    refine fair.scheduled who start fun time later => ?_
    obtain ⟨events, next, step, goes⟩ := possible time later
    obtain ⟨after, lifted⟩ := waitGroup.step_lift (alive time) step
    exact ⟨events, ⟨next, after, false⟩, lifted, goes⟩
  chosen number start possible := by
    refine fair.chosen number start fun time later => ?_
    obtain ⟨again, much, may⟩ := possible time later
    exact ⟨again, much, alive again, may⟩

/-- Only Start adds to the counter. -/
theorem Unstarted.lowers (move : Unstarted st events next) :
    waitGroup.counter next ≤ waitGroup.counter st := by
  obtain ⟨step, same⟩ := move
  change next.discoverer.wg ≤ st.discoverer.wg
  cases step_change step with
  | launched _ launched => omega
  | ended _ _ _ wg => omega
  | stopping _ _ wg | returned _ _ wg | other _ _ wg => omega

/-- A Stop that panics has been overtaken by a Start before. -/
theorem panic_overtaken
    (run : Run (waitGroup.Step Step) (.initial (.initial servers identity)) past w)
    (behaviour : Behaviour (waitGroup.Step Unstarted) w trace) {time : Nat}
    (panicked : (trace time).reused = true) :
    waitGroup.Overtaken Step (.initial servers identity) past := by
  obtain ⟨more, further⟩ := behaviour.reached time
  obtain ⟨released, before⟩ := WaitGroup.run_released run
  rcases WaitGroup.run_lowering Unstarted.lowers further panicked with already | ⟨left, above⟩
  · exact before already
  · exact (released left).resolve_left fun zero => above.ne' zero.1

end Panics

/-- A Stop that no Start follows returns, and in the end no loop is left, whatever
the servers answer, if the scheduler and select are fair. Otherwise a Stop panics,
because an earlier Start had added its loop before the Wait had returned. -/
theorem stop_returns (servers : List String) (identity : Identity) (past : List Event)
    (w : WaitGroup.State State)
    (run : Run (waitGroup.Step Step) (.initial (.initial servers identity)) past w) (call : Nat)
    (called : .stop call ∈ w.system.running ∨
      .waiting call ∈ w.system.running ∧ w.system.discoverer.isRunning = false)
    (trace : Nat → WaitGroup.State State)
    (behaviour : Behaviour (waitGroup.Step Unstarted) w trace) (fair : Fair trace) :
    (∃ time, ∀ later, time ≤ later →
      (trace later).system.loops = [] ∧ .stop call ∉ (trace later).system.crew) ∨
    ∃ time, (trace time).reused = true ∧
      waitGroup.Overtaken Step (.initial servers identity) past := by
  by_cases panics : ∃ time, (trace time).reused = true
  · obtain ⟨time, panicked⟩ := panics
    exact .inr ⟨time, panicked, panic_overtaken run behaviour panicked⟩
  · have alive (time : Nat) : (trace time).reused = false :=
      Bool.eq_false_iff.mpr fun panicked => panics ⟨time, panicked⟩
    exact .inl (call_returns (WaitGroup.run_system run)
      (WaitGroup.behaviour_system behaviour alive) (fair.steps alive) called)

/-- Stop has been called right after Start. -/
def startedStopping : State where
  discoverer :=
    { servers := ["stun.example.org:3478"], cancel := some 0, wg := 1, isRunning := true }
  identity := ⟨none⟩
  contexts := [false]
  launched := 1
  calls := 1
  running := [.loop 0 0 (.queryAll ["stun.example.org:3478"]), .stop 0]

theorem stop_returns_started : ∃ (w : WaitGroup.State State) (trace : Nat → WaitGroup.State State),
    w.system = startedStopping ∧ Behaviour (waitGroup.Step Unstarted) w trace ∧ Fair trace ∧
    (∀ time, (trace time).reused = false) ∧
    ∃ time, ∀ later, time ≤ later →
      (trace later).system.loops = [] ∧ .stop 0 ∉ (trace later).system.crew := by
  have run : Run Step (.initial ["stun.example.org:3478"] ⟨none⟩) _ _ := .refl
  have run := run.next (.start false rfl)
  have run := run.next .callStop
  obtain ⟨released, run⟩ := waitGroup.run_lift false run
  have further : Run Unstarted startedStopping _ _ := .refl
  have further := further.next ⟨.stop (rfl : _ = [_] ++ _ :: []) rfl, rfl⟩
  have further := further.next ⟨.loop (rfl : _ = [] ++ _ :: [_]) rfl (.cancelled rfl), rfl⟩
  have further := further.next ⟨.leave (rfl : _ = [] ++ _ :: [_]) rfl, rfl⟩
  have further := further.next ⟨.stopped (rfl : _ = [] ++ _ :: []) rfl, rfl⟩
  obtain ⟨_, further⟩ := waitGroup.run_lift released further
  obtain ⟨trace, last, behaviour, rests⟩ := further.behaviour
  have fair : Fair trace := by
    refine ⟨fun who start possible => ?_, fun number start possible => ?_⟩
    · obtain ⟨_, _, _, goroutine, member, _⟩ := possible (max start last) (Nat.le_max_left ..)
      rw [rests _ (Nat.le_max_right ..)] at member
      exact absurd member List.not_mem_nil
    · obtain ⟨later, much, _, _, member, _⟩ := possible (max start last) (Nat.le_max_left ..)
      rw [rests _ ((Nat.le_max_right ..).trans much)] at member
      exact absurd member List.not_mem_nil
  have alive (time : Nat) : (trace time).reused = false := by
    by_contra panicked
    have stays := behaviour.persists (P := fun now => now.reused = true)
      (fun moved panicked => absurd moved (WaitGroup.atRest_of_reused panicked _ _))
      (Nat.le_max_left time last) (Bool.eq_true_of_not_eq_false panicked)
    rw [rests _ (Nat.le_max_right ..)] at stays
    contradiction
  refine ⟨_, trace, rfl, behaviour, fair, alive, ?_⟩
  refine (stop_returns _ _ _ ⟨startedStopping, released, false⟩ run 0 (.inl ?_) trace behaviour
    fair).resolve_right fun ⟨time, panicked, _⟩ => ?_
  · exact List.mem_cons_of_mem _ List.mem_cons_self
  · exact absurd (panicked.symm.trans (alive time)) (by simp)

end GotaDaemon.Stun.Lifecycle
