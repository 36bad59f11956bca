import GotaDaemon.Stun.Lifecycle

/-! The discovery loops of one Discoverer after each other. One at most has a
context that lasts, the one Start launched last; the others publish no more than
the answer they have asked for. -/
namespace GotaDaemon.Stun.Lifecycle
open Go Transition

/-- A goroutine, wherever it is. -/
inductive Who where
  | loop (number : Nat)
  | stop (call : Nat)
  deriving DecidableEq

def Goroutine.who : Goroutine → Who
  | .loop number _ _ => .loop number
  | .stop call | .waiting call => .stop call

def State.crew (st : State) : List Who := st.running.map Goroutine.who

def Who.Known (st : State) : Who → Prop
  | .loop number => number < st.launched
  | .stop call => call < st.calls

/-- Nobody runs twice. -/
structure Distinct (st : State) : Prop where
  known : ∀ who ∈ st.crew, who.Known st
  once : st.crew.Nodup

/-- Who runs after a step. -/
inductive Shift (st next : State) : Prop where
  | launched : next.crew = st.crew ++ [.loop st.launched] → next.launched = st.launched + 1 →
      next.calls = st.calls → Shift st next
  | called : next.crew = st.crew ++ [.stop st.calls] → next.launched = st.launched →
      next.calls = st.calls + 1 → Shift st next
  | fewer : next.crew.Sublist st.crew → next.launched = st.launched → next.calls = st.calls →
      Shift st next

/-- Every loop has a context of its own, which lasts only while the discoverer
is running and no later loop has been launched. -/
structure Governed (st : State) : Prop where
  contexts : st.contexts.length = st.launched
  own : ∀ number ctx point, .loop number ctx point ∈ st.running → ctx = number
  current : st.discoverer.isRunning = true →
    ∃ ctx, st.discoverer.cancel = some ctx ∧ ctx + 1 = st.launched
  live : ∀ number ctx point, .loop number ctx point ∈ st.running → st.contexts[ctx]? = some false →
    st.discoverer.isRunning = true ∧ number + 1 = st.launched

/-- The answers a loop can still publish once its context has ended. -/
def Loop.pending : Loop → Nat
  | .queryServer _ _ | .publish _ => 1
  | .queryAll _ | .select => 0

def Event.publication (number : Nat) : Event → Option UDPAddr
  | .published loop addr => if loop = number then some addr else none
  | _ => none

/-- The addresses a loop publishes. -/
def publications (number : Nat) (events : List Event) : List UDPAddr :=
  events.filterMap (Event.publication number)

/-- What a step does to a loop, and what the loop publishes with it. -/
inductive Follows (st next : State) (events : List Event) (number ctx : Nat) :
    Loop → Prop where
  | still : .loop number ctx loop ∈ next.running → publications number events = [] →
      Follows st next events number ctx loop
  | moved : st.contexts[ctx]? = some done → LoopStep st.discoverer.servers done loop addr later →
      .loop number ctx later ∈ next.running → publications number events = addr.toList →
      Follows st next events number ctx loop
  | ended : .loop number ∉ next.crew → publications number events = [] →
      Follows st next events number ctx .select

/-- Once it has been told to end, a loop publishes no more than the answer it is
waiting for. -/
structure Fades (number allowance : Nat) (more : List Event) (st : State) : Prop where
  known : number < st.launched
  left : (∃ ctx point, .loop number ctx point ∈ st.running ∧ st.contexts[ctx]? = some true ∧
      (publications number more).length + point.pending ≤ allowance) ∨
    .loop number ∉ st.crew ∧ (publications number more).length ≤ allowance

variable {st next : State} {events past : List Event} {servers : List String} {identity : Identity}
  {who : Who} {number ctx : Nat} {point : Loop}

/-! Who runs. -/

section Crew
variable {before after : List Goroutine} {moving later : Goroutine}

theorem mem_crew : who ∈ st.crew ↔ ∃ goroutine ∈ st.running, goroutine.who = who := List.mem_map

theorem crew_replaced (at_ : st.running = before ++ moving :: after)
    (moved : next.running = before ++ later :: after) (same : later.who = moving.who) :
    next.crew.Sublist st.crew := by
  simp [State.crew, at_, moved, same]

theorem crew_fewer (at_ : st.running = before ++ moving :: after)
    (moved : next.running = before ++ after) : next.crew.Sublist st.crew := by
  rw [State.crew, moved]
  exact (Pool.fewer at_).map _

theorem step_shift (step : Step st events next) : Shift st next := by
  cases step with
  | start done started =>
    rw [start_ok started]
    exact .launched (by simp [State.crew, Goroutine.who]) rfl rfl
  | callStop => exact .called (by simp [State.crew, Goroutine.who]) rfl rfl
  | stop at_ | loop at_ => exact .fewer (crew_replaced at_ rfl rfl) rfl rfl
  | stopIdle at_ | stopped at_ | leave at_ => exact .fewer (crew_fewer at_ rfl) rfl rfl
  | startFails | expire => exact .fewer (.refl _) rfl rfl

theorem Shift.known (shift : Shift st next) (known : who.Known st) : who.Known next := by
  cases who with
  | loop number =>
    simp only [Who.Known] at known ⊢
    cases shift <;> omega
  | stop call =>
    simp only [Who.Known] at known ⊢
    cases shift <;> omega

/-- Whoever joins has not been there before. -/
theorem gone_joined {new : Who} (unknown : ¬new.Known st) (known : who.Known st)
    (gone : who ∉ st.crew) : who ∉ st.crew ++ [new] := by
  rw [List.mem_append, List.mem_singleton]
  rintro (old | rfl)
  · exact gone old
  · exact unknown known

/-- Who has ended does not come back. -/
theorem Shift.gone (shift : Shift st next) (known : who.Known st) (gone : who ∉ st.crew) :
    who ∉ next.crew := by
  cases shift with
  | launched crew => exact crew ▸ gone_joined (Nat.lt_irrefl _) known gone
  | called crew => exact crew ▸ gone_joined (Nat.lt_irrefl _) known gone
  | fewer crew => exact fun member => gone (crew.subset member)

theorem Shift.distinct (shift : Shift st next) (held : Distinct st) : Distinct next := by
  have fresh {new : Who} (unknown : ¬new.Known st) : (st.crew ++ [new]).Nodup :=
    held.once.append (List.nodup_singleton _)
      (List.disjoint_singleton.mpr fun member => unknown (held.known new member))
  refine ⟨fun who member => ?_, ?_⟩
  · by_cases old : who ∈ st.crew
    · exact shift.known (held.known who old)
    · cases shift with
      | launched crew launched =>
        rw [crew, List.mem_append, List.mem_singleton] at member
        obtain rfl := member.resolve_left old
        simp [Who.Known, launched]
      | called crew _ calls =>
        rw [crew, List.mem_append, List.mem_singleton] at member
        obtain rfl := member.resolve_left old
        simp [Who.Known, calls]
      | fewer crew => exact absurd (crew.subset member) old
  · cases shift with
    | launched crew => exact crew ▸ fresh (Nat.lt_irrefl _)
    | called crew => exact crew ▸ fresh (Nat.lt_irrefl _)
    | fewer crew => exact held.once.sublist crew

theorem runs_distinct (run : Run Step (.initial servers identity) events st) : Distinct st := by
  apply Run.invariant (P := fun _ st => Distinct st) _ _ run
  · exact ⟨fun who member => absurd member List.not_mem_nil, List.nodup_nil⟩
  · exact fun held step => (step_shift step).distinct held

theorem Distinct.same (held : Distinct st) {first second : Goroutine} (here : first ∈ st.running)
    (there : second ∈ st.running) (same : first.who = second.who) : first = second :=
  List.inj_on_of_nodup_map held.once here there same

/-- Who ends does not run any more. -/
theorem Distinct.ended (held : Distinct st) (at_ : st.running = before ++ moving :: after)
    (moved : next.running = before ++ after) : moving.who ∉ next.crew := by
  have once := held.once
  rw [State.crew, at_, List.map_append, List.map_cons] at once
  rw [State.crew, moved, List.map_append]
  exact (List.nodup_middle.mp once).notMem

end Crew

/-! Contexts. -/

section Contexts

/-- A step of a loop, or of a Stop that does not find the discoverer running. -/
theorem Governed.keep (held : Governed st) (launched : next.launched = st.launched)
    (discoverer : next.discoverer.isRunning = st.discoverer.isRunning ∧
      next.discoverer.cancel = st.discoverer.cancel)
    (length : next.contexts.length = st.contexts.length)
    (lasting : ∀ ctx : Nat, next.contexts[ctx]? = some false → st.contexts[ctx]? = some false)
    (loops : ∀ number ctx point, .loop number ctx point ∈ next.running →
      ∃ old, .loop number ctx old ∈ st.running) : Governed next where
  contexts := by rw [length, launched, held.contexts]
  own number ctx point member := by
    obtain ⟨old, before⟩ := loops number ctx point member
    exact held.own number ctx old before
  current running := by
    rw [discoverer.2, launched]
    exact held.current (discoverer.1 ▸ running)
  live number ctx point member context := by
    obtain ⟨old, before⟩ := loops number ctx point member
    rw [discoverer.1, launched]
    exact held.live number ctx old before (lasting ctx context)

/-- The loops of a stopped discoverer have been told to end. -/
theorem Governed.start (held : Governed st) (distinct : Distinct st) {done : Bool}
    (started : st.start done = .ok next) : Governed next := by
  have stopped : st.discoverer.isRunning = false := by
    unfold State.start at started
    split at started
    · contradiction
    · exact Bool.eq_false_iff.mpr ‹_›
  rw [start_ok started]
  refine ⟨by simp [held.contexts], fun number ctx point member => ?_,
    fun _ => ⟨_, rfl, by simp [held.contexts]⟩, fun number ctx point member lasting => ⟨rfl, ?_⟩⟩
  · rcases List.mem_append.mp member with old | new
    · exact held.own number ctx point old
    · simp only [List.mem_singleton, Goroutine.loop.injEq] at new
      rw [new.1, new.2.1, held.contexts]
  · rcases List.mem_append.mp member with old | new
    · rcases earlier_or_last lasting with before | ⟨beyond, _⟩
      · have running := (held.live number ctx point old before).1
        exact absurd (stopped.symm.trans running) Bool.false_ne_true
      · have known : number < st.launched := distinct.known _ (mem_crew.mpr ⟨_, old, rfl⟩)
        rw [held.own number ctx point old, held.contexts] at beyond
        exact absurd beyond known.ne
    · simp only [List.mem_singleton, Goroutine.loop.injEq] at new
      rw [new.1]

/-- Stop ends the only context that may last. -/
theorem Governed.stop (held : Governed st) (running : st.discoverer.isRunning = true)
    {rest : List Goroutine} (loops : ∀ number ctx point, .loop number ctx point ∈ rest →
      .loop number ctx point ∈ st.running) : Governed { st.stop with running := rest } := by
  obtain ⟨current, cancel, last⟩ := held.current running
  refine ⟨by simp [State.stop, cancel, held.contexts],
    fun number ctx point member => held.own number ctx point (loops _ _ _ member), nofun,
    fun number ctx point member lasting => ?_⟩
  simp only [State.stop, cancel, Option.elim_some, List.getElem?_set] at lasting
  split at lasting
  · split at lasting <;> simp at lasting
  next other =>
    have old := loops number ctx point member
    have latest := (held.live number ctx point old lasting).2
    have own := held.own number ctx point old
    omega

theorem step_governed (step : Step st events next) (distinct : Distinct st) (held : Governed st) :
    Governed next := by
  cases step with
  | start done started => exact held.start distinct started
  | startFails => exact held
  | callStop =>
    refine held.keep rfl ⟨rfl, rfl⟩ rfl (fun _ => id) fun number ctx point member => ⟨point, ?_⟩
    simpa using member
  | stop at_ running =>
    refine held.stop running fun number ctx point member => ?_
    exact (Pool.replaced at_ member).resolve_left nofun
  | stopIdle at_ | stopped at_ | leave at_ =>
    exact held.keep rfl ⟨rfl, rfl⟩ rfl (fun _ => id) fun number ctx point member =>
      ⟨point, (Pool.fewer at_).subset member⟩
  | expire ctx =>
    refine held.keep rfl ⟨rfl, rfl⟩ (by simp) (fun ctx lasting => ?_) fun number ctx point member =>
      ⟨point, member⟩
    simp only [List.getElem?_set] at lasting
    split at lasting
    · split at lasting <;> simp at lasting
    · exact lasting
  | loop at_ =>
    refine held.keep rfl ⟨rfl, rfl⟩ rfl (fun _ => id) fun number ctx point member => ?_
    rcases Pool.replaced at_ member with same | old
    · cases same
      exact ⟨_, Pool.mem at_⟩
    · exact ⟨point, old⟩

theorem runs_governed (run : Run Step (.initial servers identity) events st) : Governed st := by
  apply Run.invariant_reached (P := fun _ st => Governed st) _ _ run
  · exact ⟨rfl, fun _ _ _ member => absurd member List.not_mem_nil, nofun,
      fun _ _ _ member => absurd member List.not_mem_nil⟩
  · exact fun before held step => step_governed step (runs_distinct before) held

/-- Every loop has been given a context. -/
theorem runs_context (run : Run Step (.initial servers identity) events st)
    (member : .loop number ctx point ∈ st.running) : ∃ done, st.contexts[ctx]? = some done := by
  have known : number < st.launched :=
    (runs_distinct run).known _ (mem_crew.mpr ⟨_, member, rfl⟩)
  have governed := runs_governed run
  rw [← governed.contexts, ← governed.own number ctx point member] at known
  exact ⟨_, List.getElem?_eq_getElem known⟩

/-- A loop that has been stopped, or is not the last one, has been told to end. -/
theorem runs_superseded (run : Run Step (.initial servers identity) events st)
    (member : .loop number ctx point ∈ st.running)
    (superseded : st.discoverer.isRunning = false ∨ number + 1 ≠ st.launched) :
    st.contexts[ctx]? = some true := by
  obtain ⟨done, context⟩ := runs_context run member
  cases done with
  | true => exact context
  | false =>
    obtain ⟨running, last⟩ := (runs_governed run).live number ctx point member context
    rcases superseded with stopped | later
    · exact absurd (stopped.symm.trans running) Bool.false_ne_true
    · exact absurd last later

end Contexts

/-- At any time one loop at most goes on asking servers: the one launched last,
and only while the discoverer is running. -/
theorem discovery_exclusive (servers : List String) (identity : Identity) (events : List Event)
    (st : State) (run : Run Step (.initial servers identity) events st) (number ctx : Nat)
    (point : Loop) (member : .loop number ctx point ∈ st.running)
    (lasting : st.contexts[ctx]? = some false) :
    st.discoverer.isRunning = true ∧ number + 1 = st.launched ∧ ∀ other ctx point,
      .loop other ctx point ∈ st.running → st.contexts[ctx]? = some false → other = number := by
  have governed := runs_governed run
  obtain ⟨running, last⟩ := governed.live number ctx point member lasting
  refine ⟨running, last, fun other ctx point member lasting => ?_⟩
  have latest := (governed.live other ctx point member lasting).2
  omega

/-- Stopped and started again while the first loop is still waiting for an answer. -/
theorem discovery_exclusive_restarted : ∃ events st rest first second,
    Run Step (.initial ["stun.example.org:3478"] ⟨none⟩) events st ∧
    st.running = .loop 0 0 first :: rest ∧ .loop 1 1 second ∈ rest ∧
    ∀ other ctx point, .loop other ctx point ∈ st.running → st.contexts[ctx]? = some false →
      other = 1 := by
  have run : Run Step (.initial ["stun.example.org:3478"] ⟨none⟩) _ _ := .refl
  have run := run.next (.start false rfl)
  have run := run.next (.loop (rfl : _ = [] ++ _ :: []) rfl (.attempt rfl))
  have run := run.next .callStop
  have run := run.next (.stop (rfl : _ = [_] ++ _ :: []) rfl)
  have run := run.next (.start false rfl)
  have second := discovery_exclusive _ _ _ _ run 1 1 _
    (List.mem_append_right _ List.mem_cons_self) rfl
  exact ⟨_, _, _, _, _, run, rfl, List.mem_cons_of_mem _ List.mem_cons_self, second.2.2⟩

/-! One loop in the steps of all. -/

section Follow

theorem publications_append (first second : List Event) :
    publications number (first ++ second) =
      publications number first ++ publications number second := List.filterMap_append

theorem publications_own (addr : Option UDPAddr) :
    publications number (addr.toList.map (.published number)) = addr.toList := by
  cases addr <;> simp [publications, Event.publication]

theorem publications_other {other : Nat} (differs : other ≠ number) (addr : Option UDPAddr) :
    publications number (addr.toList.map (.published other)) = [] := by
  cases addr <;> simp [publications, Event.publication, differs]

theorem step_follows (step : Step st events next) (distinct : Distinct st)
    (member : .loop number ctx point ∈ st.running) :
    Follows st next events number ctx point := by
  have stays {before after : List Goroutine} {moving : Goroutine}
      (at_ : st.running = before ++ moving :: after) (other : .loop number ctx point ≠ moving) :
      .loop number ctx point ∈ before ++ after := (Pool.others at_ member).resolve_left other
  cases step with
  | start done started =>
    refine .still ?_ rfl
    rw [start_ok started]
    exact List.mem_append_left _ member
  | startFails | expire => exact .still member rfl
  | callStop => exact .still (List.mem_append_left _ member) rfl
  | stop at_ => exact .still ((Pool.fewer rfl).subset (stays at_ (by simp))) rfl
  | stopIdle at_ | stopped at_ => exact .still (stays at_ (by simp)) rfl
  | @loop _ _ _ _ _ addr _ _ other at_ context moved =>
    by_cases same : other = number
    · subst same
      have here := distinct.same member (Pool.mem at_) rfl
      simp only [Goroutine.loop.injEq, true_and] at here
      obtain ⟨rfl, rfl⟩ := here
      exact .moved context moved (Pool.mem rfl) (publications_own addr)
    · refine .still ((Pool.fewer rfl).subset (stays at_ ?_)) (publications_other same addr)
      exact fun here => same (Goroutine.loop.inj here).1.symm
  | @leave _ _ _ _ other at_ =>
    by_cases same : other = number
    · subst same
      have here := distinct.same member (Pool.mem at_) rfl
      simp only [Goroutine.loop.injEq, true_and] at here
      obtain ⟨rfl, rfl⟩ := here
      exact .ended (distinct.ended at_ rfl) rfl
    · refine .still (stays at_ ?_) rfl
      exact fun here => same (Goroutine.loop.inj here).1.symm

/-- A context that has ended does not begin again. -/
theorem step_ended (step : Step st events next) (ended : st.contexts[ctx]? = some true) :
    next.contexts[ctx]? = some true := by
  have inside : ctx < st.contexts.length := (List.getElem?_eq_some_iff.mp ended).1
  cases step with
  | start done started =>
    rw [start_ok started]
    exact (List.getElem?_append_left inside).trans ended
  | stop =>
    cases cancel : st.discoverer.cancel with
    | none => simpa [State.stop, cancel] using ended
    | some current =>
      simp only [State.stop, cancel, Option.elim_some, List.getElem?_set]
      split <;> simp_all
  | expire other =>
    simp only [List.getElem?_set]
    split <;> simp_all
  | _ => exact ended

/-- A loop whose context has ended asks nobody any more. -/
theorem LoopStep.pending {addr : Option UDPAddr} {later : Loop}
    (step : LoopStep servers true point addr later) :
    addr.toList.length + later.pending ≤ point.pending := by
  cases step <;> simp_all [Loop.pending]

theorem step_silent (step : Step st events next) (gone : .loop number ∉ st.crew) :
    publications number events = [] := by
  cases step with
  | @loop _ _ _ _ _ addr _ _ other at_ =>
    refine publications_other ?_ addr
    rintro rfl
    exact gone (mem_crew.mpr ⟨_, Pool.mem at_, rfl⟩)
  | _ => rfl

theorem Fades.step {allowance : Nat} {more : List Event} (held : Fades number allowance more st)
    (distinct : Distinct st) (step : Step st events next) :
    Fades number allowance (more ++ events) next := by
  have shift := step_shift step
  have known : Who.Known next (.loop number) := shift.known held.known
  rcases held.left with ⟨ctx, point, member, ended, few⟩ | ⟨gone, few⟩
  · refine ⟨known, ?_⟩
    have later := step_ended step ended
    rw [publications_append, List.length_append]
    cases step_follows step distinct member with
    | still here none =>
      exact .inl ⟨ctx, point, here, later, by simpa [none] using few⟩
    | @moved done _ addr now context moved here published =>
      obtain rfl := Option.some.inj (context.symm.trans ended)
      have fewer := moved.pending
      exact .inl ⟨ctx, now, here, later, by rw [published]; omega⟩
    | ended gone none => exact .inr ⟨gone, by simpa [none] using Nat.le_of_add_right_le few⟩
  · refine ⟨known, .inr ⟨shift.gone held.known gone, ?_⟩⟩
    rw [publications_append, step_silent step gone, List.append_nil]
    exact few

end Follow

/-- A loop that has been stopped or superseded publishes at most the answer to the
request that was out at that time, and nothing if it was between two requests. -/
theorem superseded_publishes_once (servers : List String) (identity : Identity)
    (past : List Event) (st : State) (run : Run Step (.initial servers identity) past st)
    (number ctx : Nat) (point : Loop) (member : .loop number ctx point ∈ st.running)
    (superseded : st.discoverer.isRunning = false ∨ number + 1 ≠ st.launched)
    (more : List Event) (later : State) (further : Run Step st more later) :
    (publications number more).length ≤ point.pending := by
  have fades : Fades number point.pending more later := by
    apply Run.invariant_reached (P := fun more st => Fades number point.pending more st) _ _ further
    · refine ⟨(runs_distinct run).known _ (mem_crew.mpr ⟨_, member, rfl⟩), .inl ?_⟩
      exact ⟨ctx, point, member, runs_superseded run member superseded, by simp [publications]⟩
    · exact fun before held step => held.step (runs_distinct (run.trans before)) step
  rcases fades.left with ⟨_, _, _, _, few⟩ | ⟨_, few⟩
  · exact Nat.le_of_add_right_le few
  · exact few

/-- Stopped while its loop waits for an answer. -/
def stoppedAsking : State where
  discoverer :=
    { servers := ["stun.example.org:3478"], cancel := some 0, wg := 1, isRunning := false }
  identity := ⟨none⟩
  contexts := [true]
  launched := 1
  calls := 1
  running := [.loop 0 0 (.queryServer "stun.example.org:3478" []), .waiting 0]

/-- The answer comes after Stop. -/
theorem superseded_publishes_once_late : ∃ past st more later,
    Run Step (.initial ["stun.example.org:3478"] ⟨none⟩) past st ∧
    st.discoverer.isRunning = false ∧ Run Step st more later ∧
    (publications 0 more).length = 1 ∧
    (publications 0 more).length ≤ (Loop.queryServer "stun.example.org:3478" []).pending := by
  have run : Run Step (.initial ["stun.example.org:3478"] ⟨none⟩) _ _ := .refl
  have run := run.next (.start false rfl)
  have run := run.next (.loop (rfl : _ = [] ++ _ :: []) rfl (.attempt rfl))
  have run := run.next .callStop
  have run := run.next (.stop (rfl : _ = [_] ++ _ :: []) rfl)
  have further : Run Step stoppedAsking _ _ := .refl
  have further :=
    further.next (.loop (rfl : _ = [] ++ _ :: [_]) rfl (.succeeded ⟨[203, 0, 113, 7], 4000, ""⟩))
  have further := further.next (.loop (rfl : _ = [] ++ _ :: [_]) rfl .publish)
  exact ⟨_, stoppedAsking, _, _, run, rfl, further, rfl, superseded_publishes_once _ _ _ _ run 0 0 _
    List.mem_cons_self (.inl rfl) _ _ further⟩

end GotaDaemon.Stun.Lifecycle
