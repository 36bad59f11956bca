import GotaDaemon.Core.Transition

/-! The local listeners of ipc/listener_unix.go and ipc/listener_windows.go. Every
successful Start leaves a goroutine that waits for its context to end and then
calls Stop, which closes the listener that is current by then. -/
namespace GotaDaemon.Ipc.Listener
open Transition

/-- What tells the two implementations apart. -/
structure Platform where
  transport : String
  removesFile : Bool

def unixIpcListener : Platform := ⟨"Unix domain socket", true⟩

def windowsIpcListener : Platform := ⟨"Windows named pipe", false⟩

structure IpcListener where
  path : String
  listener : Option Nat
  closed : Bool

/-- NewUnixIpcListener and NewWindowsIpcListener. -/
def IpcListener.new (path : String) : IpcListener := ⟨path, none, false⟩

/-- The critical section of Accept: the net.Listener to wait on. -/
def IpcListener.accept (l : IpcListener) : Except String Nat :=
  match l.closed, l.listener with
  | false, some ln => .ok ln
  | _, _ => .error "listener is closed"

/-- A net.Listener. The code does not keep the context it was opened for. -/
structure Socket where
  ctx : Nat
  closed : Bool

inductive Goroutine where
  /-- The goroutine of a Start in `<-ctx.Done()`. -/
  | watcher (ctx : Nat)
  /-- The same goroutine about to call Stop. -/
  | stopping (ctx : Nat)
  | accept (ln : Nat)

/-- The context a goroutine of a Start has been given. -/
def Goroutine.watches : Goroutine → Option Nat
  | .watcher ctx | .stopping ctx => some ctx
  | .accept _ => none

structure State where
  listener : IpcListener
  sockets : List Socket
  cancelled : List Nat
  running : List Goroutine

/-- Who calls Stop. -/
inductive Caller where
  | explicit
  | watcher (ctx : Nat)
  deriving DecidableEq

inductive Event where
  | started (ln ctx : Nat)
  | closed (ln : Nat) (caller : Caller)
  | cancelled (ctx : Nat)
  | accepted (ln : Nat)
  deriving DecidableEq

inductive StartError where
  | alreadyStarted
  | cleanUp (path reason : String)
  | listen (transport path reason : String)

def StartError.text : StartError → String
  | .alreadyStarted => "listener already started"
  | .cleanUp path reason => "failed to clean up existing socket file " ++ path ++ ": " ++ reason
  | .listen transport path reason =>
    "failed to listen on " ++ transport ++ " " ++ path ++ ": " ++ reason

/-- The errors of os.Remove, that there is no such file apart, and of net.Listen
or winio.ListenPipe. -/
structure Answers where
  remove : Option String
  listen : Option String

namespace State

def initial (path : String) : State := ⟨.new path, [], [], []⟩

def start (platform : Platform) (st : State) (ctx : Nat) (answers : Answers) :
    Except StartError State :=
  if st.listener.listener.isSome then .error .alreadyStarted
  else match (if platform.removesFile then answers.remove else none), answers.listen with
    | some reason, _ => .error (.cleanUp st.listener.path reason)
    | none, some reason => .error (.listen platform.transport st.listener.path reason)
    | none, none => .ok { st with
        listener := { st.listener with listener := some st.sockets.length, closed := false }
        sockets := st.sockets ++ [⟨ctx, false⟩]
        running := st.running ++ [.watcher ctx] }

/-- Stop, with what closing the net.Listener answers. -/
def stop (st : State) (closeErr : Option String) : Option String × State :=
  match st.listener.listener with
  | none => (none, st)
  | some ln => (closeErr, { st with
      listener := { st.listener with listener := none, closed := true }
      sockets := st.sockets.modify ln fun socket => { socket with closed := true } })

/-- What a Stop closes. -/
def closings (st : State) (caller : Caller) : List Event :=
  st.listener.listener.toList.map (.closed · caller)

def watched (st : State) : List Nat := st.running.filterMap Goroutine.watches

/-- The context of the Start that opened the current listener. -/
def currentContext (st : State) : Option Nat :=
  (st.listener.listener.bind (st.sockets[·]?)).map Socket.ctx

end State

/-- One atomic step of a caller, a watcher or the environment. -/
inductive Step (platform : Platform) : State → List Event → State → Prop where
  | start (ctx answers) : st.start platform ctx answers = .ok next →
      Step platform st [.started st.sockets.length ctx] next
  | startFails (ctx answers) : st.start platform ctx answers = .error err → Step platform st [] st
  | stop (closeErr) : st.stop closeErr = (result, next) →
      Step platform st (st.closings .explicit) next
  | cancel (ctx) : Step platform st [.cancelled ctx] { st with cancelled := ctx :: st.cancelled }
  -- the goroutine of a Start
  | wake : st.running = before ++ .watcher ctx :: after → ctx ∈ st.cancelled →
      Step platform st [] { st with running := before ++ .stopping ctx :: after }
  | watcherStop (closeErr) : st.running = before ++ .stopping ctx :: after →
      st.stop closeErr = (result, next) →
      Step platform st (st.closings (.watcher ctx)) { next with running := before ++ after }
  -- Accept
  | accept : st.listener.accept = .ok ln →
      Step platform st [] { st with running := st.running ++ [.accept ln] }
  | acceptRefused : st.listener.accept = .error err → Step platform st [] st
  | accepted : st.running = before ++ .accept ln :: after → st.sockets[ln]? = some socket →
      socket.closed = false → Step platform st [.accepted ln] { st with running := before ++ after }
  | acceptFails : st.running = before ++ .accept ln :: after →
      Step platform st [] { st with running := before ++ after }

/-- A step that opens or closes a net.Listener. -/
def Event.switches : Event → Bool
  | .started _ _ | .closed _ _ => true
  | _ => false

/-- The listener opened last, and not closed since, was opened for this context. -/
def Current (events : List Event) (ln ctx : Nat) : Prop :=
  ∃ earlier later, events = earlier ++ .started ln ctx :: later ∧ ∀ event ∈ later,
    event.switches = false

/-- A listener is closed while it is current, by a caller of Stop or because its
own context has been cancelled. -/
def OwnClosings (events : List Event) : Prop :=
  ∀ before ln caller after, events = before ++ .closed ln caller :: after →
    ∃ ctx, Current before ln ctx ∧ (caller = .explicit ∨ .cancelled ctx ∈ before)

/-- What the callers must see to before a step. A context that a watcher of an
earlier Start still waits for is not cancelled under a listener opened for
another one, and no such watcher is on its way to Stop when Start opens one. -/
def Careful (st : State) : Event → Prop
  | .cancelled ctx => ∀ own ∈ st.currentContext, own = ctx ∨ own ∈ st.cancelled ∨ ctx ∉ st.watched
  | .started _ ctx => ctx ∈ st.cancelled ∨ ∀ other ∈ st.watched, other ∉ st.cancelled
  | _ => True

instance Careful.decidable (st : State) : (event : Event) → Decidable (Careful st event)
  | .cancelled ctx =>
    inferInstanceAs (Decidable (∀ own ∈ st.currentContext, _ ∨ _ ∨ ctx ∉ st.watched))
  | .started _ _ => inferInstanceAs (Decidable (_ ∨ ∀ other ∈ st.watched, _))
  | .closed _ _ | .accepted _ => .isTrue trivial

def CarefulStep (platform : Platform) (st : State) (events : List Event) (next : State) : Prop :=
  Step platform st events next ∧ ∀ event ∈ events, Careful st event

/-- How a step may treat the current listener, the cancelled contexts and the
goroutines that watch them. -/
inductive Change (st : State) : List Event → State → Prop where
  | started (ctx) : next.listener.listener = some st.sockets.length → next.listener.closed = false →
      next.sockets = st.sockets ++ [⟨ctx, false⟩] → next.cancelled = st.cancelled →
      next.running = st.running ++ [.watcher ctx] → Change st [.started st.sockets.length ctx] next
  | closed : st.listener.listener = some ln → next.listener.listener = none →
      next.cancelled = st.cancelled → next.watched.Sublist st.watched →
        (∀ ctx, .stopping ctx ∈ next.running → .stopping ctx ∈ st.running) →
      (caller = .explicit ∨ ∃ ctx, caller = .watcher ctx ∧ .stopping ctx ∈ st.running) →
      Change st [.closed ln caller] next
  | cancelled (ctx) : Change st [.cancelled ctx] { st with cancelled := ctx :: st.cancelled }
  | quiet : (∀ event ∈ events, event.switches = false ∧ ∀ ctx, event ≠ .cancelled ctx) →
      next.listener = st.listener → next.sockets = st.sockets → next.cancelled = st.cancelled →
      next.watched.Sublist st.watched →
      (∀ ctx, .stopping ctx ∈ next.running → .stopping ctx ∈ st.running ∨ ctx ∈ st.cancelled) →
      Change st events next

variable {platform : Platform} {st next : State} {events past : List Event} {path : String}

theorem start_ok {ctx : Nat} {answers : Answers}
    (started : st.start platform ctx answers = .ok next) :
    st.listener.listener = none ∧ next = { st with
      listener := { st.listener with listener := some st.sockets.length, closed := false }
      sockets := st.sockets ++ [⟨ctx, false⟩]
      running := st.running ++ [.watcher ctx] } := by
  unfold State.start at started
  split at started
  · contradiction
  next idle =>
    split at started
    · contradiction
    · contradiction
    · exact ⟨by simpa using idle, (Except.ok.inj started).symm⟩

/-- An idle listener starts when the system has nothing against it. -/
theorem start_answered {ctx : Nat} (idle : st.listener.listener = none) :
    st.start platform ctx ⟨none, none⟩ = .ok { st with
      listener := { st.listener with listener := some st.sockets.length, closed := false }
      sockets := st.sockets ++ [⟨ctx, false⟩]
      running := st.running ++ [.watcher ctx] } := by
  simp only [State.start, idle, Option.isSome_none, ite_self, Bool.false_eq_true, if_false]

theorem stop_none {closeErr result : Option String} (stopped : st.stop closeErr = (result, next))
    (idle : st.listener.listener = none) : next = st := by
  simp only [State.stop, idle, Prod.mk.injEq] at stopped
  exact stopped.2.symm

theorem stop_some {closeErr result : Option String} {ln : Nat}
    (stopped : st.stop closeErr = (result, next)) (current : st.listener.listener = some ln) :
    next.listener.listener = none ∧ next.cancelled = st.cancelled ∧ next.running = st.running := by
  simp only [State.stop, current, Prod.mk.injEq] at stopped
  rw [← stopped.2]
  exact ⟨rfl, rfl, rfl⟩

theorem stop_change {caller : Caller} {closeErr result : Option String}
    (rest : List Goroutine) (stopped : st.stop closeErr = (result, next))
    (fewer : rest.Sublist st.running)
    (by_ : caller = .explicit ∨ ∃ ctx, caller = .watcher ctx ∧ .stopping ctx ∈ st.running) :
    Change st (st.closings caller) { next with running := rest } := by
  have watching : (rest.filterMap Goroutine.watches).Sublist st.watched := fewer.filterMap _
  cases current : st.listener.listener with
  | none =>
    rw [stop_none stopped current]
    simp only [State.closings, current, Option.toList_none, List.map_nil]
    exact .quiet (fun _ member => absurd member List.not_mem_nil) rfl rfl rfl watching
      fun _ member => .inl (fewer.subset member)
  | some ln =>
    obtain ⟨gone, cancelled, _⟩ := stop_some stopped current
    simp only [State.closings, current, Option.toList_some, List.map_cons, List.map_nil]
    exact .closed current gone cancelled watching (fun _ member => fewer.subset member) by_

theorem step_change (step : Step platform st events next) : Change st events next := by
  cases step with
  | start ctx answers started =>
    obtain ⟨_, rfl⟩ := start_ok started
    exact .started ctx rfl rfl rfl rfl rfl
  | stop closeErr stopped =>
    have kept : next.running = st.running := by
      cases current : st.listener.listener with
      | none => rw [stop_none stopped current]
      | some ln => exact (stop_some stopped current).2.2
    have change := stop_change st.running stopped (List.Sublist.refl _) (.inl rfl)
    rwa [← kept] at change
  | cancel ctx => exact .cancelled ctx
  | wake at_ cancelled =>
    refine .quiet (fun _ member => absurd member List.not_mem_nil) rfl rfl rfl ?_ ?_
    · simp [State.watched, at_, Goroutine.watches]
    · intro ctx member
      rcases Pool.replaced at_ member with here | present
      · cases here
        exact .inr cancelled
      · exact .inl present
  | watcherStop closeErr at_ stopped =>
    refine stop_change _ stopped (Pool.fewer at_) (.inr ⟨_, rfl, Pool.mem at_⟩)
  | accept =>
    refine .quiet (fun _ member => absurd member List.not_mem_nil) rfl rfl rfl ?_ ?_
    · simp [State.watched, Goroutine.watches]
    · exact fun ctx member => .inl (by simpa using member)
  | startFails | acceptRefused =>
    exact .quiet (fun _ member => absurd member List.not_mem_nil) rfl rfl rfl
      (List.Sublist.refl _) fun _ => .inl
  | accepted at_ | acceptFails at_ =>
    exact .quiet (by simp [Event.switches]) rfl rfl rfl ((Pool.fewer at_).filterMap _)
      fun _ member => .inl ((Pool.fewer at_).subset member)

theorem Current.append {ln ctx : Nat} (current : Current past ln ctx)
    (kept : ∀ event ∈ events, event.switches = false) : Current (past ++ events) ln ctx := by
  obtain ⟨earlier, later, rfl, quiet⟩ := current
  refine ⟨earlier, later ++ events, by simp, fun event member => ?_⟩
  exact (List.mem_append.mp member).elim (quiet event) (kept event)

/-- What the state knows of the trace that led to it. -/
structure Tracked (events : List Event) (st : State) : Prop where
  current : ∀ ln, st.listener.listener = some ln →
    ∃ ctx, st.sockets[ln]? = some ⟨ctx, false⟩ ∧ st.listener.closed = false ∧ Current events ln ctx
  cancelled : ∀ ctx ∈ st.cancelled, .cancelled ctx ∈ events
  stopping : ∀ ctx, .stopping ctx ∈ st.running → ctx ∈ st.cancelled

theorem Change.tracked (change : Change st events next) (before : Tracked past st) :
    Tracked (past ++ events) next := by
  have recorded : ∀ ctx ∈ st.cancelled, .cancelled ctx ∈ past ++ events :=
    fun ctx member => List.mem_append_left _ (before.cancelled ctx member)
  cases change with
  | started ctx now opened sockets cancelled running =>
    refine ⟨fun ln current => ?_, by rwa [cancelled], fun other member => ?_⟩
    · obtain rfl := Option.some.inj (now.symm.trans current)
      exact ⟨ctx, by simp [sockets], opened, past, [], rfl, by simp⟩
    · rw [running] at member
      rw [cancelled]
      exact before.stopping other (by simpa using member)
  | closed _ gone cancelled _ running =>
    refine ⟨fun ln current => ?_, by rwa [cancelled], fun ctx member => ?_⟩
    · rw [gone] at current
      contradiction
    · rw [cancelled]
      exact before.stopping ctx (running ctx member)
  | cancelled =>
    refine ⟨fun ln current => ?_, fun ctx member => ?_, fun ctx member =>
      List.mem_cons_of_mem _ (before.stopping ctx member)⟩
    · obtain ⟨ctx, socket, opened, held⟩ := before.current ln current
      exact ⟨ctx, socket, opened, held.append (by simp [Event.switches])⟩
    · rcases List.mem_cons.mp member with rfl | old
      · exact List.mem_append_right _ List.mem_cons_self
      · exact recorded ctx old
  | quiet silent listener sockets cancelled _ running =>
    refine ⟨fun ln current => ?_, by rwa [cancelled], fun ctx member => ?_⟩
    · rw [listener] at current
      obtain ⟨ctx, socket, opened, held⟩ := before.current ln current
      refine ⟨ctx, by rwa [sockets], by rwa [listener], held.append fun event member => ?_⟩
      exact (silent event member).1
    · rw [cancelled]
      exact (running ctx member).elim (before.stopping ctx) id

theorem runs_tracked (run : Run (Step platform) (.initial path) events st) : Tracked events st := by
  apply Run.invariant (P := Tracked) _ _ run
  · constructor
    · simp [State.initial, IpcListener.new]
    · simp [State.initial]
    · simp [State.initial]
  · exact fun before step => (step_change step).tracked before

/-- While the context of the current listener lasts, no watcher is on its way to Stop. -/
def Calm (st : State) : Prop :=
  ∀ own, st.currentContext = some own → own ∈ st.cancelled ∨ ∀ ctx ∈ st.watched, ctx ∉ st.cancelled

theorem Change.calm (change : Change st events next) (careful : ∀ event ∈ events, Careful st event)
    (calm : Calm st) :
    Calm next := by
  intro own current
  cases change with
  | started ctx now opened sockets cancelled running =>
    have same : ctx = own := by simpa [State.currentContext, now, sockets] using current
    have ready : Careful st (.started st.sockets.length ctx) := careful _ List.mem_cons_self
    rw [cancelled, ← same]
    rcases ready with finished | idle
    · exact .inl finished
    · by_cases finished : ctx ∈ st.cancelled
      · exact .inl finished
      · refine .inr fun other member => ?_
        simp only [State.watched, running, List.filterMap_append, List.mem_append] at member
        rcases member with old | new
        · exact idle other old
        · obtain rfl : other = ctx := by simpa [Goroutine.watches] using new
          exact finished
  | closed _ gone =>
    simp [State.currentContext, gone] at current
  | cancelled ctx =>
    have ready : Careful st (.cancelled ctx) := careful _ List.mem_cons_self
    rcases ready own current with rfl | finished | unwatched
    · exact .inl List.mem_cons_self
    · exact .inl (List.mem_cons_of_mem _ finished)
    · rcases calm own current with finished | quiet
      · exact .inl (List.mem_cons_of_mem _ finished)
      · refine .inr fun other member => ?_
        rw [List.mem_cons, not_or]
        exact ⟨fun same => unwatched (same ▸ member), quiet other member⟩
  | quiet _ listener sockets cancelled watched =>
    rw [State.currentContext, listener, sockets] at current
    rw [cancelled]
    exact (calm own current).imp id fun quiet ctx member => quiet ctx (watched.subset member)

theorem Change.ownClosings (change : Change st events next) (tracked : Tracked past st)
    (calm : Calm st) (owned : OwnClosings past) : OwnClosings (past ++ events) := by
  intro before ln caller after same
  rcases split_append same with ⟨rest, earlier⟩ | ⟨rest, rfl, here⟩
  · exact owned before ln caller rest earlier
  · cases change with
    | started | cancelled => cases rest <;> simp at here
    | closed current _ _ _ _ called =>
      obtain ⟨rfl, rfl⟩ : rest = [] ∧ after = [] := by cases rest <;> simp_all
      obtain ⟨rfl, rfl⟩ := Event.closed.inj (List.cons.inj here).1
      obtain ⟨ctx, socket, _, held⟩ := tracked.current _ current
      rw [List.append_nil]
      refine ⟨ctx, held, called.imp id ?_⟩
      rintro ⟨watcher, _, stopping⟩
      -- the watcher's own context has ended, so that of the listener has
      have ended := tracked.stopping watcher stopping
      have watched : watcher ∈ st.watched := List.mem_filterMap.mpr ⟨_, stopping, rfl⟩
      have own : st.currentContext = some ctx := by simp [State.currentContext, current, socket]
      rcases calm ctx own with finished | quiet
      · exact tracked.cancelled ctx finished
      · exact absurd ended (quiet watcher watched)
    | quiet silent =>
      have switch :=
        (silent (.closed ln caller) (here ▸ List.mem_append_right _ List.mem_cons_self)).1
      cases switch

/-- If no context is cancelled under a listener of another context while a watcher
still waits for it, and no Start runs into a watcher that is about to stop the
listener, every listener is closed by Stop or for its own context. -/
theorem careful_own_closings (platform : Platform) (path : String) (events : List Event)
    (st : State) (run : Run (CarefulStep platform) (.initial path) events st) :
    OwnClosings events := by
  have kept : Calm st ∧ OwnClosings events := by
    apply Run.invariant_reached (P := fun events st => Calm st ∧ OwnClosings events) _ _ run
    · refine ⟨?_, fun before ln caller after same => ?_⟩
      · simp [Calm, State.currentContext, State.initial, IpcListener.new]
      · simp at same
    · rintro past before events next reached ⟨calm, owned⟩ ⟨step, careful⟩
      have change := step_change step
      have tracked := runs_tracked (reached.mono And.left)
      exact ⟨change.calm careful calm, change.ownClosings tracked calm owned⟩
  exact kept.2

theorem closed_for_its_own_context : ∃ events st,
    Run (CarefulStep unixIpcListener) (.initial "/run/gota.sock") events st ∧
    .closed 1 (.watcher 0) ∈ events ∧ OwnClosings events := by
  -- two listeners opened for one context, which ends under the second
  have run : Run (CarefulStep unixIpcListener) (.initial "/run/gota.sock") _ _ := .refl
  have run := run.next ⟨.start 0 ⟨none, none⟩ rfl, by decide⟩
  have run := run.next ⟨.stop none rfl, by decide⟩
  have run := run.next ⟨.start 0 ⟨none, none⟩ rfl, by decide⟩
  have run := run.next ⟨.cancel 0, by decide⟩
  have run := run.next ⟨.wake (rfl : _ = [] ++ _ :: _) (by decide), by decide⟩
  have run := run.next ⟨.watcherStop none (rfl : _ = [] ++ _ :: _) rfl, by decide⟩
  exact ⟨_, _, run, by decide, careful_own_closings unixIpcListener "/run/gota.sock" _ _ run⟩

theorem stale_watcher_run (platform : Platform) : ∃ events st,
    Run (Step platform) (.initial "gota") events st ∧ ¬ OwnClosings events := by
  have run : Run (Step platform) (.initial "gota") _ _ := .refl
  have run := run.next (.start 0 ⟨none, none⟩ (start_answered rfl))
  have run := run.next (.stop none rfl)
  have run := run.next (.start 1 ⟨none, none⟩ (start_answered rfl))
  have run := run.next (.cancel 0)
  have run := run.next (.wake (rfl : _ = [] ++ _ :: _) List.mem_cons_self)
  have run := run.next (.watcherStop none (rfl : _ = [] ++ _ :: _) rfl)
  refine ⟨_, _, run, fun owned => ?_⟩
  -- the second listener belongs to context 1, which nobody has cancelled
  obtain ⟨ctx, ⟨earlier, later, same, _⟩, called⟩ :=
    owned [.started 0 0, .closed 0 .explicit, .started 1 1, .cancelled 0] 1 (.watcher 0) [] rfl
  have opened :
      .started 1 ctx ∈ [.started 0 0, .closed 0 .explicit, Event.started 1 1, .cancelled 0] :=
    same ▸ List.mem_append_right _ List.mem_cons_self
  obtain rfl : ctx = 1 := by simpa using opened
  revert called
  decide

/-- The watcher of a stopped Start closes the listener of the next one, on either platform. -/
theorem stale_watcher_closes :
    (∃ events st, Run (Step unixIpcListener) (.initial "gota") events st ∧ ¬ OwnClosings events) ∧
    (∃ events st, Run (Step windowsIpcListener) (.initial "gota") events st ∧
    ¬ OwnClosings events) :=
  ⟨stale_watcher_run unixIpcListener, stale_watcher_run windowsIpcListener⟩

end GotaDaemon.Ipc.Listener
