import GotaDaemon.Core.WaitGroup
import GotaDaemon.Ipc.Closing
import GotaDaemon.Ipc.InboundStream

/-! The WaitGroup of the session manager. It counts the loops that have not
ended, so that a Close that returns leaves no loop behind. -/
namespace GotaDaemon.Ipc
open Go Transition

def ReadLoop.worker {K : Type} : ReadLoop K → Phase
  | .deferred => .deferred
  | .exited => .exited
  | _ => .running

def WriteLoop.worker : WriteLoop → Phase
  | .deferred => .deferred
  | .exited => .exited
  | _ => .running

def SessionState.phase {K : Type} (which : Loop) (sess : SessionState K) : Phase :=
  match which with
  | .read => sess.reader.worker
  | .write => sess.writer.worker

/-- The session whose loop runs this UnregisterSession as its deferred call. -/
def Origin.leaves (which : Loop) : Origin → Option Nat
  | .loop index other => if other = which then some index else none
  | .caller | .dropped _ => none

def Goroutine.leaves (which : Loop) : Goroutine → Option Nat
  | .unregister origin _ => origin.leaves which
  | .send _ | .close _ => none

/-- The readLoops or the writeLoops of all sessions. -/
def State.crew {W K : Type} (which : Loop) (st : State W K) : Crew where
  workers := st.heap.map (SessionState.phase which)
  tokens := st.running.filterMap (Goroutine.leaves which)

def Goroutine.isClose : Goroutine → Bool
  | .close _ => true
  | _ => false

/-- The number of Close calls in progress. -/
def State.closes {W K : Type} (st : State W K) : Nat := st.running.countP Goroutine.isClose

variable {W K L : Type} {client : Client W K L} {world : W} {st next : State W K}
  {events more : List (Event K L)} {index : Nat} {sess later : SessionState K} {which : Loop}

section Records

theorem phase_set {heap : List (SessionState K)} (held : heap[index]? = some sess)
    (same : later.phase which = sess.phase which) :
    (heap.set index later).map (SessionState.phase which) =
      heap.map (SessionState.phase which) := by
  obtain ⟨bound, rfl⟩ := List.getElem?_eq_some_iff.mp held
  rw [List.map_set, same, ← List.getElem_map (SessionState.phase which), List.set_getElem_self]
  simpa using bound

theorem offer_phase {pkt : OutboundPacket} {outcome : Offer}
    (offered : sess.offer pkt = .ok (outcome, later)) : later.phase which = sess.phase which := by
  have done := offer_ok offered
  cases outcome with
  | closed => rw [done.2]
  | accepted =>
    obtain ⟨_, outbound, _, rfl⟩ := done
    cases which <;> rfl
  | blocked =>
    obtain ⟨_, _, _, rfl⟩ := done
    cases which <;> rfl

theorem closeOutbound_phase (closed : sess.closeOutbound = .ok later) :
    later.phase which = sess.phase which := by
  cases wasClosed : sess.isClosed with
  | false =>
    obtain ⟨_, rfl⟩ := closeOutbound_ok wasClosed closed
    cases which <;> rfl
  | true =>
    simp only [SessionState.closeOutbound, wasClosed, if_true, Except.ok.injEq] at closed
    rw [closed]

end Records

/-- The loops that start or end in a step are those the WaitGroup is told of. -/
def Staffed (st next : State W K) : Prop :=
  ∃ added ended : Loop → Nat,
    (∀ which, Crew.Move (st.crew which) (added which) (ended which) (next.crew which)) ∧
    next.wg = st.wg + (added .read + added .write) - (ended .read + ended .write)

theorem Staffed.stay
    (heap : ∀ which, next.heap.map (SessionState.phase which) =
      st.heap.map (SessionState.phase which))
    (running : ∀ which, next.running.filterMap (Goroutine.leaves which) =
      st.running.filterMap (Goroutine.leaves which))
    (wg : next.wg = st.wg) : Staffed st next := by
  refine ⟨fun _ => 0, fun _ => 0, fun which => ?_, by simp [wg]⟩
  have same : next.crew which = st.crew which := by simp only [State.crew, heap, running]
  rw [same]
  exact .stay

/-- A goroutine that goes on is nobody else's deferred call. -/
theorem leaves_replaced {running before after : List Goroutine} {old new : Goroutine}
    (located : running = before ++ old :: after) (same : new.leaves which = old.leaves which) :
    (before ++ new :: after).filterMap (Goroutine.leaves which) =
      running.filterMap (Goroutine.leaves which) := by
  rw [located, List.filterMap_append, List.filterMap_append, List.filterMap_cons,
    List.filterMap_cons, same]

theorem leaves_removed {running before after : List Goroutine} {old : Goroutine}
    (located : running = before ++ old :: after) (none : old.leaves which = none) :
    (before ++ after).filterMap (Goroutine.leaves which) =
      running.filterMap (Goroutine.leaves which) := by
  rw [located, List.filterMap_append, List.filterMap_append, List.filterMap_cons, none]

theorem leaves_none {origin : Origin} (other : ∀ index loop, origin ≠ .loop index loop) :
    origin.leaves which = none := by
  cases origin with
  | loop index own => exact absurd rfl (other index own)
  | caller | dropped => rfl

theorem send_crew {point : Send} {result : SendNext} (which : Loop)
    (step : SendStep st point events next result) :
    next.heap.map (SessionState.phase which) = st.heap.map (SessionState.phase which) ∧
    next.wg = st.wg ∧ result.caller.filterMap (Goroutine.leaves which) = [] ∧
    result.spawned.filterMap (Goroutine.leaves which) = [] := by
  cases step with
  | accepted held offered | blocked held offered =>
    exact ⟨phase_set held (offer_phase offered), rfl, rfl, rfl⟩
  | _ => exact ⟨rfl, rfl, rfl, rfl⟩

theorem writer_phase {own : List SessionEvent} {cancelled : Bool}
    (moved : WriterStep cancelled sess own later) (index : Nat) :
    later.phase .read = sess.phase .read ∧ sess.phase .write = .running ∧
    (later.phase .write = .running ∧ deferredWriter index later = [] ∨
      later.phase .write = .deferred ∧
        deferredWriter index later = [.unregister (.loop index .write) (.enter later.did)]) := by
  cases moved <;> simp_all [SessionState.phase, WriteLoop.worker, deferredWriter]

theorem reader_phase {own : List SessionEvent} {cancelled : Bool}
    {onControl : Option (ControlCallback K)}
    (moved : ReaderStep cancelled onControl sess own later) (index : Nat) :
    later.phase .write = sess.phase .write ∧ sess.phase .read = .running ∧
    (later.phase .read = .running ∧ deferredReader index later = [] ∨
      later.phase .read = .deferred ∧
        deferredReader index later = [.unregister (.loop index .read) (.enter later.did)]) := by
  cases moved <;> simp_all [SessionState.phase, ReadLoop.worker, deferredReader]

theorem act_phase (act : Act K) : act.reader.worker = .running := by
  cases act <;> rfl

theorem sendNext_phase (result : SendNext) (resume : Except SendError Unit → K) :
    (result.reader resume).worker = .running := by
  cases result <;> rfl

/-- A loop is left for its deferred call. -/
theorem Staffed.leave (held : st.heap[index]? = some sess) (running : sess.phase which = .running)
    (left : later.phase which = .deferred)
    (other : ∀ loop, loop ≠ which → later.phase loop = sess.phase loop) (point : Unregister) :
    Staffed st ((st.put index later).spawn [.unregister (.loop index which) point]) := by
  refine ⟨fun _ => 0, fun _ => 0, fun loop => ?_, rfl⟩
  by_cases same : loop = which
  · subst same
    have worker : (st.crew loop).workers[index]? = some .running := by
      simp [State.crew, held, running]
    simpa [State.crew, List.map_set, left, Goroutine.leaves, Origin.leaves] using
      Crew.Move.leave worker
  · have kept := phase_set held (other loop same)
    have foreign : which ≠ loop := fun equal => same equal.symm
    simpa [State.crew, kept, Goroutine.leaves, Origin.leaves, foreign] using
      @Crew.Move.stay (st.crew loop)

/-- A loop whose deferred call has returned tells the WaitGroup. -/
theorem Staffed.done {before after : List Goroutine} {point : Unregister}
    (located : st.running = before ++ .unregister (.loop index which) point :: after)
    (held : st.heap[index]? = some sess) :
    Staffed st { st.put index (sess.loopDone which) with
      running := before ++ after, wg := st.wg - 1 } := by
  have exited : (sess.loopDone which).phase which = .exited := by cases which <;> rfl
  have other : ∀ loop, loop ≠ which → (sess.loopDone which).phase loop = sess.phase loop := by
    intro loop apart
    cases which <;> cases loop <;> first | rfl | contradiction
  refine ⟨fun _ => 0, fun loop => if loop = which then 1 else 0, fun loop => ?_, ?_⟩
  · by_cases same : loop = which
    · subst same
      have token : (st.crew loop).tokens = before.filterMap (Goroutine.leaves loop) ++
          index :: after.filterMap (Goroutine.leaves loop) := by
        simp [State.crew, located, Goroutine.leaves, Origin.leaves]
      simpa [State.crew, List.map_set, exited] using Crew.Move.done token
    · have kept := phase_set held (other loop same)
      have foreign : which ≠ loop := fun equal => same equal.symm
      simpa [State.crew, kept, located, Goroutine.leaves, Origin.leaves, foreign, same] using
        @Crew.Move.stay (st.crew loop)
  · cases which <;> rfl

theorem step_crew (step : Step client st events next) : Staffed st next := by
  cases step with
  | register =>
    refine ⟨fun _ => 1, fun _ => 0, fun which => ?_, rfl⟩
    have new : SessionState.phase which (.new K (st.nextDID + 1) {}) = .running := by
      cases which <;> rfl
    have added := @Crew.Move.add (st.crew which)
    simpa [State.crew, State.registerSession, new] using added
  | registerNil | setOnClose | setControlCallback | cancel | interfere | closeOutboundPanics =>
    exact .stay (fun _ => rfl) (fun _ => rfl) rfl
  | callUnregister | callSend | callClose =>
    exact .stay (fun _ => rfl) (fun _ => by simp [Goroutine.leaves, Origin.leaves]) rfl
  | take located | takeMissing located | onceSkip located | runOnClose located
  | skipOnClose located | closeCancel located | closeReset _ located =>
    exact .stay (fun _ => rfl) (fun _ => leaves_replaced located rfl) rfl
  | arrive _ held =>
    exact .stay (fun which => phase_set held (by cases which <;> rfl)) (fun _ => rfl) rfl
  | onceEnter located held | closeConn _ located held | onceLeave located held
  | closeNext located held =>
    exact .stay (fun which => phase_set held (by cases which <;> rfl))
      (fun _ => leaves_replaced located rfl) rfl
  | closeOutbound located held closed =>
    exact .stay (fun _ => phase_set held (closeOutbound_phase closed))
      (fun _ => leaves_replaced located rfl) rfl
  | unregistered located other =>
    exact .stay (fun _ => rfl) (fun _ => leaves_removed located (leaves_none other)) rfl
  | closeWait located => exact .stay (fun _ => rfl) (fun _ => leaves_removed located rfl) rfl
  | loopDone located held => exact .done located held
  | send located sent =>
    refine .stay (fun which => (send_crew which sent).1) (fun which => ?_)
      (send_crew .read sent).2.1
    obtain ⟨_, _, caller, spawned⟩ := send_crew which sent
    rw [List.filterMap_append, List.filterMap_append, List.filterMap_append, caller, spawned,
      List.append_nil, List.append_nil, ← List.filterMap_append]
    exact leaves_removed located rfl
  | @writer index _ _ _ _ held moved =>
    obtain ⟨same, running, ⟨stays, none⟩ | ⟨leaves, one⟩⟩ := writer_phase moved index
    · rw [none]
      refine .stay (fun which => phase_set held ?_) (fun _ => by simp) rfl
      cases which with
      | read => exact same
      | write => exact stays.trans running.symm
    · rw [one]
      refine .leave held running leaves (fun which other => ?_) _
      cases which with
      | read => exact same
      | write => contradiction
  | @reader index _ _ _ _ held moved =>
    obtain ⟨same, running, ⟨stays, none⟩ | ⟨leaves, one⟩⟩ := reader_phase moved index
    · rw [none]
      refine .stay (fun which => phase_set held ?_) (fun _ => by simp) rfl
      cases which with
      | read => exact stays.trans running.symm
      | write => exact same
    · rw [one]
      refine .leave held running leaves (fun which other => ?_) _
      cases which with
      | read => contradiction
      | write => exact same
  | control held running =>
    refine .stay (fun which => phase_set held ?_) (fun _ => rfl) rfl
    cases which with
    | read =>
      rw [SessionState.phase, SessionState.phase, running]
      exact act_phase _
    | write => rfl
  | controlSend held running sent reached =>
    have point := (send_reader sent held reached).trans running
    obtain ⟨_, wg, _, _⟩ := send_crew .read sent
    refine .stay (fun which => ?_) (fun which => ?_) wg
    · rw [← (send_crew which sent).1]
      refine phase_set reached ?_
      cases which with
      | read =>
        rw [SessionState.phase, SessionState.phase, point]
        exact sendNext_phase ..
      | write => rfl
    · rw [State.spawn_running, State.put_running, List.filterMap_append, (send_frame sent).2.2.2.1,
        (send_crew which sent).2.2.2, List.append_nil]

/-- Each loop on its way out has one deferred call, and the WaitGroup counts
the loops that have not ended. -/
structure Attended (st : State W K) : Prop where
  kept : ∀ which, (st.crew which).Kept
  counted : st.wg = (st.crew .read).live + (st.crew .write).live

theorem Staffed.attended (staffed : Staffed st next) (attended : Attended st) :
    Attended next := by
  obtain ⟨added, ended, moves, wg⟩ := staffed
  refine ⟨fun which => (moves which).kept (attended.kept which), ?_⟩
  have readers := (moves .read).live (attended.kept .read)
  have writers := (moves .write).live (attended.kept .write)
  have counted := attended.counted
  omega

theorem runs_attended (run : Runs client world events st) : Attended st := by
  apply run.invariant (P := fun _ st => Attended st)
  · exact ⟨fun _ _ => rfl, rfl⟩
  · exact fun attended step => (step_crew step.2).attended attended

/-- A deferred call in flight belongs to a loop that waits for it. -/
theorem Attended.leaving (attended : Attended st) {point : Unregister}
    (running : .unregister (.loop index which) point ∈ st.running) :
    ∃ sess, st.heap[index]? = some sess ∧ sess.phase which = .deferred := by
  have token : index ∈ (st.crew which).tokens :=
    List.mem_filterMap.mpr ⟨_, running, by simp [Goroutine.leaves, Origin.leaves]⟩
  obtain ⟨before, after, located⟩ := List.append_of_mem token
  have worker := (attended.kept which).token located
  simpa [State.crew] using worker

theorem live_phase (none : (st.crew which).live = 0) (found : st.heap[index]? = some sess) :
    sess.phase which = .exited :=
  Crew.live_zero none (List.mem_map_of_mem (List.mem_of_getElem? found))

/-- Both loops have ended. -/
def SessionState.Ended (sess : SessionState K) : Prop :=
  sess.reader = .exited ∧ sess.writer = .exited

theorem reader_of_phase (left : sess.phase .read = .exited) : sess.reader = .exited := by
  cases at_ : sess.reader <;> simp_all [SessionState.phase, ReadLoop.worker]

theorem writer_of_phase (left : sess.phase .write = .exited) : sess.writer = .exited := by
  cases at_ : sess.writer <;> simp_all [SessionState.phase, WriteLoop.worker]

theorem Attended.ended (attended : Attended st) (zero : st.wg = 0)
    (found : st.heap[index]? = some sess) : sess.Ended := by
  have counted := attended.counted
  exact ⟨reader_of_phase (live_phase (by omega) found),
    writer_of_phase (live_phase (by omega) found)⟩

section Ended

/-- Nothing is read from or written to a connection without loops. -/
structure Silent (sess : SessionState K) (own : List SessionEvent) (later : SessionState K) :
    Prop where
  ended : later.Ended
  written : later.conn.written = sess.conn.written
  frames : framesRead own = []

theorem session_silent {own : List SessionEvent} (ended : sess.Ended)
    (step : SessionStep sess own later) : Silent sess own later := by
  obtain ⟨reader, writer⟩ := ended
  cases step with
  | accept offered =>
    obtain ⟨_, _, _, rfl⟩ := offer_ok offered
    exact ⟨⟨reader, writer⟩, rfl, rfl⟩
  | block offered =>
    obtain ⟨_, _, _, rfl⟩ := offer_ok offered
    exact ⟨⟨reader, writer⟩, rfl, rfl⟩
  | close isOpen closed =>
    obtain ⟨_, rfl⟩ := closeOutbound_ok isOpen closed
    exact ⟨⟨reader, writer⟩, rfl, rfl⟩
  | writer moved => cases moved <;> simp_all
  | reader moved => cases moved <;> simp_all
  | callback running => simp [reader, ReadLoop.inCallback] at running
  | writerDone => exact ⟨⟨reader, rfl⟩, rfl, rfl⟩
  | readerDone => exact ⟨⟨rfl, writer⟩, rfl, rfl⟩
  | _ => exact ⟨⟨reader, writer⟩, rfl, rfl⟩

theorem session_run_silent {own : List SessionEvent} (ended : sess.Ended)
    (run : Run SessionStep sess own later) : Silent sess own later := by
  apply run.invariant (P := Silent sess)
  · exact ⟨ended, rfl, rfl⟩
  · intro _ _ _ _ silent step
    have more := session_silent silent.ended step
    exact ⟨more.ended, more.written.trans silent.written, by
      rw [framesRead_append, silent.frames, more.frames]
      rfl⟩

end Ended

theorem run_evolves (run : Run (Move client) st events next) (found : st.heap[index]? = some sess) :
    Evolves next.heap index sess (sessionEvents index events) := by
  apply run.invariant (P := fun events next =>
    Evolves next.heap index sess (sessionEvents index events))
  · exact .same found
  · rintro _ _ _ _ ⟨later, present, path⟩ step
    obtain ⟨last, reached, more⟩ := step_evolves step.2 present
    exact ⟨last, reached, by simpa using path.trans more⟩

/-- A session without loops runs no control callback either. -/
theorem run_without_control (run : Run (Move client) st events next)
    (found : st.heap[index]? = some sess) (ended : sess.Ended) (label : L) :
    .control index label ∉ events := by
  apply run.invariant_reached (P := fun events _ => .control index label ∉ events)
  · simp
  · intro _ st _ _ run before step member
    rcases List.mem_append.mp member with old | new
    · exact before old
    · obtain ⟨later, present, path⟩ := run_evolves run found
      have reader := (session_run_silent ended path).ended.1
      cases step_world step.2 with
      | same _ quiet => simpa [Event.outside] using quiet _ new
      | interfered => simp at new
      | control held running =>
        simp only [List.mem_singleton, Event.control.injEq] at new
        rw [← new.1] at held
        cases Option.some.inj (held.symm.trans present)
        simp [reader] at running

theorem closes_replaced {before after : List Goroutine} {old new : Goroutine}
    (located : st.running = before ++ old :: after)
    (moved : next.running = before ++ new :: after) (same : new.isClose = old.isClose) :
    st.closes ≤ next.closes := by
  rw [State.closes, State.closes, located, moved, List.countP_append, List.countP_append,
    List.countP_cons, List.countP_cons, same]

theorem closes_removed {before after : List Goroutine} {old : Goroutine}
    (located : st.running = before ++ old :: after) (other : old.isClose = false) :
    (before ++ after).countP Goroutine.isClose = st.closes := by
  rw [State.closes, located, List.countP_append, List.countP_append, List.countP_cons, other]
  rfl

/-- A Close in progress goes on or finds that the WaitGroup is at zero. -/
theorem step_closes (step : Step client st events next) :
    st.closes ≤ next.closes ∨ st.wg = 0 := by
  cases step with
  | closeWait _ zero => exact .inr zero
  | take located | takeMissing located | onceEnter located | onceSkip located
  | closeOutbound located | closeConn _ located | runOnClose located | skipOnClose located
  | onceLeave located | closeCancel located | closeReset _ located | closeNext located =>
    exact .inl (closes_replaced located rfl rfl)
  | unregistered located | loopDone located => exact .inl (closes_removed located rfl).ge
  | send located =>
    refine .inl ?_
    rw [← closes_removed located rfl]
    exact List.Sublist.countP_le (by simp)
  | controlSend _ _ sent =>
    refine .inl ?_
    rw [State.closes, State.closes, State.spawn_running, State.put_running,
      (send_frame sent).2.2.2.1]
    exact (List.sublist_append_left _ _).countP_le
  | callUnregister | callSend | callClose | writer | reader =>
    exact .inl (List.sublist_append_left _ _).countP_le
  | _ => exact .inl le_rfl

/-- A session is registered, then the manager is closed; both loops end and the
Close call is about to return. -/
theorem closing_runs : ∃ (events : List (Event Unit Unit)) (st next : State Unit Unit)
    (sess : SessionState Unit), Runs idle () events st ∧ Move idle st [] next ∧
    next.closes < st.closes ∧ st.heap = [sess] := by
  have start : Runs idle () [] _ := .refl
  have registered := start.next ⟨rfl, .register⟩
  have called := registered.next ⟨rfl, .callClose⟩
  have cancelled :=
    called.next ⟨rfl, .closeCancel (rfl : _ = [] ++ Goroutine.close .cancel :: [])⟩
  have reset :=
    cancelled.next ⟨rfl, .closeReset [0] (rfl : _ = [] ++ Goroutine.close .reset :: []) (.refl _)⟩
  have hungUp :=
    reset.next ⟨rfl, .closeNext (rfl : _ = [] ++ Goroutine.close (.conns [0]) :: []) rfl⟩
  have written :=
    hungUp.next ⟨rfl, .writer (rfl : (State.heap _)[0]? = some _) (.cancelled rfl rfl)⟩
  have writerLooked := written.next ⟨rfl, .takeMissing
    (rfl : _ = [Goroutine.close (.conns [])] ++
      Goroutine.unregister (.loop 0 .write) (.enter 1) :: []) rfl⟩
  have writerDone := writerLooked.next ⟨rfl, .loopDone
    (rfl : _ = [Goroutine.close (.conns [])] ++
      Goroutine.unregister (.loop 0 .write) (.finish _) :: []) rfl⟩
  have read :=
    writerDone.next ⟨rfl, .reader (rfl : (State.heap _)[0]? = some _) (.cancelled rfl rfl)⟩
  have readerLooked := read.next ⟨rfl, .takeMissing
    (rfl : _ = [Goroutine.close (.conns [])] ++
      Goroutine.unregister (.loop 0 .read) (.enter 1) :: []) rfl⟩
  have readerDone := readerLooked.next ⟨rfl, .loopDone
    (rfl : _ = [Goroutine.close (.conns [])] ++
      Goroutine.unregister (.loop 0 .read) (.finish _) :: []) rfl⟩
  exact ⟨_, _, _, _, readerDone,
    ⟨rfl, .closeWait (rfl : _ = [] ++ Goroutine.close (.conns []) :: []) rfl⟩, by decide, rfl⟩

/-- The WaitGroup's counter is the number of loops that have not ended. A loop
on its way out runs exactly one deferred call, nobody else runs one, and the
Done after it finds a positive counter. -/
theorem waitGroup_exact (run : Runs client world events st) :
    st.wg = st.heap.countP (fun sess => sess.reader.worker ≠ .exited) +
      st.heap.countP (fun sess => sess.writer.worker ≠ .exited) ∧
    ∀ index which,
      (st.running.filterMap (Goroutine.leaves which)).count index =
        (if (st.heap[index]?.map (SessionState.phase which)) = some .deferred then 1 else 0) ∧
      ∀ point, .unregister (.loop index which) point ∈ st.running → 0 < st.wg := by
  have attended := runs_attended run
  refine ⟨?_, fun index which => ⟨?_, fun point running => ?_⟩⟩
  · rw [attended.counted]
    simp only [Crew.live, State.crew, List.countP_map]
    rfl
  · simpa [State.crew] using attended.kept which index
  · obtain ⟨sess, found, leaving⟩ := attended.leaving running
    have worker : (st.crew which).workers[index]? = some .deferred := by
      simp [State.crew, found, leaving]
    have positive := Crew.live_pos worker (by simp)
    have counted := attended.counted
    cases which <;> omega

theorem waitGroup_exact_closing : ∃ (events : List (Event Unit Unit)) (st : State Unit Unit),
    Runs idle () events st ∧ 0 < st.closes ∧
    st.wg = st.heap.countP (fun sess => sess.reader.worker ≠ .exited) +
      st.heap.countP (fun sess => sess.writer.worker ≠ .exited) := by
  obtain ⟨events, st, _, _, run, _, returns, _⟩ := closing_runs
  exact ⟨events, st, run, by omega, (waitGroup_exact run).1⟩

/-- When its Wait lets a Close call go, every session registered so far is out of
the map, its connection is closed or about to be closed by whoever took it out, and
its loops have ended: nothing is read from it, handed to the control callback
or written to it ever after. -/
theorem close_final (run : Runs client world events st) (few : st.heap.length < 2 ^ 32)
    (move : Move client st more next) (returns : next.closes < st.closes)
    (found : st.heap[index]? = some sess) :
    sess.reader = .exited ∧ sess.writer = .exited ∧
    (∀ did, st.sessions.lookup did ≠ some index) ∧
    (0 < sess.conn.closes ∨
      (∃ goroutine ∈ st.running, goroutine.Removes index) ∧ Closable client index st) ∧
    ∀ rest later record, Run (Move client) next rest later →
      later.heap[index]? = some record →
      record.reader = .exited ∧ record.writer = .exited ∧
      record.conn.written = sess.conn.written ∧ framesRead (sessionEvents index rest) = [] ∧
      ∀ label, .control index label ∉ rest := by
  have zero : st.wg = 0 := (step_closes move.2).resolve_left (Nat.not_le_of_lt returns)
  have ended := (runs_attended run).ended zero found
  have absent : ∀ did, st.sessions.lookup did ≠ some index := fun did mapped =>
    (runs_departed run few).exited found (.inl ended.1) (Map.mem_values_of_lookup mapped)
  refine ⟨ended.1, ended.2, absent, ?_, ?_⟩
  · rcases (runs_owed run few index).cases found with
      ⟨did, mapped⟩ | ⟨goroutine, running, removes⟩ | closed
    · exact absurd mapped (absent did)
    · exact .inr ⟨⟨goroutine, running, removes⟩, removes.closable run running⟩
    · exact .inl closed
  · intro rest later record path reached
    obtain ⟨middle, present, first⟩ := step_evolves move.2 found
    obtain ⟨last, arrived, second⟩ := run_evolves path present
    cases Option.some.inj (arrived.symm.trans reached)
    have before := session_run_silent ended first
    have after := session_run_silent before.ended second
    exact ⟨after.ended.1, after.ended.2, after.written.trans before.written, after.frames,
      run_without_control path present before.ended⟩

theorem close_final_registered : ∃ (st next : State Unit Unit) (sess : SessionState Unit),
    Move idle st [] next ∧ next.closes < st.closes ∧ st.heap[0]? = some sess ∧
    sess.reader = .exited ∧ sess.writer = .exited ∧
    (∀ did, st.sessions.lookup did ≠ some 0) := by
  obtain ⟨events, st, next, sess, run, move, returns, heap⟩ := closing_runs
  have found : st.heap[0]? = some sess := by simp [heap]
  obtain ⟨reader, writer, absent, _⟩ :=
    close_final run (by simp [heap]) move returns found
  exact ⟨st, next, sess, move, returns, found, reader, writer, absent⟩

end GotaDaemon.Ipc
