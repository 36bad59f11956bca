import GotaDaemon.Ipc.SessionManager

/-! Every run of the manager, seen from one session, is a run of that session
alone: a property of all session runs holds for every session in every
interleaving. -/
namespace GotaDaemon.Ipc
open Go Transition
variable {W K L : Type} {client : Client W K L} {world : W} {st next : State W K}
  {events : List (Event K L)} {index : Nat} {sess : SessionState K}

def Event.at (index : Nat) : Event K L → List SessionEvent
  | .session owner event => if owner = index then [event] else []
  | _ => []

def sessionEvents (index : Nat) (events : List (Event K L)) : List SessionEvent :=
  events.flatMap (Event.at index)

@[simp] theorem sessionEvents_append (more : List (Event K L)) :
    sessionEvents index (events ++ more) =
      sessionEvents index events ++ sessionEvents index more := by
  simp only [sessionEvents, List.flatMap_append]

theorem sessionEvents_map (owner : Nat) (own : List SessionEvent) :
    sessionEvents index (own.map (Event.session (K := K) (L := L) owner)) =
      if owner = index then own else [] := by
  induction own with
  | nil => simp [sessionEvents]
  | cons event rest ih =>
    simp only [sessionEvents] at ih
    by_cases same : owner = index <;> simp_all [sessionEvents, Event.at]

theorem mem_sessionEvents {event : SessionEvent} :
    event ∈ sessionEvents index events ↔ .session index event ∈ events := by
  simp only [sessionEvents, List.mem_flatMap]
  constructor
  · rintro ⟨source, member, at_⟩
    cases source <;> simp only [Event.at, List.not_mem_nil] at at_
    split at at_
    · rename_i same
      subst same
      rwa [List.mem_singleton.mp at_]
    · simp at at_
  · exact fun member => ⟨_, member, by simp [Event.at]⟩

/-- Where a session stands after some events of its own. -/
def Evolves (heap : List (SessionState K)) (index : Nat) (sess : SessionState K)
    (own : List SessionEvent) : Prop :=
  ∃ later, heap[index]? = some later ∧ Run SessionStep sess own later

theorem Evolves.set {heap : List (SessionState K)} {owner : Nat} {old new : SessionState K}
    {own : List SessionEvent} (held : heap[owner]? = some old)
    (moved : Run SessionStep old own new) (found : heap[index]? = some sess) :
    Evolves (heap.set owner new) index sess (if owner = index then own else []) := by
  have bound := (List.getElem?_eq_some_iff.mp held).1
  by_cases same : owner = index
  · subst same
    cases Option.some.inj (held.symm.trans found)
    exact ⟨new, by simp [bound], by simpa using moved⟩
  · exact ⟨sess, by simpa [same] using found, by simpa [same] using Run.refl⟩

theorem Evolves.same {heap : List (SessionState K)} (found : heap[index]? = some sess) :
    Evolves heap index sess [] :=
  ⟨sess, found, .refl⟩

theorem set_cases {heap : List (SessionState K)} {owner : Nat} {old new : SessionState K}
    (held : heap[owner]? = some old) (found : heap[index]? = some sess)
    (after : (heap.set owner new)[index]? = some later) :
    (owner = index ∧ old = sess ∧ later = new) ∨ (owner ≠ index ∧ later = sess) := by
  have bound := (List.getElem?_eq_some_iff.mp held).1
  by_cases same : owner = index
  · subst same
    rw [List.getElem?_set_self bound] at after
    exact .inl ⟨rfl, Option.some.inj (held.symm.trans found), (Option.some.inj after).symm⟩
  · rw [List.getElem?_set_ne same] at after
    exact .inr ⟨same, Option.some.inj (after.symm.trans found)⟩

theorem close_moves {record new : SessionState K} (closed : record.closeOutbound = .ok new) :
    Run SessionStep record (if record.isClosed then [] else [.closed]) new := by
  cases wasClosed : record.isClosed with
  | false => exact .single (.close wasClosed closed)
  | true =>
    simp only [SessionState.closeOutbound, wasClosed, if_true, Except.ok.injEq] at closed
    subst closed
    exact .refl

theorem loopDone_moves (record : SessionState K) (which : Loop) :
    SessionStep record [] (record.loopDone which) := by
  cases which with
  | read => exact .readerDone
  | write => exact .writerDone

/-- A callback goes on or returns to the loop. -/
theorem Act.reader_point (act : Act K) : act.reader.inCallback = true ∨ act.reader = .select := by
  cases act with
  | proceed | send => exact .inl rfl
  | finish => exact .inr rfl

theorem SendNext.reader_inCallback (result : SendNext) (resume : Except SendError Unit → K) :
    (result.reader resume).inCallback = true := by
  cases result <;> rfl

theorem act_moves {record : SessionState K} (running : record.reader = .control activation)
    (act : Act K) : SessionStep record [] { record with reader := act.reader } :=
  .callback (by rw [running]; rfl) act.reader_point

theorem offer_reader {record new : SessionState K} {pkt : OutboundPacket} {outcome : Offer}
    (offered : record.offer pkt = .ok (outcome, new)) : new.reader = record.reader := by
  have done := offer_ok offered
  cases outcome with
  | closed => rw [done.2]
  | accepted =>
    obtain ⟨_, outbound, _, rfl⟩ := done
    rfl
  | blocked =>
    obtain ⟨_, _, _, rfl⟩ := done
    rfl

theorem closeOutbound_reader {record new : SessionState K}
    (closed : record.closeOutbound = .ok new) :
    new.reader = record.reader := by
  cases wasClosed : record.isClosed with
  | false =>
    obtain ⟨_, rfl⟩ := closeOutbound_ok wasClosed closed
    rfl
  | true =>
    simp only [SessionState.closeOutbound, wasClosed, if_true, Except.ok.injEq] at closed
    rw [closed]

theorem writer_reader {record new : SessionState K} {own : List SessionEvent}
    (moved : WriterStep cancelled record own new) : new.reader = record.reader := by
  cases moved <;> rfl

section Send
variable {point : Send} {result : SendNext}

theorem send_evolves (step : SendStep st point events next result)
    (found : st.heap[index]? = some sess) :
    Evolves next.heap index sess (sessionEvents index events) := by
  cases step with
  | found | missing | drop | closed | panicked => exact .same found
  | accepted held offered =>
    simpa [sessionEvents, Event.at] using Evolves.set held (.single (.accept offered)) found
  | blocked held offered =>
    simpa [sessionEvents, Event.at] using Evolves.set held (.single (.block offered)) found

theorem send_reader (step : SendStep st point events next result)
    (found : st.heap[index]? = some sess) (after : next.heap[index]? = some later) :
    later.reader = sess.reader := by
  cases step with
  | found | missing | drop | closed | panicked =>
    cases Option.some.inj (found.symm.trans after)
    rfl
  | accepted held offered | blocked held offered =>
    rcases set_cases held found after with ⟨_, rfl, rfl⟩ | ⟨_, rfl⟩
    · exact offer_reader offered
    · rfl

theorem send_moves {sent : SessionState K} (running : sent.reader = .sending point resume)
    (result : SendNext) : SessionStep sent [] { sent with reader := result.reader resume } :=
  .callback (by rw [running]; rfl) (.inl (result.reader_inCallback resume))

end Send

theorem step_evolves (step : Step client st events next) (found : st.heap[index]? = some sess) :
    Evolves next.heap index sess (sessionEvents index events) := by
  cases step with
  | register =>
    refine ⟨sess, ?_, .refl⟩
    have bound := (List.getElem?_eq_some_iff.mp found).1
    simpa [State.registerSession, List.getElem?_append_left bound] using found
  | registerNil | setOnClose | setControlCallback | callUnregister | callSend | callClose | cancel
  | interfere | take | takeMissing | onceSkip | closeOutboundPanics | runOnClose | skipOnClose
  | unregistered | closeCancel | closeReset | closeWait => exact .same found
  | arrive bytes held =>
    simpa [sessionEvents, Event.at] using Evolves.set held (.single (.arrive bytes)) found
  | onceEnter _ held _ =>
    simpa [sessionEvents] using Evolves.set held (.single (.once .running)) found
  | closeOutbound _ held closed =>
    have moved := Evolves.set held (close_moves closed) found
    split <;> simp_all [sessionEvents, Event.at]
  | closeConn _ _ held | closeNext _ held =>
    simpa [sessionEvents] using Evolves.set held (.single .connClose) found
  | onceLeave _ held =>
    simpa [sessionEvents] using Evolves.set held (.single (.once .done)) found
  | loopDone _ held =>
    simpa [sessionEvents] using Evolves.set held (.single (loopDone_moves _ _)) found
  | send _ sent => simpa using send_evolves sent found
  | writer held moved =>
    simpa [sessionEvents_map] using Evolves.set held (.single (.writer moved)) found
  | reader held moved =>
    simpa [sessionEvents_map] using Evolves.set held (.single (.reader moved)) found
  | control held running _ =>
    simpa [sessionEvents, Event.at] using Evolves.set held (.single (act_moves running _)) found
  | controlSend held running moved reached =>
    -- the callback's send first, on whichever session it finds, then the loop's own move
    obtain ⟨later, present, first⟩ := send_evolves moved found
    have point := (send_reader moved held reached).trans running
    obtain ⟨last, arrived, second⟩ := Evolves.set reached (.single (send_moves point _)) present
    refine ⟨last, by simpa using arrived, ?_⟩
    simpa using first.trans second

theorem send_frame {point : Send} {result : SendNext}
    (step : SendStep st point events next result) :
    next.heap.length = st.heap.length ∧ next.nextDID = st.nextDID ∧ next.sessions = st.sessions ∧
      next.running = st.running ∧ next.onClose = st.onClose ∧ next.onControl = st.onControl := by
  cases step <;> simp

def Event.isRegistration : Event K L → Bool
  | .registered _ _ _ => true
  | _ => false

/-- Records are allocated by RegisterSession only. -/
theorem step_alloc (step : Step client st events next) :
    (next = (st.registerSession (some {})).2 ∧
      events = [.registered st.heap.length (st.nextDID + 1)
        (st.sessions.lookup (st.nextDID + 1))]) ∨
    (next.heap.length = st.heap.length ∧ next.nextDID = st.nextDID ∧
      ∀ event ∈ events, event.isRegistration = false) := by
  cases step with
  | register => exact .inl ⟨rfl, rfl⟩
  | send _ sent | controlSend _ _ sent _ =>
    have frame := send_frame sent
    refine .inr ⟨by simpa using frame.1, by simpa using frame.2.1, ?_⟩
    cases sent <;> simp [Event.isRegistration]
  | closeOutbound =>
    refine .inr ⟨by simp, rfl, ?_⟩
    split <;> simp [Event.isRegistration]
  | writer | reader => exact .inr ⟨by simp, rfl, by simp [Event.isRegistration]⟩
  | _ =>
    refine .inr ⟨?_, ?_, by simp [Event.isRegistration]⟩
    · simp [State.registerSession]
    · simp [State.registerSession]

theorem step_grows (step : Step client st events next) : st.heap.length ≤ next.heap.length := by
  rcases step_alloc step with ⟨rfl, _⟩ | ⟨length, _, _⟩
  · simp [State.registerSession]
  · omega

theorem owner_ne {heap : List (SessionState K)} {owner : Nat} {record : SessionState K}
    (held : heap[owner]? = some record) (absent : heap[index]? = none) : owner ≠ index := by
  rintro rfl
  simp [held] at absent

theorem send_events_allocated {point : Send} {result : SendNext}
    (step : SendStep st point events next result) (absent : st.heap[index]? = none) :
    sessionEvents index events = [] := by
  cases step with
  | accepted held | blocked held => simp [sessionEvents, Event.at, owner_ne held absent]
  | _ => simp [sessionEvents, Event.at]

theorem step_events_allocated (step : Step client st events next)
    (absent : st.heap[index]? = none) :
    sessionEvents index events = [] := by
  cases step with
  | send _ sent | controlSend _ _ sent _ => exact send_events_allocated sent absent
  | arrive _ held => simp [sessionEvents, Event.at, owner_ne held absent]
  | closeOutbound _ held _ => split <;> simp [sessionEvents, Event.at, owner_ne held absent]
  | writer held _ | reader held _ => simp [sessionEvents_map, owner_ne held absent]
  | _ => simp [sessionEvents, Event.at]

theorem session_did {later : SessionState K} {own : List SessionEvent}
    (step : SessionStep sess own later) : later.did = sess.did := by
  cases step with
  | accept offered =>
    obtain ⟨_, _, _, rfl⟩ := offer_ok offered
    rfl
  | block offered =>
    obtain ⟨_, _, _, rfl⟩ := offer_ok offered
    rfl
  | close isOpen closed =>
    obtain ⟨_, rfl⟩ := closeOutbound_ok isOpen closed
    rfl
  | writer moved => cases moved <;> rfl
  | reader moved => cases moved <;> rfl
  | _ => rfl

theorem session_run_did {later : SessionState K} {own : List SessionEvent}
    (run : Run SessionStep sess own later) : later.did = sess.did :=
  run.invariant (P := fun _ later => later.did = sess.did) rfl
    (fun same step => (session_did step).trans same)

/-- A record is an earlier one, or RegisterSession has just made it. -/
theorem step_record {later : SessionState K} (step : Step client st events next)
    (present : next.heap[index]? = some later) :
    (∃ sess, st.heap[index]? = some sess ∧ later.did = sess.did) ∨
      (st.heap[index]? = none ∧ ∃ did overwritten, later = .new K did {} ∧
        events = [.registered index did overwritten]) := by
  cases found : st.heap[index]? with
  | some sess =>
    obtain ⟨record, arrived, path⟩ := step_evolves step found
    cases Option.some.inj (arrived.symm.trans present)
    exact .inl ⟨sess, rfl, session_run_did path⟩
  | none =>
    have bound := List.getElem?_eq_none_iff.mp found
    rcases step_alloc step with ⟨rfl, rfl⟩ | ⟨same, _, _⟩
    · simp only [State.registerSession, List.getElem?_append_right bound, List.getElem?_singleton]
        at present
      split at present
      · rename_i last
        obtain rfl : st.heap.length = index := by omega
        cases present
        exact .inr ⟨rfl, _, _, rfl, rfl⟩
      · contradiction
    · simp [List.getElem?_eq_none_iff.mpr (same ▸ bound)] at present

/-- A session's record is reached by a run of the session alone, from the
record RegisterSession allocated for it. -/
theorem runs_session (run : Runs client world events st) (index : Nat) :
    (st.heap[index]? = none → sessionEvents index events = []) ∧
    ∀ sess, st.heap[index]? = some sess →
      Run SessionStep (.new K sess.did {}) (sessionEvents index events) sess := by
  apply run.invariant (P := fun events st =>
    (st.heap[index]? = none → sessionEvents index events = []) ∧
    ∀ sess, st.heap[index]? = some sess →
      Run SessionStep (.new K sess.did {}) (sessionEvents index events) sess)
  · exact ⟨fun _ => rfl, fun sess found => by simp [State.initial] at found⟩
  · intro events st more next ih step
    cases found : st.heap[index]? with
    | some before =>
      obtain ⟨later, present, path⟩ := step_evolves step.2 found
      have same := session_run_did path
      refine ⟨fun absent => by simp [present] at absent, fun sess reached => ?_⟩
      cases Option.some.inj (present.symm.trans reached)
      rw [sessionEvents_append, same]
      exact (ih.2 before found).trans path
    | none =>
      have silent := step_events_allocated step.2 found
      rw [sessionEvents_append, silent, ih.1 found]
      refine ⟨fun _ => rfl, fun sess reached => ?_⟩
      rcases step_record step.2 reached with ⟨before, present, _⟩ | ⟨_, did, _, rfl, _⟩
      · simp [found] at present
      · exact .refl

/-- The event is a move of the code around the manager. -/
def Event.outside : Event K L → Bool
  | .control _ _ | .interfered _ => true
  | _ => false

/-- Who may change the state around the manager. -/
inductive WorldMove (client : Client W K L) (st next : State W K) : List (Event K L) → Prop where
  | same : next.world = st.world → (∀ event ∈ trace, event.outside = false) →
      WorldMove client st next trace
  | interfered : client.interfere st.world label next.world →
      WorldMove client st next [.interfered label]
  | control : st.heap[owner]? = some record → record.reader = .control activation →
      client.step st.world activation label next.world act →
      WorldMove client st next [.control owner label]

theorem step_world (step : Step client st events next) : WorldMove client st next events := by
  cases step with
  | interfere moved => exact .interfered moved
  | control held running moved => exact .control held running moved
  | send _ sent | controlSend _ _ sent _ =>
    cases sent <;> exact .same rfl (by simp [Event.outside])
  | closeOutbound =>
    refine .same rfl ?_
    split <;> simp [Event.outside]
  | writer | reader => exact .same rfl (by simp [Event.outside])
  | _ => exact .same rfl (by simp [Event.outside])

theorem runs_control {label : L} (run : Runs client world events st)
    (member : .control index label ∈ events) :
    index < st.heap.length := by
  suffices Event.control index label ∈ events → index < st.heap.length from this member
  apply run.invariant (P := fun events st => Event.control index label ∈ events →
    index < st.heap.length)
  · simp
  · intro events st more next bound step member
    refine Nat.lt_of_lt_of_le ?_ (step_grows step.2)
    rcases List.mem_append.mp member with old | new
    · exact bound old
    · cases step_world step.2 with
      | same _ quiet => simpa [Event.outside] using quiet _ new
      | interfered => simp at new
      | control held =>
        simp only [List.mem_singleton, Event.control.injEq] at new
        rw [new.1]
        exact (List.getElem?_eq_some_iff.mp held).1

end GotaDaemon.Ipc
