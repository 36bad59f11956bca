import GotaDaemon.Ipc.Custody

/-! Teardown of sessions is safe in every interleaving: the outbound channel of
a session is closed at most once and not used afterwards, whichever of its
parties gets there first, and onClose is run at most once. -/
namespace GotaDaemon.Ipc
open Go Transition

/-- Both places that close the outbound channel: a full queue in SendToLocal
and the closeOnce body of UnregisterSession. -/
def SessionEvent.closesOutbound : SessionEvent → Bool
  | .blocked | .closed => true
  | _ => false

def SessionEvent.sendsOutbound : SessionEvent → Bool
  | .accepted _ => true
  | _ => false

/-- What a step of a session may do to its channel and the flag that guards it. -/
inductive OutboundUse {K : Type} (sess : SessionState K) :
    List SessionEvent → SessionState K → Prop where
  | unused : later.isClosed = sess.isClosed → later.outbound.closed = sess.outbound.closed →
      (∀ event ∈ own, event.closesOutbound = false ∧ event.sendsOutbound = false) →
      OutboundUse sess own later
  | sent : sess.isClosed = false → later.isClosed = false →
      later.outbound.closed = sess.outbound.closed → OutboundUse sess [.accepted pkt] later
  | closed : event.closesOutbound = true → sess.isClosed = false → later.isClosed = true →
      later.outbound.closed = true → OutboundUse sess [event] later

variable {W K L : Type} {client : Client W K L} {world : W} {st next : State W K}
  {events : List (Event K L)} {index : Nat} {sess later : SessionState K}
  {own more : List SessionEvent}

theorem session_outbound (step : SessionStep sess own later) : OutboundUse sess own later := by
  cases step with
  | accept offered =>
    obtain ⟨isOpen, outbound, sent, rfl⟩ := offer_ok offered
    obtain ⟨before, after, _⟩ := Chan.trySend_some sent
    exact .sent isOpen isOpen (after.trans before.symm)
  | block offered =>
    obtain ⟨isOpen, _, _, rfl⟩ := offer_ok offered
    exact .closed (rfl : SessionEvent.closesOutbound .blocked = true) isOpen rfl rfl
  | close isOpen closed =>
    obtain ⟨_, rfl⟩ := closeOutbound_ok isOpen closed
    exact .closed (rfl : SessionEvent.closesOutbound .closed = true) isOpen rfl rfl
  | writer moved =>
    cases moved with
    | receive _ received => exact .unused rfl (Chan.recv_some received).2.1 nofun
    | drained _ received => exact .unused rfl (by rw [(Chan.recv_none received).2.2]) nofun
    | _ => exact .unused rfl rfl nofun
  | reader moved =>
    cases moved with
    | readBody =>
      exact .unused rfl rfl (by simp [SessionEvent.closesOutbound, SessionEvent.sendsOutbound])
    | _ => exact .unused rfl rfl nofun
  | arrive =>
    exact .unused rfl rfl (by simp [SessionEvent.closesOutbound, SessionEvent.sendsOutbound])
  | _ => exact .unused rfl rfl nofun

/-- After some events of its own, the flag of a session says whether its
channel has been closed, and the channel was not used once it was. -/
structure Guarded (own : List SessionEvent) (sess : SessionState K) : Prop where
  channel : sess.isClosed = sess.outbound.closed
  recorded : (∃ event ∈ own, event.closesOutbound) → sess.isClosed
  order : own.Pairwise fun earlier later =>
    earlier.closesOutbound → ¬later.closesOutbound ∧ ¬later.sendsOutbound

theorem Guarded.step (held : Guarded own sess) (step : SessionStep sess more later) :
    Guarded (own ++ more) later := by
  obtain ⟨channel, recorded, order⟩ := held
  cases session_outbound step with
  | unused flag closed silent =>
    refine ⟨by rw [flag, closed, channel], ?_, ?_⟩
    · rintro ⟨event, member, closes⟩
      rcases List.mem_append.mp member with old | new
      · rw [flag]
        exact recorded ⟨event, old, closes⟩
      · simp [(silent event new).1] at closes
    · refine List.pairwise_append.mpr ⟨order, ?_, ?_⟩
      · exact List.pairwise_of_forall_mem_list fun earlier member _ _ closes => by
          simp [(silent earlier member).1] at closes
      · intro earlier _ last member _
        simp [silent last member]
  | sent wasOpen isOpen closed =>
    have unclosed : ∀ event ∈ own, ¬event.closesOutbound := fun event member closes => by
      simpa [wasOpen] using recorded ⟨event, member, closes⟩
    refine ⟨by rw [isOpen, closed, ← channel, wasOpen], ?_, ?_⟩
    · rintro ⟨event, member, closes⟩
      rcases List.mem_append.mp member with old | new
      · exact absurd closes (unclosed event old)
      · cases List.mem_singleton.mp new
        simp [SessionEvent.closesOutbound] at closes
    · exact List.pairwise_append.mpr ⟨order, List.pairwise_singleton _ _,
        fun earlier member _ _ closes => absurd closes (unclosed earlier member)⟩
  | closed _ wasOpen isClosed closed =>
    refine ⟨by rw [isClosed, closed], fun _ => isClosed, ?_⟩
    exact List.pairwise_append.mpr ⟨order, List.pairwise_singleton _ _,
      fun earlier member _ _ closes => by
      simpa [wasOpen] using recorded ⟨earlier, member, closes⟩⟩

theorem session_guarded {did : DID} (run : Run SessionStep (.new K did {}) own sess) :
    Guarded own sess := by
  apply run.invariant (P := Guarded)
  · exact ⟨rfl, by simp, .nil⟩
  · exact fun held step => held.step step

theorem runs_guarded (run : Runs client world events st) (found : st.heap[index]? = some sess) :
    Guarded (sessionEvents index events) sess :=
  session_guarded ((runs_session run index).2 sess found)

/-- A closed session stays closed and accepts nothing more. -/
theorem session_stays_closed (run : Run SessionStep sess own later) (closed : sess.isClosed) :
    later.isClosed ∧ ∀ event ∈ own, event.sendsOutbound = false := by
  apply run.invariant (P := fun own later => later.isClosed ∧ ∀ event ∈ own,
    event.sendsOutbound = false)
  · exact ⟨closed, by simp⟩
  · rintro own later more last ⟨still, silent⟩ step
    cases session_outbound step with
    | unused flag _ quiet =>
      refine ⟨by rw [flag, still], fun event member => ?_⟩
      rcases List.mem_append.mp member with old | new
      · exact silent event old
      · exact (quiet event new).2
    | sent wasOpen | closed _ wasOpen => simp [still] at wasOpen

def Event.isPanic : Event K L → Bool
  | .panicked _ => true
  | _ => false

/-- Some session's channel is closed while its flag says otherwise. -/
def Unguarded (st : State W K) : Prop :=
  ∃ (index : Nat) (sess : SessionState K), st.heap[index]? = some sess ∧ sess.isClosed = false ∧
    sess.outbound.closed = true

theorem send_panics {point : Send} {result : SendNext}
    (step : SendStep st point events next result) :
    (next.panicked = st.panicked ∧ ∀ event ∈ events, event.isPanic = false) ∨ Unguarded st := by
  cases step with
  | panicked held failed => exact .inr ⟨_, _, held, offer_panics failed⟩
  | _ => exact .inl ⟨rfl, by simp [Event.isPanic]⟩

theorem step_panics (step : Step client st events next) :
    (next.panicked = st.panicked ∧ ∀ event ∈ events, event.isPanic = false) ∨ Unguarded st := by
  cases step with
  | closeOutboundPanics _ held failed => exact .inr ⟨_, _, held, closeOutbound_panics failed⟩
  | closeOutbound =>
    refine .inl ⟨rfl, ?_⟩
    split <;> simp [Event.isPanic]
  | send _ sent | controlSend _ _ sent _ =>
    have outcome := send_panics sent
    exact outcome
  | writer | reader =>
    refine .inl ⟨rfl, fun event member => ?_⟩
    obtain ⟨_, _, rfl⟩ := List.mem_map.mp member
    rfl
  | _ => exact .inl ⟨rfl, by simp [Event.isPanic]⟩

theorem runs_no_panic (run : Runs client world events st) :
    st.panicked = none ∧ ∀ event ∈ events, event.isPanic = false := by
  apply run.invariant_reached (P := fun events st =>
    st.panicked = none ∧ ∀ event ∈ events, event.isPanic = false)
  · exact ⟨rfl, by simp⟩
  · rintro events st more next run ⟨alive, silent⟩ step
    rcases step_panics step.2 with ⟨same, quiet⟩ | ⟨index, sess, found, isOpen, closed⟩
    · exact ⟨same.trans alive, fun event member =>
        (List.mem_append.mp member).elim (silent event) (quiet event)⟩
    · simpa [isOpen, closed] using (runs_guarded run found).channel

theorem moves_stay_closed {more : List (Event K L)} (moves : Run (Move client) st more next)
    (found : st.heap[index]? = some sess) (closed : sess.isClosed) :
    ∃ record, next.heap[index]? = some record ∧ record.isClosed ∧
      ∀ pkt, Event.session index (.accepted pkt) ∉ more := by
  suffices ∃ record, next.heap[index]? = some record ∧ record.isClosed ∧
      ∀ event ∈ sessionEvents index more, event.sendsOutbound = false by
    obtain ⟨record, present, still, silent⟩ := this
    refine ⟨record, present, still, fun pkt member => ?_⟩
    simpa [SessionEvent.sendsOutbound] using silent _ (mem_sessionEvents.mpr member)
  apply moves.invariant (P := fun more next => ∃ record, next.heap[index]? = some record ∧
    record.isClosed ∧ ∀ event ∈ sessionEvents index more, event.sendsOutbound = false)
  · exact ⟨sess, found, closed, by simp [sessionEvents]⟩
  · rintro more st extra next ⟨record, present, still, silent⟩ step
    obtain ⟨later, arrived, path⟩ := step_evolves step.2 present
    obtain ⟨remains, quiet⟩ := session_stays_closed path still
    refine ⟨later, arrived, remains, fun event member => ?_⟩
    rw [sessionEvents_append] at member
    exact (List.mem_append.mp member).elim (silent event) (quiet event)

/-- The number of onClose invocations for a session. -/
def onCloseCount (index : Nat) (events : List (Event K L)) : Nat :=
  (events.map (Event.notified index)).sum

/-- Whatever the number of sessions and callers and however they interleave,
no panic is reachable; the flag of every session says whether its channel has
been closed; it is closed once and not used after; a closed session stays closed
and accepts nothing; onClose is run at most once per session. -/
theorem teardown_safe (run : Runs client world events st) :
    st.panicked = none ∧ (∀ event ∈ events, event.isPanic = false) ∧
    ∀ index,
      (∀ sess, st.heap[index]? = some sess →
        (sess.isClosed = true ↔ sess.outbound.closed = true) ∧
        (sess.isClosed = true → ∀ more later, Run (Move client) st more later →
          ∃ record, later.heap[index]? = some record ∧ record.isClosed = true ∧
            ∀ pkt, Event.session index (.accepted pkt) ∉ more)) ∧
      (sessionEvents index events).Pairwise (fun earlier later => earlier.closesOutbound →
        ¬later.closesOutbound ∧ ¬later.sendsOutbound) ∧
      onCloseCount index events ≤ 1 := by
  obtain ⟨alive, silent⟩ := runs_no_panic run
  refine ⟨alive, silent, fun index => ⟨fun sess found => ⟨?_, ?_⟩, ?_, ?_⟩⟩
  · rw [(runs_guarded run found).channel]
  · exact fun closed more later moves => moves_stay_closed moves found closed
  · cases found : st.heap[index]? with
    | some sess => exact (runs_guarded run found).order
    | none =>
      rw [(runs_session run index).1 found]
      exact .nil
  · have notice := (runs_lawful run index).notice
    have once := (runs_lawful run index).once
    simp only [ledger] at notice once
    unfold onCloseCount
    omega

/-- A caller unregisters the only session, with an onClose callback installed. -/
def unregisterTrace : List (Event Unit Unit) :=
  [.setOnClose true, .registered 0 1 none, .removed 0 1 none, .session 0 .closed, .onClose 0 1]

theorem unregister_runs : ∃ st, Runs idle () unregisterTrace st ∧
    ∃ sess, st.heap[0]? = some sess ∧ sess.isClosed = true := by
  have start : Runs idle () [] (.initial Unit Unit ()) := .refl
  have installed := start.next ⟨rfl, .setOnClose true⟩
  have registered := installed.next ⟨rfl, .register⟩
  have called := registered.next ⟨rfl, .callUnregister 1⟩
  have taken :=
    called.next ⟨rfl, .take (rfl : _ = [] ++ Goroutine.unregister .caller (.enter 1) :: []) rfl⟩
  have entered :=
    taken.next
      ⟨rfl, .onceEnter (rfl : _ = [] ++ Goroutine.unregister .caller (.once 1 0 true) :: [])
    rfl rfl⟩
  have closed := entered.next ⟨rfl, .closeOutbound
    (rfl : _ = [] ++ Goroutine.unregister .caller (.writeMu 1 0 true) :: []) rfl rfl⟩
  have hungUp := closed.next ⟨rfl, .closeConn none
    (rfl : _ = [] ++ Goroutine.unregister .caller (.closeConn 1 0 true) :: []) rfl⟩
  have notified := hungUp.next ⟨rfl, .runOnClose
    (rfl : _ = [] ++ Goroutine.unregister .caller (.callback 1 0 true none) :: [])⟩
  exact ⟨_, notified, _, rfl, rfl⟩

theorem teardown_safe_unregistered : ∃ st, Runs idle () unregisterTrace st ∧ st.panicked = none ∧
    (∃ sess, st.heap[0]? = some sess ∧ sess.isClosed = true ∧ sess.outbound.closed = true) ∧
    onCloseCount 0 unregisterTrace = 1 := by
  obtain ⟨st, run, sess, found, closed⟩ := unregister_runs
  have safe := teardown_safe run
  exact ⟨st, run, safe.1, ⟨sess, found, closed, ((safe.2.2 0).1 sess found).1.mp closed⟩,
    Nat.le_antisymm (safe.2.2 0).2.2 (by decide)⟩

end GotaDaemon.Ipc
