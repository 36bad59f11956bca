import GotaDaemon.Core.Behaviour
import GotaDaemon.Stun.Discovery

/-! The worker keeps going. No packet makes it panic, nothing blocks it for ever,
and every call of queryAll returns, so that the discovery loop looks at its
context again and Stop can end. -/
namespace GotaDaemon.Stun
open Go Network Transition List

/-- The worker is not about to panic. -/
def Worker.Sound : Worker → Prop
  | .unsubscribe _ _ _ result | .leave _ _ result => result.Safe
  | _ => True

/-- The moves queryAll has left at most. -/
def Worker.cost : Worker → Nat
  | .idle => 0
  | .next servers => 10 * servers.length + 1
  | .resolve _ rest => 10 * rest.length + 10
  | .random _ rest _ => 10 * rest.length + 9
  | .subscribe _ rest => 10 * rest.length + 8
  | .send _ rest _ => 10 * rest.length + 7
  | .write _ rest _ _ => 10 * rest.length + 6
  | .wait _ rest _ => 10 * rest.length + 5
  | .unsubscribe _ rest _ _ => 10 * rest.length + 4
  | .leave _ rest _ => 10 * rest.length + 3
  | .publish _ => 2

variable {W : Type}

/-- queryAll has been called and can go on. -/
def Turn (servers : List String) (st : State W) : Prop :=
  st.worker ≠ .idle ∧ ∃ events next, Move servers st events next ∧ next.worker ≠ st.worker

variable {servers : List String} {world : W} {identity : Identity} {events : List (Event W)}
  {st next : State W}

/-- What a UDP packet can hold is not long enough for the length in the header
to wrap around. -/
theorem parseSTUNResponse_safe {data : Bytes} (short : data.length ≤ 65535) (txID : TransactionID) :
    (parseSTUNResponse data txID).Safe := by
  by_cases known : ∃ msgLen body, data = header msgLen txID ++ body
  · obtain ⟨msgLen, body, rfl⟩ := known
    rw [length_append, header_length] at short
    rw [parseSTUNResponse_header]
    split
    · exact Outcome.safe_error _
    · rw [if_pos (by omega)]
      exact parseAttributes_safe _ 0
  · push Not at known
    obtain ⟨err, refused⟩ := parseSTUNResponse_foreign known
    rw [refused]
    exact Outcome.safe_error err

/-- What a query takes from its channel has come in a UDP packet. -/
theorem taken_short (run : Runs servers world identity events st) {query : Query} {packet : Bytes}
    (took : .took query packet ∈ events) : packet.length ≤ 65535 := by
  have taken : .taken query.packetChan packet ∈ networkEvents events :=
    mem_filterMap.mpr ⟨_, took, rfl⟩
  obtain ⟨offer, _, rfl, _⟩ := (runs_traced (runs_network run)).taken _ _ taken
  exact offer.packet.bounded

theorem step_sound (step : Step servers st events next) (sound : st.worker.Sound)
    (short : ∀ query packet, .took query packet ∈ events → packet.length ≤ 65535) :
    next.worker.Sound ∧ next.panicked = st.panicked := by
  cases step with
  | listener | cancel => exact ⟨sound, rfl⟩
  | receive =>
    exact ⟨(parseSTUNResponse_safe (short _ _ mem_cons_self) _).mapError, rfl⟩
  | unsubscribe point =>
    rw [point] at sound
    exact ⟨sound, rfl⟩
  | crashed point =>
    rw [point] at sound
    exact absurd sound (Outcome.not_safe_panic _)
  | unresolved | noRandom | sendRefused | writeFails | contextDone | timeout =>
    exact ⟨Outcome.safe_error _, rfl⟩
  | _ => exact ⟨trivial, rfl⟩

theorem runs_worker_sound (run : Runs servers world identity events st) :
    st.worker.Sound ∧ st.panicked = none := by
  apply Run.invariant_reached (P := fun _ st => st.worker.Sound ∧ st.panicked = none) _ _ run
  · exact ⟨trivial, rfl⟩
  · rintro past before events next reached ⟨sound, alive⟩ move
    obtain ⟨kept, same⟩ := step_sound move.2 sound fun query packet took =>
      taken_short (reached.next move) (mem_append_right _ took)
    exact ⟨kept, same.trans alive⟩

/-- The channels of the queries exist. -/
theorem runs_packetChans (run : Runs servers world identity events st) :
    ∀ ch ∈ st.packetChans, ch < st.network.channels.length := by
  apply Run.invariant (P := fun _ (st : State W) =>
    ∀ ch ∈ st.packetChans, ch < st.network.channels.length) _ _ run
  · exact fun ch member => absurd member not_mem_nil
  · intro past before events next held move ch member
    have grown : before.network.channels.length ≤ next.network.channels.length := by
      rcases step_network move.2 with ⟨_, same⟩ | moved
      · rw [same]
      · exact step_channels moved
    cases move.2 with
    | make txID point made =>
      cases made
      rcases mem_cons.mp member with rfl | old
      · simp
      · exact (held ch old).trans_le grown
    | _ => exact (held ch member).trans_le grown

/-- Between two moves of the worker its control point stays; a move costs it. -/
theorem step_cost (step : Step servers st events next) (busy : st.worker ≠ .idle) :
    next.worker = st.worker ∨ next.worker.cost < st.worker.cost := by
  cases step with
  | listener | cancel | crashed => exact .inl rfl
  | queryAll idle => exact absurd idle busy
  | exhausted point | cancelled point | attempt point | sendRefused point | send point
  | write point | timeout point | succeeded point | failed point | publish point
  | make _ point | subscribe point | receive point | unsubscribe point | unresolved _ point
  | resolve _ point | noRandom _ point | writeFails _ point | contextDone _ point =>
    right
    simp only [point, Worker.cost, length_cons]
    omega

theorem unsubscribe_possible (network : Network.State W) (subID : UInt32) :
    ∃ found next, Network.Step network [.unsubscribed subID found] next := by
  cases removed : network.listener.unsubscribeFromPacketReceived subID with
  | ok listener => exact ⟨true, _, .unsubscribe removed⟩
  | error err => exact ⟨false, _, .unsubscribeFails removed⟩

/-- Nothing can block queryAll: where it waits for a packet, a timeout ends it. -/
theorem worker_moves (run : Runs servers world identity events st)
    (alive : st.network.panicked = none) (busy : st.worker ≠ .idle) :
    ∃ more next, Move servers st more next ∧ next.worker ≠ st.worker := by
  obtain ⟨sound, unharmed⟩ := runs_worker_sound run
  suffices possible : ∃ more next, Step servers st more next ∧ next.worker ≠ st.worker by
    obtain ⟨more, next, step, moved⟩ := possible
    exact ⟨more, next, ⟨⟨alive, unharmed⟩, step⟩, moved⟩
  cases point : st.worker with
  | idle => exact absurd point busy
  | next pending =>
    cases pending with
    | nil => exact ⟨_, _, .exhausted point, by simp⟩
    | cons server rest =>
      cases ended : st.done with
      | true => exact ⟨_, _, .cancelled point ended, by simp⟩
      | false => exact ⟨_, _, .attempt point ended, by simp⟩
  | resolve => exact ⟨_, _, .unresolved "" point, by simp⟩
  | random => exact ⟨_, _, .noRandom "" point, by simp⟩
  | subscribe query rest =>
    obtain ⟨past, during, old, rfl, _, stage⟩ := runs_current run
    simp only [Stage, point] at stage
    have known := runs_packetChans run _ stage.2.own
    exact ⟨_, _, .subscribe point (.subscribe rfl known), by simp⟩
  | send query rest subID =>
    cases conn : st.network.listener.sendPacketTo with
    | ok conn => exact ⟨_, _, .send point ‹_›, by simp⟩
    | error reason => exact ⟨_, _, .sendRefused point conn, by simp⟩
  | write => exact ⟨_, _, .writeFails "" point, by simp⟩
  | wait => exact ⟨_, _, .timeout point, by simp⟩
  | unsubscribe query rest subID =>
    obtain ⟨found, network, moved⟩ := unsubscribe_possible st.network subID
    exact ⟨_, _, .unsubscribe point moved, by simp⟩
  | leave server rest result =>
    cases result with
    | ok addr => exact ⟨_, _, .succeeded point, by simp⟩
    | error err => exact ⟨_, _, .failed point, by simp⟩
    | panic reason =>
      rw [point] at sound
      exact absurd sound (Outcome.not_safe_panic reason)
  | publish addr => exact ⟨_, _, .publish point, by simp⟩

/-- No packet, from whomever and however it is made, makes the worker panic. -/
theorem discovery_never_panics (servers : List String) (world : W) (identity : Identity)
    (events : List (Event W)) (st : State W) (run : Runs servers world identity events st) :
    st.panicked = none :=
  (runs_worker_sound run).2

theorem discovery_never_panics_answered : ∃ events st,
    Runs ["127.0.0.1:19302"] () ⟨none⟩ events st ∧ .took (testQuery 0) testAnswer ∈ events ∧
    st.panicked = none := by
  obtain ⟨st, run, _⟩ := runs_exchange
  refine ⟨_, st, run, ?_, discovery_never_panics _ _ _ _ st run⟩
  have data : testPacket.data = testAnswer :=
    congrArg Datagram.data (ReadBuffer.copy_readFrom testServer rfl)
  simp [requestEvents, answerEvents, data]

/-- Every call of queryAll returns, whatever arrives or fails to arrive, if the
worker is run again and again and no other goroutine ends the process. -/
theorem queryAll_returns (servers : List String) (world : W) (identity : Identity)
    (trace : Nat → State W) (behaviour : Behaviour (Move servers) (.initial world identity) trace)
    (alive : ∀ time, (trace time).network.panicked = none)
    (scheduled : WeaklyFair (fun time => Turn servers (trace time))
      fun time => (trace (time + 1)).worker ≠ (trace time).worker) (start : Nat) :
    ∃ time, start ≤ time ∧ (trace time).worker = .idle := by
  have moved (time : Nat) (busy : (trace time).worker ≠ .idle) :
      (trace (time + 1)).worker = (trace time).worker ∨
        (trace (time + 1)).worker.cost < (trace time).worker.cost := by
    rcases behaviour.next time with same | ⟨events, move⟩
    · exact .inl (by rw [same])
    · exact step_cost move.2 busy
  apply scheduled.reaches fun time => (trace time).worker.cost
  · intro time busy
    obtain ⟨_, run⟩ := behaviour.reached time
    exact ⟨busy, worker_moves run (alive time) busy⟩
  · intro time busy
    rcases moved time busy with same | fallen
    · rw [same]
    · exact fallen.le
  · intro time busy turned
    exact (moved time busy).resolve_left turned

theorem queryAll_returns_answered : ∃ trace : Nat → State Unit,
    Behaviour (Move ["127.0.0.1:19302"]) (.initial () ⟨none⟩) trace ∧
    (∃ time, (trace time).identity = ⟨some mappedAddr⟩) ∧
    ∀ start, ∃ time, start ≤ time ∧ (trace time).worker = .idle := by
  obtain ⟨st, run, idle, published, unharmed⟩ := runs_exchange
  obtain ⟨trace, last, behaviour, rests⟩ := run.behaviour
  have final (time : Nat) : trace (max time last) = st := rests _ (Nat.le_max_right ..)
  -- nothing moves after a panic, so that there has been none
  have alive (time : Nat) : (trace time).network.panicked = none := by
    by_contra panicked
    have still := behaviour.persists (P := fun st => st.network.panicked ≠ none)
      (fun move panicked => absurd move.1.1 panicked) (Nat.le_max_left time last) panicked
    rw [final time] at still
    exact still unharmed
  have scheduled : WeaklyFair (fun time => Turn ["127.0.0.1:19302"] (trace time))
      fun time => (trace (time + 1)).worker ≠ (trace time).worker := by
    intro start possible
    have busy := (possible (max start last) (Nat.le_max_left ..)).1
    rw [final start] at busy
    exact absurd idle busy
  exact ⟨trace, behaviour, ⟨_, final 0 ▸ published⟩,
    queryAll_returns _ _ _ trace behaviour alive scheduled⟩

end GotaDaemon.Stun
