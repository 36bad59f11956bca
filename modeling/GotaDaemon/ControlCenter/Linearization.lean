import GotaDaemon.ControlCenter.Correspondence
import GotaDaemon.ControlCenter.Service
import GotaDaemon.ControlCenter.Serving

/-! The wired manager implements the atomic service. Any number of readLoops
run their callbacks at the same time; what they do to the daemon is what one
DispatchSysCall after the other does, in an order that keeps each client's. -/
namespace GotaDaemon.ControlCenter
open Go Transition Ipc

/-- The point at which a callback's move executes its request. An unknown opcode
is answered by the lookup, any other request by the handler. -/
def Activation.served {W : Type} (d : Dispatcher W) (world : W) :
    Activation W → List (ServiceEvent W)
  | .dispatch did opcode payload =>
    match d.lookup opcode with
    | none => [.served did (opcode, payload) (unknownOpcode did opcode).packet]
    | some _ => []
  | .handler did opcode payload descriptor =>
    [.served did (opcode, payload) (descriptor.respond did opcode payload world).1.packet]
  | .reply _ _ | .done => []

/-- What an event of the manager is for the service. -/
def linear {W : Type} (st : WiredState W) : WiredEvent W → List (ServiceEvent W)
  | .interfered label => [.interfered label]
  | .control owner _ =>
    match st.heap[owner]? with
    | some sess =>
      match sess.reader with
      | .control activation => activation.served st.world.1 st.world.2
      | _ => []
    | none => []
  | _ => []

/-- One session of the manager and the history of the service: the frames read
are the requests executed for its DID and the one in progress; the packets
accepted are the answers, up to one that was refused for good. -/
inductive Sequential {W : Type} (history : List (ServiceEvent W)) (events : List (WiredEvent W))
    (st : WiredState W) (index : Nat) (sess : SessionState (Activation W)) : Prop where
  | intro (sent : List OutboundPacket) (rest : Unfinished W)
      (requests : framesRead (sessionEvents index events) =
        (exchangesOf sess.did history).map Prod.fst ++ rest.requests)
      (answers : (exchangesOf sess.did history).map Prod.snd = sent ++ rest.answers)
      (pending : sess.reader.stopped = false → rest = unfinished sess.reader)
      (accepted : acceptedPackets (sessionEvents index events) = sent ∨
        (acceptedPackets (sessionEvents index events) <+: sent ∧ Deaf st index sess))

/-- The history explains the state of the whole manager. -/
structure Linearized {W : Type} (history : List (ServiceEvent W)) (events : List (WiredEvent W))
    (st : WiredState W) : Prop where
  unsent : ∀ call, .send call ∉ st.running
  serving : ∀ {index : Nat} {sess : SessionState (Activation W)}, st.heap[index]? = some sess →
    Serves sess.did sess.reader
  installed : st.heap ≠ [] → st.onControl = some onControl
  looked : ∀ {index : Nat} {sess : SessionState (Activation W)} {did opcode payload descriptor},
    st.heap[index]? = some sess → sess.reader = .control (.handler did opcode payload descriptor) →
    st.world.1.lookup opcode = some descriptor
  foreign : ∀ {did}, (∀ index, ¬ st.Owns index did) → exchangesOf did history = []
  sequential : ∀ {index : Nat} {sess : SessionState (Activation W)}, st.heap[index]? = some sess →
    Sequential history events st index sess

/-- What the clients see is what the service has done: the requests executed
for a session's DID are the first frames on its connection, the bytes written
to it are those of the answers, and an idle client has all of them. -/
structure Explains {W : Type} (history : List (ServiceEvent W)) (events : List (WiredEvent W))
    (st : WiredState W) : Prop where
  requests : ∀ {index : Nat} {sess : SessionState (Activation W)}, st.heap[index]? = some sess →
    (exchangesOf sess.did history).map Prod.fst <+:
      (requestFraming.readAll (arrivedBytes (sessionEvents index events))).1
  answers : ∀ {index : Nat} {sess : SessionState (Activation W)}, st.heap[index]? = some sess →
    sess.conn.written <+:
      packetFraming.stream (sendable ((exchangesOf sess.did history).map Prod.snd))
  complete : ∀ {index : Nat} {sess : SessionState (Activation W)}, st.heap[index]? = some sess →
    Idle st index sess →
    (exchangesOf sess.did history).map Prod.fst =
      (requestFraming.readAll (arrivedBytes (sessionEvents index events))).1 ∧
    sess.conn.written = packetFraming.stream ((exchangesOf sess.did history).map Prod.snd)
  owned : ∀ {did}, exchangesOf did history ≠ [] → ∃ index, st.Owns index did

variable {W : Type} {may : Dispatcher W × W → Dispatcher W × W → Prop} {st next : WiredState W}
  {events more : List (WiredEvent W)} {history new : List (ServiceEvent W)} {index : Nat}
  {sess later : SessionState (Activation W)} {did : DID}

section Served
variable {d : Dispatcher W} {world : W} {activation : Activation W} {label : Label W}
  {state after : Dispatcher W × W} {act : Act (Activation W)}

/-- A callback executes requests of its own DID only. -/
theorem served_other (serves : activation.Serves did) {other : DID} (apart : did ≠ other) :
    exchangesOf other (activation.served d world) = [] := by
  cases activation with
  | dispatch owner opcode payload =>
    obtain rfl : owner = did := serves
    rw [Activation.served]
    cases d.lookup opcode with
    | none => exact exchangesOf_other apart ..
    | some => rfl
  | handler owner =>
    obtain rfl : owner = did := serves
    exact exchangesOf_other apart ..
  | reply | done => rfl

/-- The callback's moves are moves of the service, if the handler about to be
invoked is still the one in the table. -/
theorem served_atomic (moved : (wired W).step state activation label after act)
    (looked : ∀ {did opcode payload descriptor},
      activation = .handler did opcode payload descriptor →
      state.1.lookup opcode = some descriptor) :
    Run (ServiceStep may) state (activation.served state.1 state.2) after := by
  obtain ⟨d, world⟩ := state
  have result : activation.move d world = (label, after, act) := moved
  cases activation with
  | dispatch did opcode payload =>
    cases found : d.lookup opcode with
    | none =>
      simp only [Activation.move, found, Prod.mk.injEq] at result
      obtain ⟨_, rfl, _⟩ := result
      have whole : ServiceStep may (d, world) _ _ := .serve did opcode payload
      simp only [Dispatcher.dispatchSysCall, found] at whole
      simpa only [Activation.served, found] using Run.single whole
    | some descriptor =>
      simp only [Activation.move, found, Prod.mk.injEq] at result
      obtain ⟨_, rfl, _⟩ := result
      simpa only [Activation.served, found] using Run.refl
  | handler did opcode payload descriptor =>
    have found : d.lookup opcode = some descriptor := looked rfl
    simp only [Activation.move, Prod.mk.injEq] at result
    obtain ⟨_, rfl, _⟩ := result
    have whole : ServiceStep may (d, world) _ _ := .serve did opcode payload
    simp only [Dispatcher.dispatchSysCall, found] at whole
    exact Run.single whole
  | reply | done =>
    simp only [Activation.move, Prod.mk.injEq] at result
    obtain ⟨_, rfl, _⟩ := result
    exact Run.refl

end Served

theorem step_lookup {opcode : UInt16} {descriptor : SyscallDescriptor W}
    (step : Step (wired W) st events next) (found : st.world.1.lookup opcode = some descriptor) :
    next.world.1.lookup opcode = some descriptor := by
  cases step_world step with
  | same unchanged => rwa [unchanged]
  | interfered moved => exact moved.lookup found
  | control _ _ moved => rwa [(move_table moved).1]

theorem linear_control {owner : Nat} {record : SessionState (Activation W)} {label : Label W}
    {activation : Activation W} (held : st.heap[owner]? = some record)
    (running : record.reader = .control activation) :
    linear st (.control owner label) = activation.served st.world.1 st.world.2 := by
  simp only [linear, held, running]

theorem linear_quiet {event : WiredEvent W} (inside : event.outside = false) :
    linear st event = [] := by
  cases event with
  | control | interfered => contradiction
  | _ => rfl

/-- Every step of the manager is at most one step of the service. -/
theorem step_service (linearized : Linearized history events st)
    (moved : ServingMove may st more next) :
    Run (ServiceStep may) st.world (more.flatMap (linear st)) next.world := by
  cases step_world moved.move.2 with
  | same unchanged quiet =>
    rw [List.flatMap_eq_nil_iff.mpr fun event member => linear_quiet (quiet event member),
      unchanged]
    exact .refl
  | interfered interferes =>
    have within := moved.calm _ (List.mem_singleton.mpr rfl)
    simpa only [List.flatMap_singleton] using Run.single (.interfere interferes within)
  | @control _ _ activation _ _ held running acted =>
    rw [List.flatMap_singleton, linear_control held running]
    refine served_atomic acted ?_
    rintro did opcode payload descriptor rfl
    exact linearized.looked held running

/-- Only a callback of a session with the DID executes requests for it. -/
theorem linear_other {event : WiredEvent W}
    (serving : ∀ {owner : Nat} {record : SessionState (Activation W)},
      st.heap[owner]? = some record → Serves record.did record.reader)
    (apart : ∀ {owner label record}, event = .control owner label →
      st.heap[owner]? = some record → record.did ≠ did) :
    exchangesOf did (linear st event) = [] := by
  cases event with
  | control owner label =>
    cases held : st.heap[owner]? with
    | none => simp [linear, held]
    | some record =>
      have other := apart rfl held
      cases running : record.reader with
      | control activation =>
        have serves := serving held
        rw [running] at serves
        rw [linear_control held running]
        exact served_other serves other
      | _ => simp [linear, held, running]
  | _ => rfl

/-- The session stays deaf when its loop moves on, but not to a queue it has
found. -/
theorem Deaf.moved (deaf : Deaf st index sess)
    (gone : index ∉ st.sessions.values → index ∉ next.sessions.values)
    {point : ReadLoop (Activation W)}
    (apart : ∀ did target pkt resume, point ≠ .sending (.enqueue did target pkt) resume) :
    Deaf next index { sess with reader := point } :=
  deaf.mono id gone fun _ _ _ _ at_ => absurd at_ (apart _ _ _ _)

section Session
variable (sequential : Sequential history events st index sess)
include sequential

/-- A step that neither begins nor ends anything. -/
theorem Sequential.frame (unserved : exchangesOf sess.did new = [])
    (unread : framesRead (sessionEvents index more) = [])
    (unsent : acceptedPackets (sessionEvents index more) = []) (same : later.did = sess.did)
    (point : later.reader.stopped = false → sess.reader.stopped = false ∧
      unfinished later.reader = unfinished sess.reader)
    (deaf : Deaf st index sess → Deaf next index later) :
    Sequential (history ++ new) (events ++ more) next index later := by
  obtain ⟨sent, rest, requests, answers, pending, accepted⟩ := sequential
  refine ⟨sent, rest, ?_, ?_, fun running => ?_, ?_⟩
  · simpa [unread, unserved, same] using requests
  · simpa [unserved, same] using answers
  · rw [(point running).2]
    exact pending (point running).1
  · simpa [unsent] using accepted.imp_right (And.imp_right deaf)

/-- A step of the session's own loop: the requests it has in hand and the
answers it has not sent change by what it reads, executes and decides on. -/
theorem Sequential.advance (running : sess.reader.stopped = false) (same : later.did = sess.did)
    (decided : List OutboundPacket)
    (requests : (unfinished sess.reader).requests ++ framesRead (sessionEvents index more) =
      (exchangesOf sess.did new).map Prod.fst ++ (unfinished later.reader).requests)
    (answers : (unfinished sess.reader).answers ++ (exchangesOf sess.did new).map Prod.snd =
      decided ++ (unfinished later.reader).answers)
    (outcome : (acceptedPackets (sessionEvents index more) = decided ∧
        (Deaf st index sess → decided = [] ∧ Deaf next index later)) ∨
      (acceptedPackets (sessionEvents index more) = [] ∧ Deaf next index later)) :
    Sequential (history ++ new) (events ++ more) next index later := by
  obtain ⟨sent, rest, before, past, pending, accepted⟩ := sequential
  obtain rfl := pending running
  refine ⟨sent ++ decided, unfinished later.reader, ?_, ?_, fun _ => rfl, ?_⟩
  · rw [sessionEvents_append, framesRead_append, before, List.append_assoc, requests, same]
    simp
  · rw [same, exchangesOf_append, List.map_append, past, List.append_assoc, answers,
      List.append_assoc]
  · rw [sessionEvents_append, acceptedPackets_append]
    rcases outcome with ⟨taken, keeps⟩ | ⟨refused, deaf⟩
    · rcases accepted with all | ⟨part, deaf⟩
      · exact .inl (by rw [all, taken])
      · obtain ⟨rfl, stays⟩ := keeps deaf
        exact .inr ⟨by simpa [taken] using part, stays⟩
    · have part : acceptedPackets (sessionEvents index events) <+: sent := by
        rcases accepted with all | ⟨part, _⟩
        · exact all ▸ List.prefix_rfl
        · exact part
      rw [refused, List.append_nil]
      exact .inr ⟨part.trans (List.prefix_append _ _), deaf⟩

/-- A step of the loop that decides on no answer. -/
theorem Sequential.proceed (running : sess.reader.stopped = false) (same : later.did = sess.did)
    (requests : (unfinished sess.reader).requests ++ framesRead (sessionEvents index more) =
      (exchangesOf sess.did new).map Prod.fst ++ (unfinished later.reader).requests)
    (answers : (unfinished sess.reader).answers ++ (exchangesOf sess.did new).map Prod.snd =
      (unfinished later.reader).answers)
    (unsent : acceptedPackets (sessionEvents index more) = [])
    (deaf : Deaf st index sess → Deaf next index later) :
    Sequential (history ++ new) (events ++ more) next index later :=
  sequential.advance running same [] requests answers (.inl ⟨unsent, fun held => ⟨rfl, deaf held⟩⟩)

/-- SendToLocal decides on an answer. -/
theorem Sequential.sent {pkt : OutboundPacket} (running : sess.reader.stopped = false)
    (same : later.did = sess.did) (unserved : exchangesOf sess.did new = [])
    (unread : framesRead (sessionEvents index more) = [])
    (point : unfinished sess.reader = { answers := [pkt] }) (ended : unfinished later.reader = {})
    (outcome : (acceptedPackets (sessionEvents index more) = [pkt] ∧ ¬ Deaf st index sess) ∨
      (acceptedPackets (sessionEvents index more) = [] ∧ Deaf next index later)) :
    Sequential (history ++ new) (events ++ more) next index later := by
  refine sequential.advance running same [pkt] ?_ ?_
    (outcome.imp_left (And.imp_right fun hearing deaf => absurd deaf hearing))
  · simp [unserved, unread, point, ended]
  · simp [unserved, point, ended]

variable (gone : index ∉ st.sessions.values → index ∉ next.sessions.values)
include gone

theorem read_sequential {own : List SessionEvent} (unserved : exchangesOf sess.did new = [])
    (moved : ReaderStep cancelled (some onControl) sess own later) :
    Sequential (history ++ new) (events ++ own.map (.session index)) next index later := by
  cases moved with
  | cancelled | headerFailed | bodyFailed =>
    refine sequential.frame unserved rfl rfl rfl (fun running => ?_) (·.moved gone (by simp))
    simp [ReadLoop.stopped] at running
  | proceed at_ | readHeader at_ | readBody at_ =>
    refine sequential.proceed (by rw [at_]; rfl) rfl ?_ ?_ ?_ (·.moved gone (by simp))
    · simp [at_, unfinished, unserved, sessionEvents, Event.at, framesRead, SessionEvent.request]
    · simp [at_, unfinished, unserved]
    · simp [sessionEvents, Event.at, acceptedPackets, SessionEvent.packet]
  | call at_ installed =>
    cases installed
    refine sequential.proceed (by rw [at_]; rfl) rfl ?_ ?_ rfl (·.moved gone (by simp))
    · simp [at_, unfinished, unserved, onControl, sessionEvents, framesRead]
    · simp [at_, unfinished, unserved, onControl]
  | ignore _ absent => contradiction

theorem control_sequential {activation : Activation W} {label : Label W}
    {world after : Dispatcher W × W} {act : Act (Activation W)}
    (running : sess.reader = .control activation) (serves : activation.Serves sess.did)
    (moved : (wired W).step world activation label after act) :
    Sequential (history ++ activation.served world.1 world.2) (events ++ [.control index label])
      next index { sess with reader := act.reader } := by
  have result : activation.move world.1 world.2 = (label, after, act) := moved
  have begun : sess.reader.stopped = false := by
    rw [running]
    rfl
  have unread : framesRead (sessionEvents index [Event.control (K := Activation W) index label]) =
    [] := rfl
  cases activation with
  | dispatch did opcode payload =>
    obtain rfl : did = sess.did := serves
    cases found : world.1.lookup opcode with
    | none | some =>
      simp only [Activation.move, found, Prod.mk.injEq] at result
      obtain ⟨_, _, rfl⟩ := result
      refine sequential.proceed begun rfl ?_ ?_ rfl (·.moved gone (by simp [Act.reader]))
      · simp [running, unfinished, Activation.served, found, Act.reader, unread]
      · simp [running, unfinished, Activation.served, found, Act.reader]
  | handler did opcode payload descriptor =>
    obtain rfl : did = sess.did := serves
    simp only [Activation.move, Prod.mk.injEq] at result
    obtain ⟨_, _, rfl⟩ := result
    refine sequential.proceed begun rfl ?_ ?_ rfl (·.moved gone (by simp [Act.reader]))
    · simp [running, unfinished, Activation.served, Act.reader, unread]
    · simp [running, unfinished, Activation.served, Act.reader]
  | reply | done =>
    simp only [Activation.move, Prod.mk.injEq] at result
    obtain ⟨_, _, rfl⟩ := result
    refine sequential.proceed begun rfl ?_ ?_ rfl (·.moved gone (by simp [Act.reader]))
    · simp [running, unfinished, Activation.served, Act.reader, unread]
    · simp [running, unfinished, Activation.served, Act.reader]

theorem send_sequential {call : Send} {resume : Except SendError Unit → Activation W}
    {result : SendNext} {sent : WiredState W} {middle : SessionState (Activation W)}
    (unserved : exchangesOf sess.did new = []) (addressed : Addressed st)
    (numbered : Numbered st) (few : st.heap.length < 2 ^ 32) (found : st.heap[index]? = some sess)
    (running : sess.reader = .sending call resume) (serves : Serves sess.did (.sending call resume))
    (step : SendStep st call more sent result) (reached : sent.heap[index]? = some middle) :
    Sequential (history ++ new) (events ++ more) next index
      { middle with reader := result.reader resume } := by
  obtain ⟨same, returns⟩ := serves
  have begun : sess.reader.stopped = false := by
    rw [running]
    rfl
  have ended : ∀ {result}, unfinished (.control (resume result)) = {} :=
    fun {result} => by rw [returns result]; rfl
  have own : call.Addressed st.Owns := by
    have held := addressed.readers sess (List.mem_of_getElem? found)
    rwa [running] at held
  cases step with
  | found entry =>
    cases Option.some.inj (found.symm.trans reached)
    obtain rfl := same
    obtain rfl := owns_unique numbered few found (addressed.entries entry)
    refine sequential.proceed begun rfl ?_ ?_ rfl (fun deaf => ?_)
    · simp [running, unfinished, unserved, SendNext.reader, sessionEvents, framesRead]
    · simp [running, unfinished, unserved, SendNext.reader]
    · rcases deaf with shut | ⟨unmapped, _⟩
      · exact .inl shut
      · exact absurd (Map.mem_values_of_lookup entry) unmapped
  | missing absent =>
    cases Option.some.inj (found.symm.trans reached)
    obtain rfl := same
    refine sequential.sent begun rfl unserved rfl (by rw [running]; rfl) ended
      (.inr ⟨rfl, .inr ⟨gone fun mapped => ?_, by simp [SendNext.reader]⟩⟩)
    obtain ⟨did, entry⟩ := Map.exists_lookup_of_mem mapped
    obtain ⟨record, held, rfl⟩ := addressed.entries entry
    cases Option.some.inj (held.symm.trans found)
    simp [absent] at entry
  | accepted held offered =>
    obtain rfl := same
    obtain rfl := owns_unique numbered few found own
    rcases set_cases held found reached with ⟨_, rfl, rfl⟩ | ⟨other, _⟩
    · obtain ⟨isOpen, outbound, _, rfl⟩ := offer_ok offered
      refine sequential.sent begun rfl unserved ?_ (by rw [running]; rfl) ended (.inl ⟨?_, ?_⟩)
      · simp [sessionEvents, Event.at, framesRead, SessionEvent.request]
      · simp [sessionEvents, Event.at, acceptedPackets, SessionEvent.packet]
      · rintro (shut | ⟨_, moving⟩)
        · simp [isOpen] at shut
        · exact moving _ _ _ _ running
    · exact absurd rfl other
  | closed held offered =>
    obtain rfl := same
    obtain rfl := owns_unique numbered few found own
    cases Option.some.inj (found.symm.trans reached)
    cases Option.some.inj (found.symm.trans held)
    exact sequential.sent begun rfl unserved rfl (by rw [running]; rfl) ended
      (.inr ⟨rfl, .inl (offer_ok offered).1⟩)
  | blocked held offered =>
    obtain rfl := same
    obtain rfl := owns_unique numbered few found own
    rcases set_cases held found reached with ⟨_, rfl, rfl⟩ | ⟨other, _⟩
    · obtain ⟨_, _, _, rfl⟩ := offer_ok offered
      refine sequential.sent begun rfl unserved ?_ (by rw [running]; rfl) rfl (.inr ⟨?_, .inl rfl⟩)
      · simp [sessionEvents, Event.at, framesRead, SessionEvent.request]
      · simp [sessionEvents, Event.at, acceptedPackets, SessionEvent.packet]
    · exact absurd rfl other
  | panicked =>
    cases Option.some.inj (found.symm.trans reached)
    refine sequential.proceed begun rfl ?_ ?_ rfl (fun deaf => deaf.mono id gone ?_)
    · simp [running, unfinished, unserved, SendNext.reader, sessionEvents, Event.at, framesRead]
    · simp [running, unfinished, unserved, SendNext.reader]
    · rintro did target pkt resume ⟨⟩
      exact running
  | drop =>
    cases Option.some.inj (found.symm.trans reached)
    refine sequential.proceed begun rfl ?_ ?_ rfl (·.moved gone (by simp [SendNext.reader]))
    · simp [running, unfinished, unserved, SendNext.reader, returns, sessionEvents, framesRead]
    · simp [running, unfinished, unserved, SendNext.reader, returns]

end Session

/-- The DIDs of two sessions differ. -/
theorem did_apart (numbered : Numbered st) (few : st.heap.length < 2 ^ 32)
    (found : st.heap[index]? = some sess) {owner : Nat} {record : SessionState (Activation W)}
    (held : st.heap[owner]? = some record) (other : owner ≠ index) : record.did ≠ sess.did :=
  fun same => other (owns_unique numbered few found ⟨record, held, same⟩)

theorem Sequential.step (sequential : Sequential history events st index sess) (wired : Wired st)
    (addressed : Addressed st) (numbered : Numbered st) (few : st.heap.length < 2 ^ 32)
    (step : Step (ControlCenter.wired W) st more next) (found : st.heap[index]? = some sess)
    (present : next.heap[index]? = some later) :
    Sequential (history ++ more.flatMap (linear st)) (events ++ more) next index later := by
  have bound := (List.getElem?_eq_some_iff.mp found).1
  have gone : index ∉ st.sessions.values → index ∉ next.sessions.values := fun absent mapped =>
    (step_values step mapped).elim absent (Nat.ne_of_lt bound)
  obtain ⟨record, arrived, path⟩ := step_evolves step found
  cases Option.some.inj (arrived.symm.trans present)
  have closed : sess.isClosed = true → later.isClosed = true :=
    fun shut => (session_stays_closed path shut).1
  have same := session_run_did path
  cases step_reader step found present with
  | aside unmoved quiet =>
    obtain ⟨silent, unsent⟩ := Silent.of_quiet quiet
    refine sequential.frame ?_ silent.requests unsent same (fun running => ?_)
      (fun deaf => deaf.mono closed gone (by simp [unmoved]))
    · refine exchangesOf_flatMap fun event member => linear_other wired.serving ?_
      rintro owner label record rfl held
      refine did_apart numbered few found held ?_
      simpa [Event.concerns] using quiet _ member
    · rw [unmoved] at running ⊢
      exact ⟨running, rfl⟩
  | left exited =>
    refine sequential.frame rfl rfl rfl same (fun running => ?_)
      (fun deaf => deaf.mono closed gone (by simp [exited]))
    simp [exited, ReadLoop.stopped] at running
  | read moved =>
    rw [wired.installed] at moved
    refine read_sequential sequential gone (exchangesOf_flatMap ?_) moved
    intro event member
    obtain ⟨_, _, rfl⟩ := List.mem_map.mp member
    rfl
  | control running moved made =>
    subst made
    have serves := wired.serving found
    rw [running] at serves
    rw [List.flatMap_singleton, linear_control found running]
    exact control_sequential sequential gone running serves moved
  | controlSend running sent reached made =>
    subst made
    have serves := wired.serving found
    rw [running] at serves
    refine send_sequential sequential gone (exchangesOf_flatMap ?_) addressed numbered few found
      running serves sent reached
    intro event member
    cases sent <;> simp only [List.not_mem_nil, List.mem_singleton] at member <;> rw [member] <;>
      rfl
  | accepted sent =>
    -- another session's readLoop would have to know this session under its own DID
    obtain ⟨owner, other, resume, apart, held, sending⟩ := wired.sentByOther sent
    have own := addressed.readers other (List.mem_of_getElem? held)
    rw [sending] at own
    exact absurd (owns_unique numbered few held own).symm apart

theorem Linearized.wired (linearized : Linearized history events st) (some_ : st.heap ≠ []) :
    Wired st where
  installed := linearized.installed some_
  unsent := linearized.unsent
  serving := linearized.serving

theorem heap_ne_nil (found : st.heap[index]? = some sess) : st.heap ≠ [] := by
  intro empty
  simp [empty] at found

/-- A handler about to be invoked has been looked up in the table. -/
theorem step_looked (linearized : Linearized history events st)
    (step : Step (wired W) st more next) (present : next.heap[index]? = some later)
    {opcode : UInt16} {payload : List UInt8} {descriptor : SyscallDescriptor W}
    (running : later.reader = .control (.handler did opcode payload descriptor)) :
    next.world.1.lookup opcode = some descriptor := by
  rcases step_record step present with ⟨sess, found, _⟩ | ⟨_, _, _, rfl, _⟩
  · have wired := linearized.wired (heap_ne_nil found)
    cases step_reader step found present with
    | aside unmoved | accepted _ unmoved =>
      exact step_lookup step (linearized.looked found (unmoved.symm.trans running))
    | left exited => simp [exited] at running
    | read moved =>
      rw [wired.installed] at moved
      cases moved with
      | call _ installed =>
        cases installed
        simp [onControl] at running
      | _ => simp at running
    | @control activation _ _ _ moved made =>
      subst made
      have table := (move_table moved).1
      have result : activation.move st.world.1 st.world.2 = _ := moved
      rw [table]
      cases activation with
      | dispatch owner other content =>
        cases entry : st.world.1.lookup other with
        | none | some =>
          simp only [Activation.move, entry, Prod.mk.injEq] at result
          obtain ⟨_, _, rfl⟩ := result
          simp_all [Act.reader]
      | handler | reply | done =>
        simp only [Activation.move, Prod.mk.injEq] at result
        obtain ⟨_, _, rfl⟩ := result
        simp [Act.reader] at running
    | @controlSend _ _ _ _ result _ at_ _ _ made =>
      subst made
      have serves := wired.serving found
      rw [at_] at serves
      cases result <;> simp [SendNext.reader, serves.2] at running
  · simp [SessionState.new] at running

/-- Nothing is executed for a DID that no session has. -/
theorem step_foreign (linearized : Linearized history events st)
    (step : Step (wired W) st more next) (unowned : ∀ index, ¬ next.Owns index did) :
    exchangesOf did (history ++ more.flatMap (linear st)) = [] := by
  have before : ∀ index, ¬ st.Owns index did := fun index owns =>
    unowned index (step_owns step owns)
  rw [exchangesOf_append, linearized.foreign before, List.nil_append]
  refine exchangesOf_flatMap fun event _ => linear_other linearized.serving ?_
  rintro owner label record _ held same
  exact before owner ⟨record, held, same⟩

/-- A session that RegisterSession is just making has a DID of its own. -/
theorem sequential_new (linearized : Linearized history events st) (numbered : Numbered st)
    (absent : st.heap[index]? = none) (few : index + 1 < 2 ^ 32)
    (unheard : sessionEvents index events = []) (overwritten : Option Nat) :
    Sequential (history ++ []) (events ++ [.registered index (didOf index) overwritten]) next index
      (.new (Activation W) (didOf index) {}) := by
  have unserved : exchangesOf (didOf index) history = [] := by
    refine linearized.foreign fun owner owns => ?_
    have beyond := List.getElem?_eq_none_iff.mp absent
    obtain ⟨bound, same⟩ := numbered.owns owns
    have both := didOf_injective few (by omega) same
    omega
  have silent : sessionEvents index (events ++ [.registered index (didOf index) overwritten]) =
      [] := by
    rw [sessionEvents_append, unheard]
    rfl
  refine ⟨[], {}, ?_, ?_, fun _ => rfl, .inl ?_⟩
  · simp [SessionState.new, unserved, silent, framesRead]
  · simp [SessionState.new, unserved]
  · simp [silent, acceptedPackets]

theorem Linearized.step {s : Dispatcher W × W} (run : Runs (ControlCenter.wired W) s events st)
    (linearized : Linearized history events st) (moved : ServingMove may st more next) :
    Linearized (history ++ more.flatMap (linear st)) (events ++ more) next where
  unsent := step_unsent linearized.unsent moved.move.2 moved.alone
  installed := moved.installed
  serving {index later} present := by
    rcases step_record moved.move.2 present with ⟨_, found, _⟩ | ⟨_, _, _, rfl, _⟩
    · exact step_serving (linearized.wired (heap_ne_nil found)) moved.move.2 present
    · trivial
  looked present running := step_looked linearized moved.move.2 present running
  foreign := step_foreign linearized moved.move.2
  sequential {index later} present := by
    have fewer := Nat.lt_of_le_of_lt (step_grows moved.move.2) moved.few
    rcases step_record moved.move.2 present with ⟨sess, found, _⟩ | ⟨absent, did, _, rfl, rfl⟩
    · exact (linearized.sequential found).step (linearized.wired (heap_ne_nil found))
        (runs_addressed run) (runs_numbered run) fewer moved.move.2 found present
    · obtain rfl : did = didOf index :=
        (step_numbered moved.move.2 (runs_numbered run)).dids present
      have bound := (List.getElem?_eq_some_iff.mp present).1
      have few := moved.few
      exact sequential_new linearized (runs_numbered run) absent (by omega)
        ((runs_session run index).1 absent) _

section Explained
variable {s : Dispatcher W × W}

theorem Sequential.requests_initial (sequential : Sequential history events st index sess) :
    (exchangesOf sess.did history).map Prod.fst <+: framesRead (sessionEvents index events) := by
  obtain ⟨_, _, requests, _, _, _⟩ := sequential
  exact requests ▸ List.prefix_append _ _

theorem Sequential.accepted_initial (sequential : Sequential history events st index sess) :
    acceptedPackets (sessionEvents index events) <+:
      (exchangesOf sess.did history).map Prod.snd := by
  obtain ⟨sent, rest, _, answers, _, accepted⟩ := sequential
  rw [answers]
  rcases accepted with all | ⟨part, _⟩
  · exact all ▸ List.prefix_append _ _
  · exact part.trans (List.prefix_append _ _)

/-- A loop that waits for input has nothing unfinished. -/
theorem waiting_unfinished (short : sess.conn.inbound.length < sess.reader.wants) :
    sess.reader.stopped = false ∧ unfinished sess.reader = {} := by
  cases at_ : sess.reader <;> simp [at_, ReadLoop.wants, ReadLoop.stopped, unfinished] at short ⊢

/-- A session whose loop waits for the next frame has answered all it has read,
if its packets still find it. -/
theorem Sequential.caught_up (sequential : Sequential history events st index sess)
    (idle : Idle st index sess) :
    framesRead (sessionEvents index events) = (exchangesOf sess.did history).map Prod.fst ∧
    acceptedPackets (sessionEvents index events) =
      (exchangesOf sess.did history).map Prod.snd := by
  obtain ⟨sent, rest, requests, answers, pending, accepted⟩ := sequential
  obtain rfl : rest = {} := by
    obtain ⟨running, between⟩ := waiting_unfinished idle.waiting
    rw [pending running, between]
  have hearing : ¬ Deaf st index sess := by
    rintro (shut | ⟨unmapped, _⟩)
    · simp [idle.isOpen] at shut
    · exact unmapped idle.mapped
  refine ⟨by simpa using requests, ?_⟩
  rcases accepted with all | ⟨_, deaf⟩
  · simpa [all] using answers.symm
  · exact absurd deaf hearing

theorem Linearized.explains (run : Runs (ControlCenter.wired W) s events st)
    (linearized : Linearized history events st) : Explains history events st where
  requests found :=
    (linearized.sequential found).requests_initial.trans (runs_receiving run found).frames_initial
  answers found := by
    have streaming := runs_streaming run found
    refine streaming.written_prefix.trans ?_
    obtain ⟨rest, same⟩ := (linearized.sequential found).accepted_initial
    obtain ⟨more, longer⟩ := sendable_prefix (acceptedPackets _) rest
    rw [← same, ← longer, Framing.stream_append]
    exact List.prefix_append _ _
  complete {index sess} found idle := by
    obtain ⟨read, sent⟩ := (linearized.sequential found).caught_up idle
    constructor
    · rw [(runs_receiving run found).exhausted idle.waiting, read]
    · obtain ⟨begun, order, _, written⟩ := (runs_streaming run found).begun idle.writing rfl
      simp only [WriteLoop.held, WriteLoop.pending, idle.empty, List.append_nil] at order written
      rw [written, ← order, sent]
  owned served := by
    by_contra unowned
    exact served (linearized.foreign (not_exists.mp unowned))

/-- The i-th packet a client reads answers the i-th frame it has sent, by an
exchange of the service. -/
theorem Explains.response (explains : Explains history events st)
    (found : st.heap[index]? = some sess) {i : Nat} {pkt : OutboundPacket}
    (read : (packetFraming.readAll sess.conn.written).1[i]? = some pkt) :
    ∃ request, (exchangesOf sess.did history)[i]? = some (request, pkt) ∧
      (requestFraming.readAll (arrivedBytes (sessionEvents index events))).1[i]? =
        some request := by
  have sent : (packetFraming.readAll sess.conn.written).1 <+:
      (exchangesOf sess.did history).map Prod.snd :=
    (Framing.readAll_prefix sendable_valid (explains.answers found)).trans
      (List.takeWhile_prefix _)
  have answer := prefix_at sent read
  rw [List.getElem?_map] at answer
  obtain ⟨⟨request, _⟩, at_, rfl⟩ := Option.map_eq_some_iff.mp answer
  refine ⟨request, at_, prefix_at (explains.requests found) ?_⟩
  rw [List.getElem?_map, at_, Option.map_some]

theorem linearized_initial (s : Dispatcher W × W) : Linearized [] [] (.initial _ _ s) where
  unsent := by simp [State.initial]
  serving := by simp [State.initial]
  installed := by simp [State.initial]
  looked := by simp [State.initial]
  foreign := by simp
  sequential := by simp [State.initial]

/-- The service keeps up with the manager from any point of a run on. -/
theorem Linearized.runs (before : Run (ServingMove may) (.initial _ _ s) events st)
    (linearized : Linearized history events st) (after : Run (ServingMove may) st more next) :
    ∃ new, Run (ServiceStep may) st.world new next.world ∧
      Linearized (history ++ new) (events ++ more) next := by
  obtain ⟨new, _, served, rfl, related⟩ : ∃ new world, Run (ServiceStep may) st.world new world ∧
      world = next.world ∧ Linearized (history ++ new) (events ++ more) next := by
    refine after.simulated (R := fun more next new world => world = next.world ∧
      Linearized (history ++ new) (events ++ more) next) ⟨rfl, by simpa using linearized⟩ ?_
    rintro more st fs next new _ path ⟨rfl, related⟩ moved
    refine ⟨_, _, step_service related moved, rfl, ?_⟩
    rw [← List.append_assoc, ← List.append_assoc]
    exact related.step (serving_runs (before.trans path)) moved
  exact ⟨new, served, related⟩

theorem serving_linearized (run : Run (ServingMove may) (.initial _ _ s) events st) :
    ∃ history, Run (ServiceStep may) s history st.world ∧ Linearized history events st := by
  obtain ⟨history, served, linearized⟩ := (linearized_initial s).runs .refl run
  exact ⟨history, served, linearized⟩

/-- However the readLoops, their callbacks and the other goroutines interleave,
the daemon's state and what every client sees are those of a service that
executes one whole DispatchSysCall at a time, if handlers act in one step. What
has been executed at some point of the run stays, in its order, before everything
executed later. -/
theorem syscalls_linearizable (before : Run (ServingMove may) (.initial _ _ s) events st)
    (after : Run (ServingMove may) st more next) :
    ∃ history new, Run (ServiceStep may) s history st.world ∧
      Run (ServiceStep may) st.world new next.world ∧ Explains history events st ∧
      Explains (history ++ new) (events ++ more) next := by
  obtain ⟨history, first, past⟩ := serving_linearized before
  obtain ⟨new, second, now⟩ := past.runs before after
  exact ⟨history, new, first, second, past.explains (serving_runs before),
    now.explains (serving_runs (before.trans after))⟩

end Explained

def echo : SyscallDescriptor Unit where
  opcode := 7
  name := "echo"
  handler _ payload world := ((payload, 0), world)

/-- One client, one request and its answer. -/
theorem syscalls_linearizable_echo : ∃ (history : List (ServiceEvent Unit)) (d : Dispatcher Unit),
    Run (ServiceStep fun _ _ => True) (d, ()) history (d, ()) ∧
      (exchangesOf 1 history).map Prod.fst = [(7, [9])] ∧
      packetFraming.stream ((exchangesOf 1 history).map Prod.snd) = [0, 7, 0, 0, 0, 1, 9] := by
  let d := (Dispatcher.new.registerSysCall 7 echo).2
  have executed : d.dispatchSysCall 1 7 [9] () = (⟨0, 7, [9], 1⟩, ()) := rfl
  obtain ⟨events, sess, run, own, idle, arrived, written⟩ :
    ∃ events sess, Run (ServingMove fun _ _ => True) _ events _ ∧ _ :=
    exchange_possible executed (by decide) (by decide)
  obtain ⟨history, new, first, second, _, explains⟩ := syscalls_linearizable .refl run
  obtain ⟨requests, answers⟩ := explains.complete (rfl : (withClient _ sess).heap[0]? = some sess)
    idle
  rw [List.nil_append, arrived] at requests
  rw [own] at requests answers
  exact ⟨history ++ new, _, first.trans second, requests, answers.symm.trans written⟩

end GotaDaemon.ControlCenter
