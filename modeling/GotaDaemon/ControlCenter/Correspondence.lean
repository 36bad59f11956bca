import GotaDaemon.ControlCenter.Wiring
import GotaDaemon.Ipc.Departure
import GotaDaemon.Ipc.InboundStream
import GotaDaemon.Ipc.OutboundStream
import GotaDaemon.Ipc.Teardown

/-! Requests and responses of a wired manager: the packets accepted for a
session answer the first frames read on its connection, in their order. -/
namespace GotaDaemon.ControlCenter
open Go Transition Ipc
variable {W : Type}

def Label.lookedUp : Label W → Option (UInt16 × Option (SyscallDescriptor W))
  | .lookup opcode found => some (opcode, found)
  | _ => none

/-- DispatchSysCall is decided: no entry, or the handler has returned. -/
def Label.decides : Label W → Bool
  | .lookup _ none | .invoked .. => true
  | _ => false

/-- What the callbacks of one session have done. -/
def controlLabels (index : Nat) (events : List (WiredEvent W)) : List (Label W) :=
  events.filterMap fun
    | .control owner label => if owner = index then some label else none
    | _ => none

/-- The table lookups for the frames of one session, with what they found. -/
def lookupsOf (index : Nat) (events : List (WiredEvent W)) :
    List (UInt16 × Option (SyscallDescriptor W)) :=
  (controlLabels index events).filterMap Label.lookedUp

/-- How DispatchSysCall has ended for the frames of one session: the lookups
without an entry, and the handler invocations with what they returned. -/
def dispatchesOf (index : Nat) (events : List (WiredEvent W)) : List (Label W) :=
  (controlLabels index events).filter Label.decides

/-- A request, and the entry that its lookup finds with what the handler returns. -/
structure Exchange (W : Type) where
  request : UInt16 × List UInt8
  served : Option (SyscallDescriptor W × (List UInt8 × UInt16))

namespace Exchange

def lookup (ex : Exchange W) : UInt16 × Option (SyscallDescriptor W) :=
  (ex.request.1, ex.served.map Prod.fst)

/-- The end of the DispatchSysCall that the session's callback makes. -/
def dispatch (did : DID) (ex : Exchange W) : Label W :=
  match ex.served with
  | none => .lookup ex.request.1 none
  | some (descriptor, result) => .invoked did ex.request.1 ex.request.2 descriptor result

def answer (ex : Exchange W) : OutboundPacket :=
  match ex.served with
  | none => ⟨ex.request.1, errUnknownOpcode, []⟩
  | some (_, resPayload, statusCode) => ⟨ex.request.1, statusCode, resPayload⟩

end Exchange

/-- What a readLoop has begun: a request read and not looked up or not
answered, an answer that SendToLocal has not decided on. -/
structure Unfinished (W : Type) where
  requests : List (UInt16 × List UInt8) := []
  lookups : List (UInt16 × Option (SyscallDescriptor W)) := []
  answers : List OutboundPacket := []

def unfinished : ReadLoop (Activation W) → Unfinished W
  | .frame opcode payload | .control (.dispatch _ opcode payload) =>
    { requests := [(opcode, payload)] }
  | .control (.handler _ opcode payload descriptor) =>
    { requests := [(opcode, payload)], lookups := [(opcode, some descriptor)] }
  | .control (.reply _ response) => { answers := [response.packet] }
  | .sending (.lookup _ pkt) _ | .sending (.enqueue _ _ pkt) _ => { answers := [pkt] }
  | _ => {}

/-- No packet will be accepted for the session any more. -/
def Deaf (st : WiredState W) (index : Nat) (sess : SessionState (Activation W)) : Prop :=
  sess.isClosed = true ∨ (index ∉ st.sessions.values ∧
    ∀ did target pkt resume, sess.reader ≠ .sending (.enqueue did target pkt) resume)

/-- The exchanges so far: each request read, looked up, dispatched and answered
in its turn. A packet is missing from those accepted only if none comes after it. -/
inductive Corresponds (events : List (WiredEvent W)) (st : WiredState W) (index : Nat)
    (sess : SessionState (Activation W)) : Prop where
  | intro (exchanges : List (Exchange W)) (sent : List OutboundPacket) (rest : Unfinished W)
      (requests : framesRead (sessionEvents index events) =
        exchanges.map (·.request) ++ rest.requests)
      (lookups : lookupsOf index events = exchanges.map (·.lookup) ++ rest.lookups)
      (dispatches : dispatchesOf index events = exchanges.map (·.dispatch sess.did))
      (answers : exchanges.map (·.answer) = sent ++ rest.answers)
      (pending : sess.reader.stopped = false → rest = unfinished sess.reader)
      (accepted : acceptedPackets (sessionEvents index events) = sent ∨
        (acceptedPackets (sessionEvents index events) <+: sent ∧ Deaf st index sess))

variable {st next : WiredState W} {events more : List (WiredEvent W)} {index : Nat}
  {sess later : SessionState (Activation W)}

@[simp] theorem lookupsOf_append :
    lookupsOf index (events ++ more) = lookupsOf index events ++ lookupsOf index more := by
  simp only [lookupsOf, controlLabels, List.filterMap_append]

@[simp] theorem dispatchesOf_append :
    dispatchesOf index (events ++ more) = dispatchesOf index events ++ dispatchesOf index more := by
  simp only [dispatchesOf, controlLabels, List.filterMap_append, List.filter_append]

@[simp] theorem controlLabels_map (own : List SessionEvent) :
    controlLabels (W := W) index (own.map (.session index)) = [] := by
  simp [controlLabels]

theorem lookupsOf_control (label : Label W) :
    lookupsOf index [.control index label] = label.lookedUp.toList := by
  simp only [lookupsOf, controlLabels, List.filterMap_cons, List.filterMap_nil, if_true]
  cases label.lookedUp <;> rfl

theorem dispatchesOf_control (label : Label W) :
    dispatchesOf index [.control index label] = if label.decides then [label] else [] := by
  simp only [dispatchesOf, controlLabels, List.filterMap_cons, List.filterMap_nil, if_true,
    List.filter_singleton, Bool.cond_eq_ite]

/-- Events that tell nothing of the session's exchanges. -/
structure Silent (index : Nat) (more : List (WiredEvent W)) : Prop where
  requests : framesRead (sessionEvents index more) = []
  lookups : lookupsOf index more = []
  dispatches : dispatchesOf index more = []

theorem Silent.of_quiet (quiet : ∀ event ∈ more, event.concerns index = false) :
    Silent index more ∧ acceptedPackets (sessionEvents index more) = [] := by
  have labels : controlLabels index more = [] := by
    apply List.filterMap_eq_nil_iff.mpr
    intro event member
    have apart := quiet event member
    cases event with
    | control owner label =>
      have other : owner ≠ index := by simpa [Event.concerns] using apart
      exact if_neg other
    | _ => rfl
  have unsent : acceptedPackets (sessionEvents index more) = [] := by
    apply List.filterMap_eq_nil_iff.mpr
    intro event member
    have apart := quiet _ (mem_sessionEvents.mp member)
    cases event with
    | accepted => simp [Event.concerns] at apart
    | _ => rfl
  refine ⟨⟨quiet_frames quiet, ?_, ?_⟩, unsent⟩
  · rw [lookupsOf, labels, List.filterMap_nil]
  · rw [dispatchesOf, labels, List.filter_nil]

theorem Silent.map (own : List SessionEvent) (requests : framesRead own = []) :
    Silent (W := W) index (own.map (.session index)) :=
  ⟨by simpa [sessionEvents_map] using requests, by simp [lookupsOf], by simp [dispatchesOf]⟩

theorem Silent.session {event : SessionEvent} (unread : event.request = none) :
    Silent (W := W) index [.session index event] :=
  Silent.map [event] (by simp [framesRead, unread])

/-- A step that neither begins nor ends anything. -/
theorem Corresponds.frame (corresponds : Corresponds events st index sess)
    (silent : Silent index more) (unsent : acceptedPackets (sessionEvents index more) = [])
    (same : later.did = sess.did)
    (point : later.reader.stopped = false → sess.reader.stopped = false ∧ unfinished later.reader =
      unfinished sess.reader)
    (deaf : Deaf st index sess → Deaf next index later) :
    Corresponds (events ++ more) next index later := by
  obtain ⟨exchanges, sent, rest, requests, lookups, dispatches, answers, pending, accepted⟩ :=
    corresponds
  refine ⟨exchanges, sent, rest, ?_, ?_, ?_, answers, fun running => ?_, ?_⟩
  · simpa [silent.requests] using requests
  · simpa [silent.lookups] using lookups
  · simpa [silent.dispatches, same] using dispatches
  · rw [(point running).2]
    exact pending (point running).1
  · simp only [sessionEvents_append, acceptedPackets_append, unsent, List.append_nil]
    exact accepted.imp_right (And.imp_right deaf)

/-- A step that may begin something and ends nothing. -/
theorem Corresponds.proceed (corresponds : Corresponds events st index sess)
    (running : sess.reader.stopped = false)
    (begins : unfinished later.reader = { unfinished sess.reader with
      requests := (unfinished sess.reader).requests ++ framesRead (sessionEvents index more)
      lookups := (unfinished sess.reader).lookups ++ lookupsOf index more })
    (undecided : dispatchesOf index more = [])
    (unsent : acceptedPackets (sessionEvents index more) = []) (same : later.did = sess.did)
    (deaf : Deaf st index sess → Deaf next index later) :
    Corresponds (events ++ more) next index later := by
  obtain ⟨exchanges, sent, rest, requests, lookups, dispatches, answers, pending, accepted⟩ :=
    corresponds
  obtain rfl := pending running
  refine ⟨exchanges, sent, unfinished later.reader, ?_, ?_, ?_, ?_, fun _ => rfl, ?_⟩
  · simp [begins, requests]
  · simp [begins, lookups]
  · simpa [undecided, same] using dispatches
  · simpa [begins] using answers
  · simp only [sessionEvents_append, acceptedPackets_append, unsent, List.append_nil]
    exact accepted.imp_right (And.imp_right deaf)

/-- A request gets its answer, which SendToLocal is now to be called with. -/
theorem Corresponds.answer (ex : Exchange W)
    {looked : List (UInt16 × Option (SyscallDescriptor W))}
    (corresponds : Corresponds events st index sess) (running : sess.reader.stopped = false)
    (point : unfinished sess.reader = { requests := [ex.request], lookups := looked })
    (unread : sessionEvents index more = [])
    (finds : looked ++ lookupsOf index more = [ex.lookup])
    (decided : dispatchesOf index more = [ex.dispatch sess.did]) (same : later.did = sess.did)
    (begun : unfinished later.reader = { answers := [ex.answer] })
    (deaf : Deaf st index sess → Deaf next index later) :
    Corresponds (events ++ more) next index later := by
  obtain ⟨exchanges, sent, rest, requests, lookups, dispatches, answers, pending, accepted⟩ :=
    corresponds
  obtain rfl := (pending running).trans point
  rw [List.append_nil] at answers
  refine ⟨exchanges ++ [ex], sent, { answers := [ex.answer] }, ?_, ?_, ?_, ?_,
    fun _ => begun.symm, ?_⟩
  · simpa [unread] using requests
  · simp [lookups, finds]
  · simp [dispatches, decided, same]
  · simp [answers]
  · simp only [sessionEvents_append, unread, List.append_nil]
    exact accepted.imp_right (And.imp_right deaf)

theorem accepted_initial {accepted sent : List OutboundPacket} {shut : Prop}
    (decided : accepted = sent ∨ accepted <+: sent ∧ shut) : accepted <+: sent := by
  rcases decided with rfl | ⟨part, _⟩
  · exact List.prefix_refl _
  · exact part

/-- SendToLocal decides on an answer. -/
theorem Corresponds.sent {pkt : OutboundPacket} (corresponds : Corresponds events st index sess)
    (running : sess.reader.stopped = false) (point : unfinished sess.reader = { answers := [pkt] })
    (silent : Silent index more) (same : later.did = sess.did)
    (ended : unfinished later.reader = {})
    (decided : (acceptedPackets (sessionEvents index more) = [pkt] ∧ ¬ Deaf st index sess) ∨
      (acceptedPackets (sessionEvents index more) = [] ∧ Deaf next index later)) :
    Corresponds (events ++ more) next index later := by
  obtain ⟨exchanges, sent, rest, requests, lookups, dispatches, answers, pending, accepted⟩ :=
    corresponds
  obtain rfl := (pending running).trans point
  refine ⟨exchanges, sent ++ [pkt], {}, ?_, ?_, ?_, ?_, fun _ => ended.symm, ?_⟩
  · simpa [silent.requests] using requests
  · simpa [silent.lookups] using lookups
  · simpa [silent.dispatches, same] using dispatches
  · simpa using answers
  · rw [sessionEvents_append, acceptedPackets_append]
    rcases decided with ⟨taken, hearing⟩ | ⟨refused, deaf⟩
    · rcases accepted with all | ⟨_, deaf⟩
      · exact .inl (by rw [all, taken])
      · exact absurd deaf hearing
    · rw [refused, List.append_nil]
      exact .inr ⟨(accepted_initial accepted).trans (List.prefix_append _ _), deaf⟩

theorem Deaf.mono (deaf : Deaf st index sess)
    (closed : sess.isClosed = true → later.isClosed = true)
    (gone : index ∉ st.sessions.values → index ∉ next.sessions.values)
    (waiting : ∀ did target pkt resume, later.reader = .sending (.enqueue did target pkt) resume →
      sess.reader = .sending (.enqueue did target pkt) resume) : Deaf next index later := by
  rcases deaf with shut | ⟨unmapped, moving⟩
  · exact .inl (closed shut)
  · exact .inr ⟨gone unmapped, fun did target pkt resume at_ =>
      moving _ _ _ _ (waiting did target pkt resume at_)⟩

section Moves
variable (corresponds : Corresponds events st index sess)
  (gone : index ∉ st.sessions.values → index ∉ next.sessions.values)
include corresponds gone

theorem read_corresponds {own : List SessionEvent}
    (moved : ReaderStep cancelled (some onControl) sess own later) :
    Corresponds (events ++ own.map (.session index)) next index later := by
  have shift : ∀ {point : ReadLoop (Activation W)}, point.inCallback = false →
      Deaf st index sess → Deaf next index { sess with reader := point } := by
    intro point outside deaf
    refine deaf.mono id gone ?_
    rintro did target pkt resume rfl
    simp [ReadLoop.inCallback] at outside
  cases moved with
  | cancelled | headerFailed | bodyFailed =>
    refine corresponds.frame (Silent.map [] rfl) rfl rfl (fun running => ?_) (shift rfl)
    simp [ReadLoop.stopped] at running
  | proceed at_ | readHeader at_ | readBody at_ =>
    refine corresponds.proceed (by rw [at_]; rfl) ?_ ?_ ?_ rfl (shift rfl)
    · simp [at_, unfinished, sessionEvents, Event.at, framesRead, SessionEvent.request, lookupsOf,
        controlLabels]
    · simp [dispatchesOf, controlLabels]
    · simp [sessionEvents, Event.at, acceptedPackets, SessionEvent.packet]
  | call at_ installed =>
    cases installed
    refine corresponds.proceed (by rw [at_]; rfl) ?_ rfl rfl rfl
      (fun deaf => deaf.mono id gone (by rintro _ _ _ _ ⟨⟩))
    rw [at_]
    rfl
  | ignore _ absent => contradiction

theorem control_corresponds {activation : Activation W} {label : Label W}
    {world after : Dispatcher W × W} {act : Act (Activation W)}
    (running : sess.reader = .control activation) (served : activation.Serves sess.did)
    (moved : (wired W).step world activation label after act) :
    Corresponds (events ++ [.control index label]) next index
      { sess with reader := act.reader } := by
  have result : activation.move world.1 world.2 = (label, after, act) := moved
  have begun : sess.reader.stopped = false := by
    rw [running]
    rfl
  -- the callback is not yet at the queue of a session
  have shift : Deaf st index sess → Deaf next index { sess with reader := act.reader } :=
    fun deaf => deaf.mono id gone (by cases act <;> rintro _ _ _ _ ⟨⟩)
  cases activation with
  | dispatch did opcode payload =>
    obtain rfl : did = sess.did := served
    simp only [Activation.move] at result
    split at result <;> cases result
    · refine corresponds.answer ⟨(opcode, payload), none⟩ begun (by rw [running]; rfl) rfl
        ?_ ?_ rfl rfl shift
      · rw [lookupsOf_control]
        rfl
      · rw [dispatchesOf_control]
        rfl
    · refine corresponds.proceed begun ?_ ?_ rfl rfl shift
      · rw [running, lookupsOf_control]
        rfl
      · rw [dispatchesOf_control]
        rfl
  | handler did opcode payload descriptor =>
    obtain rfl : did = sess.did := served
    cases result
    let result := (descriptor.handler sess.did payload world.2).1
    refine corresponds.answer ⟨(opcode, payload), some (descriptor, result)⟩ begun
      (by rw [running]; rfl) rfl ?_ ?_ rfl rfl shift
    · rw [lookupsOf_control]
      rfl
    · rw [dispatchesOf_control]
      rfl
  | reply | done =>
    cases result
    refine corresponds.proceed begun ?_ ?_ rfl rfl shift
    · rw [running, lookupsOf_control]
      rfl
    · rw [dispatchesOf_control]
      rfl

end Moves

/-- Below 2^32 sessions a DID leads to its own session. -/
theorem owns_unique {target : Nat} (numbered : Numbered st) (few : st.heap.length < 2 ^ 32)
    (found : st.heap[index]? = some sess) (owns : st.Owns target sess.did) : target = index := by
  have first := numbered.owns owns
  have second := numbered.owns ⟨sess, found, rfl⟩
  exact didOf_injective (by omega) (by omega) (first.2.symm.trans second.2)

theorem send_corresponds {call : Send} {resume : Except SendError Unit → Activation W}
    {result : SendNext} {sent : WiredState W} {middle : SessionState (Activation W)}
    (corresponds : Corresponds events st index sess)
    (gone : index ∉ st.sessions.values → index ∉ next.sessions.values) (addressed : Addressed st)
    (numbered : Numbered st) (few : st.heap.length < 2 ^ 32) (found : st.heap[index]? = some sess)
    (running : sess.reader = .sending call resume) (served : Serves sess.did (.sending call resume))
    (step : SendStep st call more sent result) (reached : sent.heap[index]? = some middle) :
    Corresponds (events ++ more) next index { middle with reader := result.reader resume } := by
  obtain ⟨same, returns⟩ := served
  have begun : sess.reader.stopped = false := by
    rw [running]
    rfl
  have ended : ∀ {result}, unfinished (.control (resume result)) = {} :=
    fun {result} => by rw [returns result]; rfl
  have own : call.Addressed st.Owns := by
    have held := addressed.readers sess (List.mem_of_getElem? found)
    rwa [running] at held
  cases step with
  | found entry =>
    cases Option.some.inj (found.symm.trans reached)
    obtain rfl := same
    obtain rfl := owns_unique numbered few found (addressed.entries entry)
    refine corresponds.proceed begun (by rw [running]; rfl) rfl rfl rfl (fun deaf => ?_)
    rcases deaf with shut | ⟨unmapped, _⟩
    · exact .inl shut
    · exact absurd (Map.mem_values_of_lookup entry) unmapped
  | missing absent =>
    cases Option.some.inj (found.symm.trans reached)
    obtain rfl := same
    refine corresponds.sent begun (by rw [running]; rfl) ⟨rfl, rfl, rfl⟩ rfl ended
      (.inr ⟨rfl, .inr ⟨gone fun mapped => ?_, by rintro _ _ _ _ ⟨⟩⟩⟩)
    obtain ⟨did, entry⟩ := Map.exists_lookup_of_mem mapped
    obtain ⟨record, held, rfl⟩ := addressed.entries entry
    cases Option.some.inj (held.symm.trans found)
    simp [absent] at entry
  | accepted held offered =>
    obtain rfl := same
    obtain rfl := owns_unique numbered few found own
    rcases set_cases held found reached with ⟨_, rfl, rfl⟩ | ⟨other, _⟩
    · obtain ⟨isOpen, outbound, _, rfl⟩ := offer_ok offered
      refine corresponds.sent begun (by rw [running]; rfl) (Silent.session rfl) rfl ended
        (.inl ⟨?_, ?_⟩)
      · simp [sessionEvents, Event.at, acceptedPackets, SessionEvent.packet]
      · rintro (shut | ⟨_, moving⟩)
        · simp [isOpen] at shut
        · exact moving _ _ _ _ running
    · exact absurd rfl other
  | closed held offered =>
    obtain rfl := same
    obtain rfl := owns_unique numbered few found own
    cases Option.some.inj (found.symm.trans reached)
    cases Option.some.inj (found.symm.trans held)
    refine corresponds.sent begun (by rw [running]; rfl) ⟨rfl, rfl, rfl⟩ rfl ended
      (.inr ⟨rfl, .inl (offer_ok offered).1⟩)
  | blocked held offered =>
    obtain rfl := same
    obtain rfl := owns_unique numbered few found own
    rcases set_cases held found reached with ⟨_, rfl, rfl⟩ | ⟨other, _⟩
    · obtain ⟨_, _, _, rfl⟩ := offer_ok offered
      refine corresponds.sent begun (by rw [running]; rfl) (Silent.session rfl) rfl rfl
        (.inr ⟨?_, .inl rfl⟩)
      simp [sessionEvents, Event.at, acceptedPackets, SessionEvent.packet]
    · exact absurd rfl other
  | panicked =>
    cases Option.some.inj (found.symm.trans reached)
    refine corresponds.proceed begun (by rw [running]; rfl) rfl rfl rfl
      (fun deaf => deaf.mono id gone ?_)
    rintro did target pkt resume ⟨⟩
    exact running
  | drop =>
    cases Option.some.inj (found.symm.trans reached)
    refine corresponds.proceed begun ?_ rfl rfl rfl
      (fun deaf => deaf.mono id gone (by rintro _ _ _ _ ⟨⟩))
    simp only [SendNext.reader, returns, running]
    rfl

theorem Corresponds.step (corresponds : Corresponds events st index sess) (wired : Wired st)
    (addressed : Addressed st) (numbered : Numbered st) (few : st.heap.length < 2 ^ 32)
    (step : Step (ControlCenter.wired W) st more next) (found : st.heap[index]? = some sess)
    (present : next.heap[index]? = some later) :
    Corresponds (events ++ more) next index later := by
  have bound := (List.getElem?_eq_some_iff.mp found).1
  have gone : index ∉ st.sessions.values → index ∉ next.sessions.values := fun absent mapped =>
    (step_values step mapped).elim absent (Nat.ne_of_lt bound)
  obtain ⟨record, arrived, path⟩ := step_evolves step found
  cases Option.some.inj (arrived.symm.trans present)
  have closed : sess.isClosed = true → later.isClosed = true :=
    fun shut => (session_stays_closed path shut).1
  have same := session_run_did path
  cases step_reader step found present with
  | aside unmoved quiet =>
    obtain ⟨silent, unsent⟩ := Silent.of_quiet quiet
    refine corresponds.frame silent unsent same (fun running => ?_)
      (fun deaf => deaf.mono closed gone ?_)
    · rw [unmoved] at running ⊢
      exact ⟨running, rfl⟩
    · simp [unmoved]
  | left gone_ =>
    refine corresponds.frame ⟨rfl, rfl, rfl⟩ rfl same (fun running => ?_)
      (fun deaf => deaf.mono closed gone ?_)
    · simp [gone_, ReadLoop.stopped] at running
    · simp [gone_]
  | read moved =>
    rw [wired.installed] at moved
    exact read_corresponds corresponds gone moved
  | control running moved made =>
    subst made
    have served := wired.serving found
    rw [running] at served
    exact control_corresponds corresponds gone running served moved
  | controlSend running sent reached made =>
    subst made
    have served := wired.serving found
    rw [running] at served
    exact send_corresponds corresponds gone addressed numbered few found running served sent reached
  | accepted sent =>
    -- another session's readLoop would have to know this session under its own DID
    obtain ⟨owner, other, resume, apart, held, sending⟩ := wired.sentByOther sent
    have own := addressed.readers other (List.mem_of_getElem? held)
    rw [sending] at own
    exact absurd (owns_unique numbered few held own).symm apart

theorem Corresponds.responses (corresponds : Corresponds events st index sess) :
    ∃ exchanges : List (Exchange W),
      exchanges.map (·.request) <+: framesRead (sessionEvents index events) ∧
      exchanges.map (·.lookup) <+: lookupsOf index events ∧
      dispatchesOf index events = exchanges.map (·.dispatch sess.did) ∧
      acceptedPackets (sessionEvents index events) <+: exchanges.map (·.answer) := by
  obtain ⟨exchanges, sent, rest, requests, lookups, dispatches, answers, _, accepted⟩ :=
    corresponds
  refine ⟨exchanges, ?_, ?_, dispatches, ?_⟩
  · rw [requests]
    exact List.prefix_append _ _
  · rw [lookups]
    exact List.prefix_append _ _
  · rw [answers]
    exact (accepted_initial accepted).trans (List.prefix_append _ _)

/-- A handler is invoked for a frame of the session, with the session's DID. -/
theorem Corresponds.invoked {did : DID} {opcode : UInt16} {payload : List UInt8}
    {descriptor : SyscallDescriptor W} {result : List UInt8 × UInt16}
    (corresponds : Corresponds events st index sess)
    (member : .control index (.invoked did opcode payload descriptor result) ∈ events) :
    did = sess.did ∧ (opcode, payload) ∈ framesRead (sessionEvents index events) := by
  obtain ⟨exchanges, requests, _, dispatches, _⟩ := corresponds.responses
  have made : .invoked did opcode payload descriptor result ∈ dispatchesOf index events := by
    refine List.mem_filter.mpr ⟨List.mem_filterMap.mpr ⟨_, member, ?_⟩, rfl⟩
    exact if_pos rfl
  rw [dispatches] at made
  obtain ⟨⟨request, served⟩, among, same⟩ := List.mem_map.mp made
  cases served with
  | none => cases same
  | some served =>
    cases same
    exact ⟨rfl, requests.subset (List.mem_map_of_mem among)⟩

section Runs
variable {setup rest : List (WiredEvent W)} {start : WiredState W} {w : W}

theorem wired_runs (before : Runs (wired W) (.new, w) setup start)
    (after : Run (Move (wired W)) { start with onControl := some onControl } rest st) :
    Runs (wired W) (.new, w) (setup ++ [.setControlCallback (some onControl)] ++ rest) st :=
  (before.next ⟨(runs_no_panic before).1, .setControlCallback (some onControl)⟩).trans after

/-- Nothing has happened on a session that RegisterSession is just making. -/
theorem corresponds_new {did : DID} (run : Runs (wired W) (.new, w) events st)
    (absent : st.heap[index]? = none) (overwritten : Option Nat) :
    Corresponds (events ++ [.registered index did overwritten]) next index
      (.new (Activation W) did {}) := by
  have unheard := (runs_session run index).1 absent
  have unlabelled : controlLabels index events = [] := by
    apply List.filterMap_eq_nil_iff.mpr
    intro event member
    cases event with
    | control owner label =>
      have bound := runs_control run member
      have beyond := List.getElem?_eq_none_iff.mp absent
      simp only [ite_eq_right_iff, reduceCtorEq, imp_false]
      omega
    | _ => rfl
  refine ⟨[], [], {}, ?_, ?_, ?_, rfl, fun _ => rfl, .inl ?_⟩
  · rw [sessionEvents_append, unheard]
    rfl
  · rw [lookupsOf_append, lookupsOf, unlabelled]
    rfl
  · rw [dispatchesOf_append, dispatchesOf, unlabelled]
    rfl
  · rw [sessionEvents_append, unheard]
    rfl

theorem runs_correspond (before : Runs (wired W) (.new, w) setup start) (empty : start.heap = [])
    (after : Run (Move (wired W)) { start with onControl := some onControl } rest st)
    (kept : ∀ callback, .setControlCallback callback ∉ rest)
    (unsent : ∀ did, .sendCalled did ∉ setup) (alone : ∀ did, .sendCalled did ∉ rest)
    (few : st.heap.length < 2 ^ 32) :
    Wired st ∧ ∀ {index sess}, st.heap[index]? = some sess →
      Corresponds (setup ++ [.setControlCallback (some onControl)] ++ rest) st index sess := by
  revert kept alone few
  apply after.invariant_reached (P := fun (rest : List (WiredEvent W)) st =>
    (∀ callback, .setControlCallback callback ∉ rest) → (∀ did, .sendCalled did ∉ rest) →
    st.heap.length < 2 ^ 32 → Wired st ∧ ∀ {index : Nat} {sess : SessionState (Activation W)},
      st.heap[index]? = some sess →
      Corresponds (setup ++ [Event.setControlCallback (some onControl)] ++ rest) st index sess)
  · intro _ _ _
    refine ⟨wired_start before unsent empty, fun found => ?_⟩
    simp [empty] at found
  · intro rest st more next after ih step kept alone few
    simp only [List.mem_append, not_or, forall_and] at kept alone
    have run := wired_runs before after
    have fewer := Nat.lt_of_le_of_lt (step_grows step.2) few
    obtain ⟨wired, correspond⟩ := ih kept.1 alone.1 fewer
    refine ⟨wired.step step.2 kept.2 alone.2, fun {index later} present => ?_⟩
    rw [← List.append_assoc]
    rcases step_record step.2 present with ⟨sess, found, _⟩ | ⟨absent, did, overwritten, rfl, rfl⟩
    · exact (correspond found).step wired (runs_addressed run)
        (runs_numbered run) fewer step.2 found present
    · exact corresponds_new run absent overwritten

/-- The handler is invoked in a step of its own, on the state that it finds. -/
theorem runs_invoked {past later : List (WiredEvent W)} {did : DID} {opcode : UInt16}
    {payload : List UInt8} {descriptor : SyscallDescriptor W} {result : List UInt8 × UInt16}
    (run : Runs (wired W) (.new, w) events st)
    (split : events =
      past ++ .control index (.invoked did opcode payload descriptor result) :: later) :
    ∃ invoking invoked, Runs (wired W) (.new, w) past invoking ∧
      Move (wired W) invoking [.control index (.invoked did opcode payload descriptor result)]
        invoked ∧
      Run (Move (wired W)) invoked later st ∧
      descriptor.handler did payload invoking.world.2 = (result, invoked.world.2) := by
  obtain ⟨invoking, invoked, reached, step, goes⟩ := run.at_event (fun step member => by
    cases step_world step.2 with
    | same _ quiet => simpa [Event.outside] using quiet _ member
    | interfered => simp at member
    | control => rw [List.mem_singleton.mp member]) split
  refine ⟨invoking, invoked, reached, step, goes, ?_⟩
  cases step_world step.2 with
  | same _ quiet => simpa [Event.outside] using quiet _ List.mem_cons_self
  | control _ _ moved => exact move_invoked moved

/-- The packets accepted for a session answer the first frames of its connection
one by one: each has its frame's opcode and what the first registered handler,
invoked for this frame with the session's DID and the payload, returned, or
ErrUnknownOpcode when the lookup came before any registration. -/
theorem responses_correspond (before : Runs (wired W) (.new, w) setup start)
    (fresh : registrations setup = 0)
    (after : Run (Move (wired W)) { start with onControl := some onControl } rest st)
    (kept : ∀ callback, .setControlCallback callback ∉ rest)
    (alone : ∀ did, .sendCalled did ∉ setup ++ rest) (few : registrations rest < 2 ^ 32) :
    let events : List (WiredEvent W) := setup ++ [.setControlCallback (some onControl)] ++ rest
    (∀ (index : Nat) (sess : SessionState (Activation W)), st.heap[index]? = some sess →
      let own := sessionEvents index events
      framesRead own <+: (requestFraming.readAll (arrivedBytes own)).1 ∧
      ∃ exchanges : List (Exchange W),
        exchanges.map (·.request) <+: framesRead own ∧
        exchanges.map (·.lookup) <+: lookupsOf index events ∧
        dispatchesOf index events = exchanges.map (·.dispatch sess.did) ∧
        acceptedPackets own <+: exchanges.map (·.answer)) ∧
    (∀ past index opcode found later,
      events = past ++ .control index (.lookup opcode found) :: later →
      found = firstRegistered opcode past) ∧
    ∀ past index did opcode payload descriptor result later,
      events = past ++ .control index (.invoked did opcode payload descriptor result) :: later →
      (∃ sess : SessionState (Activation W), st.heap[index]? = some sess ∧ did = sess.did ∧
        (opcode, payload) ∈ framesRead (sessionEvents index events)) ∧
      ∃ invoking invoked, Runs (wired W) (.new, w) past invoking ∧
        Move (wired W) invoking [.control index (.invoked did opcode payload descriptor result)]
          invoked ∧
        Run (Move (wired W)) invoked later st ∧
        descriptor.handler did payload invoking.world.2 = (result, invoked.world.2) := by
  intro events
  have run := wired_runs before after
  have size := runs_registrations run
  have empty : start.heap = [] := by
    rw [runs_registrations before] at fresh
    exact List.length_eq_zero_iff.mp fresh
  have total : registrations (setup ++ [.setControlCallback (some onControl)] ++ rest) =
      registrations rest := by
    simp only [registrations, List.countP_append] at fresh ⊢
    simp [fresh, Event.isRegistration]
  simp only [List.mem_append, not_or, forall_and] at alone
  obtain ⟨_, correspond⟩ := runs_correspond before empty after kept alone.1 alone.2 (by omega)
  refine ⟨fun index sess found => ?_, fun past index opcode found later same =>
    (runs_tabled run).lookups same, ?_⟩
  · exact ⟨(runs_receiving run found).frames_initial, (correspond found).responses⟩
  · intro past index did opcode payload descriptor result later split
    have member : .control index (.invoked did opcode payload descriptor result) ∈ events := by
      rw [split]
      exact List.mem_append_right _ List.mem_cons_self
    have found := List.getElem?_eq_getElem (runs_control run member)
    exact ⟨⟨_, found, (correspond found).invoked member⟩, runs_invoked run split⟩

end Runs

/-- A handler that counts its calls. -/
def counting : SyscallDescriptor Nat where
  opcode := 7
  name := "counting"
  handler _ payload count := ((payload, .ofNat count), count + 1)

/-- A client sends one request to a registered handler. -/
theorem responses_correspond_counting : ∃ (events : List (WiredEvent Nat)) (st : WiredState Nat),
    Runs (wired Nat) (.new, 5) events st ∧ st.world.2 = 6 ∧
    framesRead (sessionEvents 0 events) = [(7, [9])] ∧
    dispatchesOf 0 events = [.invoked 1 7 [9] counting ([9], 5)] ∧
    acceptedPackets (sessionEvents 0 events) = [⟨7, 5, [9]⟩] ∧
    ∃ exchanges : List (Exchange Nat),
      exchanges.map (·.request) <+: framesRead (sessionEvents 0 events) ∧
      exchanges.map (·.lookup) <+: lookupsOf 0 events ∧
      dispatchesOf 0 events = exchanges.map (·.dispatch 1) ∧
      acceptedPackets (sessionEvents 0 events) <+: exchanges.map (·.answer) := by
  have start : Runs (wired Nat) (.new, 5) [] (.initial _ _ (.new, 5)) := .refl
  have installed : Run (Move (wired Nat))
      { State.initial _ (Activation Nat) (Dispatcher.new, 5) with onControl := some onControl }
        [] _ := .refl
  have table := installed.next ⟨rfl, .interfere (.registerSysCall 7 counting)⟩
  have registered := table.next ⟨rfl, .register⟩
  have arrived := registered.next ⟨rfl, .arrive [0, 7, 0, 1, 9] (rfl : (State.heap _)[0]? = some _)⟩
  have reading := arrived.next ⟨rfl, .reader (rfl : (State.heap _)[0]? = some _) (.proceed rfl rfl)⟩
  have header :=
    reading.next ⟨rfl, .reader (rfl : (State.heap _)[0]? = some _) (.readHeader rfl rfl)⟩
  have body := header.next ⟨rfl, .reader (rfl : (State.heap _)[0]? = some _) (.readBody rfl rfl)⟩
  have called := body.next ⟨rfl, .reader (rfl : (State.heap _)[0]? = some _) (.call rfl rfl)⟩
  have lookedUp := called.next ⟨rfl, .control (rfl : (State.heap _)[0]? = some _) rfl
    (rfl : Activation.move _ _ _ = (_, _, _))⟩
  have handled := lookedUp.next ⟨rfl, .control (rfl : (State.heap _)[0]? = some _) rfl
    (rfl : Activation.move _ _ _ = (_, _, _))⟩
  have replied := handled.next ⟨rfl, .control (rfl : (State.heap _)[0]? = some _) rfl
    (rfl : Activation.move _ _ _ = (_, _, _))⟩
  have found :=
    replied.next ⟨rfl, .controlSend (rfl : (State.heap _)[0]? = some _) rfl (.found rfl) rfl⟩
  have accepted := found.next ⟨rfl, .controlSend (rfl : (State.heap _)[0]? = some _) rfl
    (.accepted (rfl : (State.heap _)[0]? = some _) rfl) rfl⟩
  have responses :=
    (responses_correspond start rfl accepted (by simp) (by simp) (by decide)).1 0 _ rfl
  exact ⟨_, _, wired_runs start accepted, rfl, rfl, rfl, rfl, responses.2⟩

end GotaDaemon.ControlCenter
