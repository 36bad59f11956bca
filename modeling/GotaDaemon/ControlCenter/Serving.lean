import GotaDaemon.ControlCenter.Wiring
import GotaDaemon.Ipc.Draining
import GotaDaemon.Ipc.OutboundStream

/-! Managers that serve clients through the dispatcher: what they assume of the
code around them, and that they can serve a client whatever it asks for. -/
namespace GotaDaemon.ControlCenter
open Go Transition Ipc

/-- A move of a manager that serves: whenever there is a session, the callback
is the dispatcher's, nobody else calls SendToLocal, the DIDs have not wrapped, and
what others do to the daemon's state is within `may`. -/
structure ServingMove {W : Type} (may : Dispatcher W × W → Dispatcher W × W → Prop)
    (st : WiredState W) (events : List (WiredEvent W)) (next : WiredState W) : Prop where
  move : Move (wired W) st events next
  installed : next.heap ≠ [] → next.onControl = some onControl
  alone : ∀ did, .sendCalled did ∉ events
  few : next.heap.length < 2 ^ 32
  calm : ∀ label, .interfered label ∈ events → may st.world next.world

variable {W : Type} {may : Dispatcher W × W → Dispatcher W × W → Prop} {st : WiredState W}
  {events more : List (WiredEvent W)} {sess later : SessionState (Activation W)} {did : DID}
  {s : Dispatcher W × W}

theorem serving_runs (run : Run (ServingMove may) (.initial _ _ s) events st) :
    Runs (ControlCenter.wired W) s events st :=
  run.mono (·.move)

/-- A manager that serves one client and does nothing else. -/
def withClient (s : Dispatcher W × W) (sess : SessionState (Activation W)) : WiredState W :=
  { State.initial (Dispatcher W × W) (Activation W) s with
    sessions := (∅ : Map DID Nat).insert 1 0
    nextDID := 1
    wg := 2
    onControl := some onControl
    heap := [sess] }

section Client
variable {s t : Dispatcher W × W} {own : List SessionEvent} {activation : Activation W}
  {act : Act (Activation W)} {label : Label W}

theorem client_step
    (step : Step (wired W) (withClient s sess) more (withClient t later))
    (alone : ∀ did, .sendCalled did ∉ more) (calm : ∀ label, .interfered label ∉ more) :
    ServingMove may (withClient s sess) more (withClient t later) where
  move := ⟨rfl, step⟩
  installed _ := rfl
  alone := alone
  few := by simp [withClient]
  calm label member := absurd member (calm label)

theorem client_reads (moved : ReaderStep false (some onControl) sess own later)
    (stays : deferredReader 0 later = []) :
    ServingMove may (withClient s sess) (own.map (.session 0)) (withClient s later) := by
  refine client_step ?_ (by simp) (by simp)
  have step : Step (wired W) (withClient s sess) _ _ :=
    .reader (rfl : (withClient s sess).heap[0]? = some sess) moved
  rwa [stays] at step

theorem client_writes (moved : WriterStep false sess own later)
    (stays : deferredWriter 0 later = []) :
    ServingMove may (withClient s sess) (own.map (.session 0)) (withClient s later) := by
  refine client_step ?_ (by simp) (by simp)
  have step : Step (wired W) (withClient s sess) _ _ :=
    .writer (rfl : (withClient s sess).heap[0]? = some sess) moved
  rwa [stays] at step

theorem client_calls (running : sess.reader = .control activation)
    (moved : activation.move s.1 s.2 = (label, t, act)) :
    ServingMove may (withClient s sess) [.control 0 label]
      (withClient t { sess with reader := act.reader }) := by
  refine client_step ?_ (by simp) (by simp)
  exact .control (rfl : (withClient s sess).heap[0]? = some sess) running moved

theorem readFull_append {bytes rest : List UInt8} {count : Nat} (size : bytes.length = count) :
    readFull count (bytes ++ rest) = some (bytes, rest) := by
  rw [readFull, if_pos (by simp [size]), List.take_left' size, List.drop_left' size]

/-- A frame that has arrived is read. -/
theorem client_frame {opcode : UInt16} {payload : List UInt8} (small : payload.length < 65536)
    (reading : sess.reader = .header)
    (arrived : sess.conn.inbound = requestFraming.encode (opcode, payload)) :
    Run (ServingMove may) (withClient s sess) [.session 0 (.frame opcode payload)]
      (withClient s { sess with conn.inbound := [], reader := .frame opcode payload }) := by
  have two := BigEndian.put_length 2
  have header : (BigEndian.put 2 opcode.toNat ++ BigEndian.put 2 payload.length).length = 4 := by
    simp [two]
  have size : (UInt16.ofNat payload.length).toNat = payload.length :=
    Nat.mod_eq_of_lt small
  have first : readFull 4 sess.conn.inbound =
      some (BigEndian.put 2 opcode.toNat ++ BigEndian.put 2 payload.length, payload) := by
    rw [arrived, requestFraming_encode, ← List.append_assoc]
    exact readFull_append header
  have head : Run (ServingMove may) (withClient s sess) [] _ :=
    .single (client_reads (.readHeader reading first) rfl)
  have whole : readFull (UInt16.ofNat payload.length).toNat payload = some (payload, []) := by
    rw [size]
    have alone := @readFull_append payload [] payload.length rfl
    rwa [List.append_nil] at alone
  rw [List.take_left' (two _), List.drop_left' (two _), BigEndian.get_put_uint16,
    BigEndian.get_put (by omega)] at head
  exact head.next (client_reads (.readBody rfl whole) rfl)

/-- The callback executes the request. -/
theorem client_dispatch {opcode : UInt16} {payload : List UInt8}
    (before : Run (ServingMove may) st events (withClient s sess))
    (running : sess.reader = .control (.dispatch did opcode payload)) :
    ∃ more, sessionEvents 0 more = [] ∧ Run (ServingMove may) st (events ++ more)
      (withClient (s.1, (s.1.dispatchSysCall did opcode payload s.2).2)
        { sess with
          reader := .control (.reply did (s.1.dispatchSysCall did opcode payload s.2).1) }) := by
  rcases move_dispatchSysCall s.1 did opcode payload s.2 with
    ⟨label, moved⟩ | ⟨label, invoked, activation, moved, handled⟩
  · exact ⟨_, rfl, before.next (client_calls running moved)⟩
  · have looked := (before.next (client_calls running moved)).next (client_calls rfl handled)
    rw [List.append_assoc] at looked
    exact ⟨_, rfl, looked⟩

theorem client_sends {call : Send} {resume : Except SendError Unit → Activation W}
    {result : SendNext} (running : sess.reader = .sending call resume)
    (sent : SendStep (withClient s sess) call more (withClient s later) result)
    (stays : result.spawned = []) (alone : ∀ did, .sendCalled did ∉ more)
    (calm : ∀ label, .interfered label ∉ more) :
    ServingMove may (withClient s sess) more
      (withClient s { later with reader := result.reader resume }) := by
  refine client_step ?_ alone calm
  have step : Step (wired W) (withClient s sess) _ _ := .controlSend
    (rfl : (withClient s sess).heap[0]? = some sess) running sent
    (rfl : (withClient s later).heap[0]? = some later)
  rwa [stays] at step

theorem client_queues {pkt : OutboundPacket} {resume : Except SendError Unit → Activation W}
    {outbound : Chan OutboundPacket} (running : sess.reader = .sending (.enqueue 1 0 pkt) resume)
    (isOpen : sess.isClosed = false)
    (room : sess.outbound.trySend pkt = .ok (some outbound)) :
    ServingMove may (withClient s sess) [.session 0 (.accepted pkt)]
      (withClient s { sess with outbound := outbound, reader := .control (resume (.ok ())) }) := by
  have offered : sess.offer pkt = .ok (.accepted, { sess with outbound := outbound }) := by
    simp [SessionState.offer, isOpen, room, bind, Except.bind, pure, Except.pure]
  exact client_sends running (.accepted (rfl : (withClient s sess).heap[0]? = some sess) offered)
    rfl (by simp) (by simp)

/-- The answer is queued, and the loop waits for the next frame. -/
theorem client_answers {response : IpcResponse} {outbound : Chan OutboundPacket}
    (running : sess.reader = .control (.reply 1 response)) (isOpen : sess.isClosed = false)
    (room : sess.outbound.trySend response.packet = .ok (some outbound)) :
    Run (ServingMove may) (withClient s sess) [.control 0 .sendToLocal,
        .session 0 (.accepted response.packet), .control 0 .returned]
      (withClient s { sess with outbound := outbound, reader := .header }) := by
  have replied : Run (ServingMove may) (withClient s sess) [.control 0 .sendToLocal] _ :=
    .single (client_calls running rfl)
  have mapped : (withClient s sess).sessions.lookup 1 = some 0 := AList.lookup_insert _
  have found := replied.next (client_sends rfl (.found mapped) rfl (by simp) (by simp))
  have accepted := found.next (client_queues rfl isOpen room)
  have returned := accepted.next (client_calls rfl rfl)
  exact returned.next (client_reads (.proceed rfl rfl) rfl)

/-- The queued answer is written. -/
theorem client_written {pkt : OutboundPacket} {outbound : Chan OutboundPacket}
    (waiting : sess.writer = .select) (received : sess.outbound.recv = some (some pkt, outbound))
    (fits : pkt.data.length ≤ maxPacketSize) :
    Run (ServingMove may) (withClient s sess) []
      (withClient s { sess with
        outbound := outbound, conn.written := sess.conn.written ++ packetFraming.encode pkt }) := by
  have got : Run (ServingMove may) (withClient s sess) [] _ :=
    .single (client_writes (.receive waiting received) rfl)
  have begun := got.next (client_writes (.start rfl fits) rfl)
  have headed := begun.next (client_writes (.writeHeader
    (congrArg (WriteLoop.header pkt) (List.append_nil pkt.header).symm)) rfl)
  rw [packetFraming_encode, ← List.append_assoc]
  rcases Nat.eq_zero_or_pos pkt.data.length with empty | full
  · have done := headed.next (client_writes (.emptyDone rfl empty) rfl)
    rw [List.length_eq_zero_iff.mp empty, List.append_nil]
    exact waiting ▸ done
  · have body := headed.next (client_writes (.headerDone rfl full) rfl)
    have whole := body.next (client_writes
      (.writeBody (congrArg WriteLoop.body (List.append_nil pkt.data).symm)) rfl)
    exact waiting ▸ whole.next (client_writes (.bodyDone rfl) rfl)

/-- A first client comes and sends a frame, which the callback is called with. -/
theorem client_arrives (s : Dispatcher W × W) (opcode : UInt16) {payload : List UInt8}
    (small : payload.length < 65536) :
    Run (ServingMove may) (.initial _ _ s) [.setControlCallback (some onControl),
        .registered 0 1 none, .session 0 (.arrived (requestFraming.encode (opcode, payload))),
        .session 0 (.frame opcode payload)]
      (withClient s { SessionState.new (Activation W) 1 {} with
        reader := .control (.dispatch 1 opcode payload) }) := by
  have start : Run (ServingMove may) (.initial _ (Activation W) s) [] _ := .refl
  have installed := start.next ⟨⟨rfl, .setControlCallback (some onControl)⟩, fun _ => rfl, by simp,
    by simp [State.initial], by simp⟩
  have registered : Run (ServingMove may) (.initial _ (Activation W) s)
      [.setControlCallback (some onControl), .registered 0 1 none]
      (withClient s (.new _ 1 {})) :=
    installed.next ⟨⟨rfl, .register⟩, fun _ => rfl, by simp, by simp [withClient], by simp⟩
  have arrived := registered.next (client_step (.arrive (requestFraming.encode (opcode, payload))
    (rfl : (State.heap _)[0]? = some _)) (by simp) (by simp))
  have reading := arrived.next (client_reads (.proceed rfl rfl) rfl)
  have read := reading.trans (client_frame small rfl rfl)
  exact read.next (client_reads (.call rfl rfl) rfl)

/-- A first client gets its first request answered, whatever it asks for. -/
theorem exchange_possible {d : Dispatcher W} {world after : W} {opcode : UInt16}
    {payload : List UInt8} {response : IpcResponse}
    (executed : d.dispatchSysCall 1 opcode payload world = (response, after))
    (small : payload.length < 65536) (fits : response.payload.length ≤ maxPacketSize) :
    ∃ events sess, Run (ServingMove may) (.initial _ _ (d, world)) events
        (withClient (d, after) sess) ∧
      sess.did = 1 ∧ Idle (withClient (d, after) sess) 0 sess ∧
      arrivedBytes (sessionEvents 0 events) = requestFraming.encode (opcode, payload) ∧
      sess.conn.written = packetFraming.encode response.packet := by
  have mapped : 0 ∈ Map.values ((∅ : Map DID Nat).insert 1 0) :=
    Map.mem_values_of_lookup (AList.lookup_insert _)
  have called : Run (ServingMove may) _ _ _ := client_arrives (d, world) opcode small
  obtain ⟨more, silent, replying⟩ := client_dispatch called rfl
  rw [executed] at replying
  have answered := replying.trans (client_answers rfl rfl rfl)
  have written := answered.trans (client_written rfl rfl fits)
  refine ⟨_, _, written, rfl, ⟨mapped, rfl, Nat.succ_pos 3, rfl, rfl⟩, ?_, rfl⟩
  simp only [sessionEvents_append, silent]
  simp [sessionEvents, Event.at, arrivedBytes, SessionEvent.bytes]

end Client

end GotaDaemon.ControlCenter
