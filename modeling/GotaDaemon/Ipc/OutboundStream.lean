import GotaDaemon.Ipc.Allocation
import Mathlib.Data.List.TakeWhile

/-! What a client reads. Whatever the senders, the teardown and the connection
do, the bytes written to a session's connection are the frames of the packets
SendToLocal accepted for it, in order, cut off at some point. -/
namespace GotaDaemon.Ipc
open Go Transition

/-- The frames of writePacket: six bytes of header with the length of the data
in the last two, then the data. -/
def packetFraming : Framing OutboundPacket UInt8 :=
  (Framing.lengthPrefixed 4).rename
    (fun pkt =>
      (BigEndian.put 2 pkt.opcode.toNat ++ BigEndian.put 2 pkt.statusCode.toNat, pkt.data))
    (fun frame =>
      ⟨.ofNat (BigEndian.get (frame.1.take 2)), .ofNat (BigEndian.get (frame.1.drop 2)), frame.2⟩)
    (by
      intro pkt
      rw [List.take_left' (BigEndian.put_length 2 _), List.drop_left' (BigEndian.put_length 2 _),
        BigEndian.get_put_uint16, BigEndian.get_put_uint16])
    (by
      rintro ⟨header, data⟩ ⟨four, _⟩
      dsimp only at four ⊢
      rw [BigEndian.put_get_uint16 (by simp [four]), BigEndian.put_get_uint16 (by simp [four]),
        List.take_append_drop])

theorem packetFraming_encode (pkt : OutboundPacket) :
    packetFraming.encode pkt = pkt.header ++ pkt.data := by
  simp only [packetFraming, Framing.rename, Framing.lengthPrefixed, OutboundPacket.header,
    List.append_assoc]

theorem packetFraming_valid (pkt : OutboundPacket) :
    packetFraming.Valid pkt ↔ pkt.data.length ≤ maxPacketSize := by
  simp only [packetFraming, Framing.rename, Framing.lengthPrefixed, List.length_append,
    BigEndian.put_length,
    true_and, maxPacketSize]
  omega

def SessionEvent.packet : SessionEvent → Option OutboundPacket
  | .accepted pkt => some pkt
  | _ => none

/-- The packets SendToLocal has accepted, in the order of the queue. -/
def acceptedPackets (own : List SessionEvent) : List OutboundPacket :=
  own.filterMap SessionEvent.packet

/-- The packets before the first one writePacket refuses. -/
def sendable (pkts : List OutboundPacket) : List OutboundPacket :=
  pkts.takeWhile fun pkt => pkt.data.length ≤ maxPacketSize

/-- The packet writeLoop has received and not begun to write. -/
def WriteLoop.held : WriteLoop → List OutboundPacket
  | .packet pkt => [pkt]
  | _ => []

/-- The bytes still to be written of the packet it has begun. -/
def WriteLoop.pending : WriteLoop → List UInt8
  | .header pkt rest => rest ++ pkt.data
  | .body rest => rest
  | _ => []

def WriteLoop.stopped : WriteLoop → Bool
  | .deferred | .exited => true
  | _ => false

variable {W K L : Type} {client : Client W K L} {world : W} {st next : State W K}
  {events : List (Event K L)} {index : Nat} {sess later : SessionState K}
  {own more : List SessionEvent} {pkts : List OutboundPacket}

@[simp] theorem acceptedPackets_append :
    acceptedPackets (own ++ more) = acceptedPackets own ++ acceptedPackets more := by
  simp only [acceptedPackets, List.filterMap_append]

theorem sendable_append (valid : ∀ pkt ∈ pkts, packetFraming.Valid pkt)
    (rest : List OutboundPacket) :
    sendable (pkts ++ rest) = pkts ++ sendable rest := by
  apply List.takeWhile_append_of_pos
  simpa only [packetFraming_valid, decide_eq_true_eq] using valid

theorem sendable_prefix (pkts rest : List OutboundPacket) :
    sendable pkts <+: sendable (pkts ++ rest) := by
  unfold sendable
  rw [List.takeWhile_append]
  split
  · rename_i whole
    rw [(List.takeWhile_prefix _).eq_of_length whole]
    exact List.prefix_append _ _
  · exact List.prefix_rfl

theorem sendable_valid : ∀ pkt ∈ sendable pkts, packetFraming.Valid pkt := by
  intro pkt member
  rw [packetFraming_valid]
  simpa using List.mem_takeWhile_imp member

/-- While writeLoop runs, the accepted packets are those it has begun to write,
the one in its hand and those in the queue. Once it has left the loop it
writes nothing more. -/
inductive Streaming (own : List SessionEvent) (sess : SessionState K) : Prop where
  | running (begun : List OutboundPacket)
      (order : acceptedPackets own = begun ++ sess.writer.held ++ sess.outbound.buffer)
      (valid : ∀ pkt ∈ begun, packetFraming.Valid pkt)
      (written : sess.conn.written ++ sess.writer.pending = packetFraming.stream begun)
  | stopped (left : sess.writer.stopped = true)
      (written : sess.conn.written <+: packetFraming.stream (sendable (acceptedPackets own)))

theorem Streaming.written_prefix (streaming : Streaming own sess) :
    sess.conn.written <+: packetFraming.stream (sendable (acceptedPackets own)) := by
  cases streaming with
  | stopped _ written => exact written
  | running begun order valid written =>
    rw [order, List.append_assoc, sendable_append valid, Framing.stream_append, ← written,
      List.append_assoc]
    exact List.prefix_append _ _

/-- A step that leaves the queue, the writer and the connection's output alone. -/
theorem Streaming.frame (streaming : Streaming own sess) (silent : acceptedPackets more = [])
    (writer : later.writer = sess.writer) (buffer : later.outbound.buffer = sess.outbound.buffer)
    (output : later.conn.written = sess.conn.written) : Streaming (own ++ more) later := by
  cases streaming with
  | running begun order valid written =>
    exact .running begun (by simpa [silent, writer, buffer] using order) valid
      (by rw [writer, output, written])
  | stopped left written => exact .stopped (writer ▸ left) (by simpa [silent, output] using written)

/-- Leaving the loop, wherever it stands. -/
theorem Streaming.stop (streaming : Streaming own sess) (left : later.writer.stopped = true)
    (output : later.conn.written = sess.conn.written) : Streaming (own ++ []) later :=
  .stopped left (by simpa [output] using streaming.written_prefix)

theorem Streaming.accept {pkt : OutboundPacket} (streaming : Streaming own sess)
    (writer : later.writer = sess.writer)
    (buffer : later.outbound.buffer = sess.outbound.buffer ++ [pkt])
    (output : later.conn.written = sess.conn.written) :
    Streaming (own ++ [.accepted pkt]) later := by
  have packets : acceptedPackets [.accepted pkt] = [pkt] := rfl
  cases streaming with
  | running begun order valid written =>
    exact .running begun (by simp [packets, writer, buffer, order]) valid
      (by rw [writer, output, written])
  | stopped left written =>
    refine .stopped (writer ▸ left) ?_
    rw [output, acceptedPackets_append, packets]
    obtain ⟨rest, same⟩ := sendable_prefix (acceptedPackets own) [pkt]
    rw [← same, Framing.stream_append]
    exact written.trans (List.prefix_append _ _)

theorem Streaming.begun (streaming : Streaming own sess) {point : WriteLoop}
    (at_ : sess.writer = point) (running : point.stopped = false) : ∃ begun,
      acceptedPackets own = begun ++ point.held ++ sess.outbound.buffer ∧
      (∀ pkt ∈ begun, packetFraming.Valid pkt) ∧
      sess.conn.written ++ point.pending = packetFraming.stream begun := by
  subst at_
  cases streaming with
  | stopped left => simp [left] at running
  | running begun order valid written => exact ⟨begun, order, valid, written⟩

theorem writer_streaming (streaming : Streaming own sess)
    (moved : WriterStep cancelled sess more later) :
    Streaming (own ++ more) later := by
  cases moved with
  | cancelled | drained | tooLong | headerFailed | bodyFailed => exact streaming.stop rfl rfl
  | receive waiting received =>
    obtain ⟨begun, order, valid, written⟩ := streaming.begun waiting rfl
    rw [(Chan.recv_some received).1] at order
    exact .running begun (by simpa [WriteLoop.held] using order) valid written
  | start holding fits =>
    -- from here on the packet counts as begun, its whole frame pending
    rename_i pkt
    obtain ⟨begun, order, valid, written⟩ := streaming.begun holding rfl
    refine .running (begun ++ [pkt]) (by simpa [WriteLoop.held] using order) ?_ ?_
    · simpa only [List.forall_mem_append, List.forall_mem_singleton, packetFraming_valid] using
        ⟨fun pkt member => (packetFraming_valid pkt).mp (valid pkt member), fits⟩
    · simp only [WriteLoop.pending, List.append_nil] at written ⊢
      rw [written, Framing.stream_append, Framing.stream_cons, Framing.stream_nil,
        packetFraming_encode,
        List.append_nil]
  | writeHeader writing =>
    obtain ⟨begun, order, valid, written⟩ := streaming.begun writing rfl
    exact .running begun (by simpa [WriteLoop.held] using order) valid
      (by simpa [WriteLoop.pending] using written)
  | headerDone writing =>
    obtain ⟨begun, order, valid, written⟩ := streaming.begun writing rfl
    exact .running begun (by simpa [WriteLoop.held] using order) valid
      (by simpa [WriteLoop.pending] using written)
  | emptyDone writing empty =>
    obtain ⟨begun, order, valid, written⟩ := streaming.begun writing rfl
    rw [List.length_eq_zero_iff] at empty
    exact .running begun (by simpa [WriteLoop.held] using order) valid
      (by simpa [WriteLoop.pending, empty] using written)
  | writeBody writing | bodyDone writing =>
    obtain ⟨begun, order, valid, written⟩ := streaming.begun writing rfl
    exact .running begun (by simpa [WriteLoop.held] using order) valid
      (by simpa [WriteLoop.pending] using written)

theorem Streaming.step (streaming : Streaming own sess) (step : SessionStep sess more later) :
    Streaming (own ++ more) later := by
  cases step with
  | accept offered =>
    obtain ⟨_, outbound, sent, rfl⟩ := offer_ok offered
    exact streaming.accept rfl (Chan.trySend_some sent).2.2.1 rfl
  | block offered =>
    obtain ⟨_, _, _, rfl⟩ := offer_ok offered
    exact streaming.frame rfl rfl rfl rfl
  | close isOpen closed =>
    obtain ⟨_, rfl⟩ := closeOutbound_ok isOpen closed
    exact streaming.frame rfl rfl rfl rfl
  | writer moved => exact writer_streaming streaming moved
  | writerDone => exact streaming.stop rfl rfl
  | reader moved => cases moved <;> exact streaming.frame rfl rfl rfl rfl
  | _ => exact streaming.frame rfl rfl rfl rfl

theorem runs_streaming (run : Runs client world events st) (found : st.heap[index]? = some sess) :
    Streaming (sessionEvents index events) sess := by
  have path := (runs_session run index).2 sess found
  apply path.invariant (P := Streaming)
  · exact .running [] rfl (by simp) rfl
  · exact fun streaming step => streaming.step step

theorem send_accepted {point : Send} {result : SendNext} {pkt : OutboundPacket}
    (step : SendStep st point events next result)
    (member : .session index (.accepted pkt) ∈ events) :
    ∃ did, point = .enqueue did index pkt := by
  cases step with
  | accepted held offered =>
    simp only [List.mem_singleton, Event.session.injEq, SessionEvent.accepted.injEq] at member
    obtain ⟨rfl, rfl⟩ := member
    exact ⟨_, rfl⟩
  | _ => simp at member

/-- A packet is put into a session's queue by a SendToLocal call for its DID. -/
theorem step_accepted {pkt : OutboundPacket} (step : Step client st events next)
    (addressed : Addressed st) (found : st.heap[index]? = some sess)
    (member : .session index (.accepted pkt) ∈ events) :
    .enqueue sess.did index pkt ∈ st.calls := by
  have addressee : ∀ did, .enqueue did index pkt ∈ st.calls →
      .enqueue sess.did index pkt ∈ st.calls := by
    intro did call
    obtain ⟨record, present, rfl⟩ : st.Owns index did := addressed.calls _ call
    cases Option.some.inj (found.symm.trans present)
    exact call
  cases step with
  | send located sent =>
    obtain ⟨did, rfl⟩ := send_accepted sent member
    exact addressee did (calls_running (Pool.mem located))
  | controlSend held running sent =>
    obtain ⟨did, rfl⟩ := send_accepted sent member
    exact addressee did (calls_reader held running)
  | closeOutbound => split at member <;> simp at member
  | writer _ moved => cases moved <;> simp at member
  | reader _ moved => cases moved <;> simp at member
  | _ => simp at member

/-- However the senders, the writeLoop, the teardown and failing writes
interleave, the bytes on a session's connection are the frames of the packets
accepted for it, in order, up to some byte before the first one too long. A
client reads an initial segment of these packets, all of them once writeLoop
waits on an empty queue; and each was sent to the session's own DID. -/
theorem outbound_stream (run : Runs client world events st) (found : st.heap[index]? = some sess) :
    let accepted := acceptedPackets (sessionEvents index events)
    sess.conn.written <+: packetFraming.stream (sendable accepted) ∧
    (packetFraming.readAll sess.conn.written).1 <+: accepted ∧
    (sess.writer = .select → sess.outbound.buffer = [] →
      sess.conn.written = packetFraming.stream accepted ∧
      (packetFraming.readAll sess.conn.written).1 = accepted) ∧
    ∀ more next pkt, Step client st more next → Event.session index (.accepted pkt) ∈ more →
      .enqueue sess.did index pkt ∈ st.calls := by
  intro accepted
  have streaming := runs_streaming run found
  have written := streaming.written_prefix
  refine ⟨written, ?_, ?_, fun more next pkt step member =>
    step_accepted step (runs_addressed run) found member⟩
  · exact (Framing.readAll_prefix sendable_valid written).trans (List.takeWhile_prefix _)
  · intro waiting empty
    obtain ⟨begun, order, valid, output⟩ := streaming.begun waiting rfl
    simp only [WriteLoop.held, WriteLoop.pending, empty, List.append_nil] at order output
    have same : accepted = begun := order
    refine ⟨by rw [same, output], ?_⟩
    have incomplete : packetFraming.read [] = none := rfl
    have read := Framing.readAll_stream valid incomplete
    rw [List.append_nil] at read
    rw [same, output, read]

/-- One session is sent one packet, which writeLoop writes out completely. -/
theorem greeting_runs :
    ∃ (events : List (Event Unit Unit)) (st : State Unit Unit) (sess : SessionState Unit),
    Runs idle () events st ∧ st.heap[0]? = some sess ∧ sess.writer = .select ∧
    sess.outbound.buffer = [] ∧ acceptedPackets (sessionEvents 0 events) = [⟨1, 0, [7]⟩] := by
  have start : Runs idle () [] (.initial Unit Unit ()) := .refl
  have registered := start.next ⟨rfl, .register⟩
  have called := registered.next ⟨rfl, .callSend 1 ⟨1, 0, [7]⟩⟩
  have found :=
    called.next ⟨rfl, .send (rfl : _ = [] ++ Goroutine.send (.lookup 1 ⟨1, 0, [7]⟩) :: [])
      (.found rfl)⟩
  have accepted :=
    found.next ⟨rfl, .send (rfl : _ = [] ++ Goroutine.send (.enqueue 1 0 ⟨1, 0, [7]⟩) :: [])
    (.accepted rfl rfl)⟩
  have received :=
    accepted.next ⟨rfl, .writer (rfl : (State.heap _)[0]? = some _) (.receive rfl rfl)⟩
  have begun :=
    received.next ⟨rfl, .writer (rfl : (State.heap _)[0]? = some _) (.start rfl (by decide))⟩
  have headed :=
    begun.next
      ⟨rfl, .writer (rfl : (State.heap _)[0]? = some _)
        (.writeHeader (rfl : _ = WriteLoop.header _ ([0, 1, 0, 0, 0, 1] ++ [])))⟩
  have bodied :=
    headed.next ⟨rfl, .writer (rfl : (State.heap _)[0]? = some _) (.headerDone rfl (by decide))⟩
  have written :=
    bodied.next
      ⟨rfl, .writer (rfl : (State.heap _)[0]? = some _)
        (.writeBody (rfl : _ = WriteLoop.body ([7] ++ [])))⟩
  have done := written.next ⟨rfl, .writer (rfl : (State.heap _)[0]? = some _) (.bodyDone rfl)⟩
  exact ⟨_, _, _, done, rfl, rfl, rfl, rfl⟩

theorem outbound_stream_greeting : ∃ (st : State Unit Unit) (sess : SessionState Unit),
    st.heap[0]? = some sess ∧ sess.conn.written = packetFraming.stream [⟨1, 0, [7]⟩] ∧
    (packetFraming.readAll sess.conn.written).1 = [⟨1, 0, [7]⟩] := by
  obtain ⟨events, st, sess, run, found, waiting, empty, accepted⟩ := greeting_runs
  have intact := (outbound_stream run found).2.2.1 waiting empty
  rw [accepted] at intact
  exact ⟨st, sess, found, intact⟩

end GotaDaemon.Ipc
