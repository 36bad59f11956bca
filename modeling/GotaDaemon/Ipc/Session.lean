import GotaDaemon.Core.Framing
import GotaDaemon.Core.Transition
import GotaDaemon.Go.Chan

/-! One session of ipc/session_manager.go: the SessionState record, the
critical sections that touch it and the iterations of its two loops. A client
may be slow, close its end or send anything; connection errors are free choices
of the environment. -/
namespace GotaDaemon.Ipc
open Go Transition

abbrev DID := UInt32

def maxPacketSize : Nat := 65535

def sessionQueueSize : Nat := 1024

structure OutboundPacket where
  opcode : UInt16
  statusCode : UInt16
  data : List UInt8
  deriving DecidableEq, Repr

/-- The six bytes writePacket sends ahead of the data. -/
def OutboundPacket.header (pkt : OutboundPacket) : List UInt8 :=
  BigEndian.put 2 pkt.opcode.toNat ++ BigEndian.put 2 pkt.statusCode.toNat ++
    BigEndian.put 2 pkt.data.length

/-- The server's end of a client connection. Close may be called repeatedly
on a net.Conn, so the calls are counted. -/
structure Conn where
  inbound : List UInt8 := []
  written : List UInt8 := []
  closes : Nat := 0

inductive Once where
  | fresh | running | done
  deriving DecidableEq, Repr

inductive SendError where
  | notFound (did : DID)
  | closed (did : DID)
  | sessionBlocked
  deriving DecidableEq, Repr

def SendError.text : SendError → String
  | .notFound did => "session ID " ++ toString did.toNat ++ " not found"
  | .closed did => "session ID " ++ toString did.toNat ++ " closed"
  | .sessionBlocked => "session outbound queue full (slow client)"

/-- Control points of SendToLocal: the map lookup, the writeMu section on the
session it found, the goroutine started after a full queue. -/
inductive Send where
  | lookup (did : DID) (pkt : OutboundPacket)
  | enqueue (did : DID) (session : Nat) (pkt : OutboundPacket)
  | drop (did : DID) (session : Nat)

/-- Control points of writeLoop. `header` and `body` are inside Conn.Write,
with the bytes that are still to be written. -/
inductive WriteLoop where
  | select
  | packet (pkt : OutboundPacket)
  | header (pkt : OutboundPacket) (rest : List UInt8)
  | body (rest : List UInt8)
  | deferred
  | exited

/-- Control points of readLoop. A running control callback is an activation of
type `K`; `sending` is a SendToLocal it has called. -/
inductive ReadLoop (K : Type) where
  | select
  | header
  | body (opcode length : UInt16)
  | frame (opcode : UInt16) (payload : List UInt8)
  | control (activation : K)
  | sending (call : Send) (resume : Except SendError Unit → K)
  | deferred
  | exited

abbrev ControlCallback (K : Type) := DID → UInt16 → List UInt8 → K

structure SessionState (K : Type) where
  did : DID
  conn : Conn
  outbound : Chan OutboundPacket
  isClosed : Bool
  closeOnce : Once
  reader : ReadLoop K
  writer : WriteLoop

/-- The record RegisterSession allocates, its loops about to start. -/
def SessionState.new (K : Type) (did : DID) (conn : Conn) : SessionState K where
  did := did
  conn := conn
  outbound := .make sessionQueueSize
  isClosed := false
  closeOnce := .fresh
  reader := .select
  writer := .select

inductive Offer where
  | accepted | closed | blocked
  deriving DecidableEq, Repr

variable {K : Type}

/-- The writeMu section of SendToLocal. -/
def SessionState.offer (sess : SessionState K) (pkt : OutboundPacket) :
    Except Panic (Offer × SessionState K) :=
  if sess.isClosed then .ok (.closed, sess)
  else do
    match ← sess.outbound.trySend pkt with
    | some outbound => return (.accepted, { sess with outbound })
    | none =>
      let outbound ← sess.outbound.close
      return (.blocked, { sess with isClosed := true, outbound })

/-- The writeMu section of the closeOnce body in UnregisterSession. -/
def SessionState.closeOutbound (sess : SessionState K) : Except Panic (SessionState K) :=
  if sess.isClosed then .ok sess
  else do
    let outbound ← sess.outbound.close
    return { sess with isClosed := true, outbound }

/-- io.ReadFull: exactly `count` bytes, or not yet. -/
def readFull (count : Nat) (input : List UInt8) : Option (List UInt8 × List UInt8) :=
  if count ≤ input.length then some (input.take count, input.drop count) else none

inductive SessionEvent where
  | arrived (bytes : List UInt8)
  | frame (opcode : UInt16) (payload : List UInt8)
  | accepted (pkt : OutboundPacket)
  | blocked
  | closed
  deriving DecidableEq, Repr

/-- One move of writeLoop. Leaving the loop is a move to `deferred`. -/
inductive WriterStep (cancelled : Bool) :
    SessionState K → List SessionEvent → SessionState K → Prop where
  | cancelled : sess.writer = .select → cancelled = true →
      WriterStep cancelled sess [] { sess with writer := .deferred }
  | receive : sess.writer = .select → sess.outbound.recv = some (some pkt, outbound) →
      WriterStep cancelled sess [] { sess with outbound := outbound, writer := .packet pkt }
  | drained : sess.writer = .select → sess.outbound.recv = some (none, outbound) →
      WriterStep cancelled sess [] { sess with outbound := outbound, writer := .deferred }
  | tooLong : sess.writer = .packet pkt → maxPacketSize < pkt.data.length →
      WriterStep cancelled sess [] { sess with writer := .deferred }
  | start : sess.writer = .packet pkt → pkt.data.length ≤ maxPacketSize →
      WriterStep cancelled sess [] { sess with writer := .header pkt pkt.header }
  | writeHeader : sess.writer = .header pkt (chunk ++ rest) →
      WriterStep cancelled sess []
        { sess with conn.written := sess.conn.written ++ chunk, writer := .header pkt rest }
  | headerFailed : sess.writer = .header pkt rest →
      WriterStep cancelled sess [] { sess with writer := .deferred }
  | headerDone : sess.writer = .header pkt [] → 0 < pkt.data.length →
      WriterStep cancelled sess [] { sess with writer := .body pkt.data }
  | emptyDone : sess.writer = .header pkt [] → pkt.data.length = 0 →
      WriterStep cancelled sess [] { sess with writer := .select }
  | writeBody : sess.writer = .body (chunk ++ rest) →
      WriterStep cancelled sess []
        { sess with conn.written := sess.conn.written ++ chunk, writer := .body rest }
  | bodyFailed : sess.writer = .body rest →
      WriterStep cancelled sess [] { sess with writer := .deferred }
  | bodyDone : sess.writer = .body [] →
      WriterStep cancelled sess [] { sess with writer := .select }

/-- One move of readLoop outside the control callback. -/
inductive ReaderStep (cancelled : Bool) (onControl : Option (ControlCallback K)) :
    SessionState K → List SessionEvent → SessionState K → Prop where
  | cancelled : sess.reader = .select → cancelled = true →
      ReaderStep cancelled onControl sess [] { sess with reader := .deferred }
  | proceed : sess.reader = .select → cancelled = false →
      ReaderStep cancelled onControl sess [] { sess with reader := .header }
  | readHeader : sess.reader = .header → readFull 4 sess.conn.inbound = some (bytes, inbound) →
      ReaderStep cancelled onControl sess []
        { sess with conn.inbound := inbound,
                    reader := .body (.ofNat (BigEndian.get (bytes.take 2)))
                      (.ofNat (BigEndian.get (bytes.drop 2))) }
  | headerFailed : sess.reader = .header →
      ReaderStep cancelled onControl sess [] { sess with reader := .deferred }
  | readBody : sess.reader = .body opcode length →
      readFull length.toNat sess.conn.inbound = some (payload, inbound) →
      ReaderStep cancelled onControl sess [.frame opcode payload]
        { sess with conn.inbound := inbound, reader := .frame opcode payload }
  | bodyFailed : sess.reader = .body opcode length →
      ReaderStep cancelled onControl sess [] { sess with reader := .deferred }
  | call : sess.reader = .frame opcode payload → onControl = some callback →
      ReaderStep cancelled onControl sess []
        { sess with reader := .control (callback sess.did opcode payload) }
  | ignore : sess.reader = .frame opcode payload → onControl = none →
      ReaderStep cancelled onControl sess [] { sess with reader := .select }

def ReadLoop.inCallback : ReadLoop K → Bool
  | .control _ | .sending _ _ => true
  | _ => false

/-- Everything that can happen to one session's record, whoever does it. -/
inductive SessionStep : SessionState K → List SessionEvent → SessionState K → Prop where
  | arrive (bytes) : SessionStep sess [.arrived bytes]
      { sess with conn.inbound := sess.conn.inbound ++ bytes }
  | accept : sess.offer pkt = .ok (.accepted, next) → SessionStep sess [.accepted pkt] next
  | block : sess.offer pkt = .ok (.blocked, next) → SessionStep sess [.blocked] next
  | close : sess.isClosed = false → sess.closeOutbound = .ok next → SessionStep sess [.closed] next
  | connClose : SessionStep sess [] { sess with conn.closes := sess.conn.closes + 1 }
  | once (state) : SessionStep sess [] { sess with closeOnce := state }
  | writer : WriterStep cancelled sess events next → SessionStep sess events next
  | writerDone : SessionStep sess [] { sess with writer := .exited }
  | reader : ReaderStep cancelled onControl sess events next → SessionStep sess events next
  | callback : sess.reader.inCallback → (point.inCallback ∨ point = .select) →
      SessionStep sess [] { sess with reader := point }
  | readerDone : SessionStep sess [] { sess with reader := .exited }

section Sections
variable {sess next : SessionState K} {pkt : OutboundPacket} {reason : Panic}

/-- What the writeMu section of SendToLocal has found and done, by outcome. -/
def SessionState.Offered (sess : SessionState K) (pkt : OutboundPacket) (next : SessionState K) :
    Offer → Prop
  | .closed => sess.isClosed = true ∧ next = sess
  | .accepted => sess.isClosed = false ∧ ∃ outbound,
      sess.outbound.trySend pkt = .ok (some outbound) ∧ next = { sess with outbound := outbound }
  | .blocked => sess.isClosed = false ∧ sess.outbound.closed = false ∧
      sess.outbound.capacity ≤ sess.outbound.buffer.length ∧
      next = { sess with isClosed := true, outbound.closed := true }

theorem offer_ok {outcome : Offer} (offered : sess.offer pkt = .ok (outcome, next)) :
    sess.Offered pkt next outcome := by
  unfold SessionState.offer at offered
  split at offered
  · rename_i wasClosed
    cases offered
    exact ⟨wasClosed, rfl⟩
  · rename_i wasOpen
    have isOpen : sess.isClosed = false := by simpa using wasOpen
    cases sent : sess.outbound.trySend pkt with
    | error reason => simp [sent, bind, Except.bind] at offered
    | ok outbound =>
      cases outbound with
      | some outbound =>
        simp only [sent, bind, Except.bind, pure, Except.pure] at offered
        cases offered
        exact ⟨isOpen, outbound, sent, rfl⟩
      | none =>
        cases closing : sess.outbound.close with
        | error reason => simp [sent, closing, bind, Except.bind] at offered
        | ok outbound =>
          obtain ⟨channel, rfl⟩ := Chan.close_ok closing
          simp only [sent, closing, bind, Except.bind, pure, Except.pure] at offered
          cases offered
          exact ⟨isOpen, channel, (Chan.trySend_none sent).2, rfl⟩

/-- Either panic of the writeMu section needs a closed channel. -/
theorem offer_panics (failed : sess.offer pkt = .error reason) :
    sess.isClosed = false ∧ sess.outbound.closed = true := by
  unfold SessionState.offer at failed
  cases wasClosed : sess.isClosed <;> simp only [wasClosed, Bool.false_eq_true, if_true,
    if_false] at failed
  · cases sent : sess.outbound.trySend pkt with
    | error reason => exact ⟨rfl, Chan.trySend_error sent⟩
    | ok outbound =>
      cases outbound with
      | some outbound => simp [sent, bind, Except.bind, pure, Except.pure] at failed
      | none =>
        cases closing : sess.outbound.close with
        | error reason => exact ⟨rfl, Chan.close_error closing⟩
        | ok outbound => simp [sent, closing, bind, Except.bind, pure, Except.pure] at failed
  · simp at failed

theorem closeOutbound_ok (isOpen : sess.isClosed = false) (closed : sess.closeOutbound = .ok next) :
    sess.outbound.closed = false ∧
    next = { sess with isClosed := true, outbound.closed := true } := by
  simp only [SessionState.closeOutbound, isOpen, Bool.false_eq_true, if_false] at closed
  cases closing : sess.outbound.close with
  | error reason => simp [closing, bind, Except.bind] at closed
  | ok outbound =>
    obtain ⟨channel, rfl⟩ := Chan.close_ok closing
    simp only [closing, bind, Except.bind, pure, Except.pure, Except.ok.injEq] at closed
    exact ⟨channel, closed.symm⟩

theorem closeOutbound_panics (failed : sess.closeOutbound = .error reason) :
    sess.isClosed = false ∧ sess.outbound.closed = true := by
  unfold SessionState.closeOutbound at failed
  cases wasClosed : sess.isClosed <;> simp only [wasClosed, Bool.false_eq_true, if_true,
    if_false] at failed
  · cases closing : sess.outbound.close with
    | error reason => exact ⟨rfl, Chan.close_error closing⟩
    | ok outbound => simp [closing, bind, Except.bind, pure, Except.pure] at failed
  · simp at failed

end Sections

end GotaDaemon.Ipc
