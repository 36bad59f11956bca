import GotaDaemon.Core.Transition
import GotaDaemon.Go.Chan
import GotaDaemon.Go.Map
import GotaDaemon.Go.Net

/-! The UDPListener of network/udp_listener.go as a transition system. Atomic
steps are the critical sections of its methods, the moves of every readLoop and
of the goroutine each readLoop starts for every packet and subscription. Sockets,
contexts and packet channels are indices into the lists of all made so far. -/
namespace GotaDaemon.Network
open Go Transition

abbrev Bytes := List UInt8

/-- The buffer of a readLoop. -/
structure ReadBuffer where
  bytes : Bytes
  size : bytes.length = 65535

def ReadBuffer.make : ReadBuffer := ⟨List.replicate 65535 0, List.length_replicate ..⟩

/-- ReadFromUDP: the bytes of the packet that fit overwrite the front of the buffer. -/
def ReadBuffer.readFrom (buf : ReadBuffer) (payload : Bytes) : Nat × ReadBuffer :=
  let n := min payload.length 65535
  (n, { bytes := payload.take n ++ buf.bytes.drop n
        size := by
          have := buf.size; simp only [List.length_append, List.length_take,
              List.length_drop]; omega })

/-- A packet as the subscribers see it: no longer than the buffer it was read into. -/
structure Datagram where
  source : UDPAddr
  data : Bytes
  bounded : data.length ≤ 65535
  deriving DecidableEq, Repr

/-- The copy of buf[:n]. -/
def ReadBuffer.copy (buf : ReadBuffer) (source : UDPAddr) (n : Nat) : Datagram :=
  ⟨source, buf.bytes.take n, by have := buf.size; simp only [List.length_take]; omega⟩

/-- A packet that has come in whole, or its front where the buffer ends. -/
def Datagram.arriving (source : UDPAddr) (payload : Bytes) : Datagram :=
  ⟨source, payload.take 65535, by simp⟩

/-- What is copied is the packet just read, whatever the buffer held before. -/
theorem ReadBuffer.copy_readFrom {buf filled : ReadBuffer} {payload : Bytes} {n : Nat}
    (source : UDPAddr) (read : buf.readFrom payload = (n, filled)) :
    filled.copy source n = .arriving source payload := by
  simp only [readFrom, Prod.mk.injEq] at read
  obtain ⟨rfl, rfl⟩ := read
  simp only [copy, Datagram.arriving, Datagram.mk.injEq, true_and]
  rw [List.take_left' (by rw [List.length_take]; omega)]
  rcases Nat.le_total payload.length 65535 with short | long
  · rw [Nat.min_eq_left short, List.take_length, List.take_of_length_le short]
  · rw [Nat.min_eq_right long]

/-- A callback may consult the state `W` of the code around the listener. -/
structure Subscription (W : Type) where
  callback : W → UDPAddr → Bytes → Bool
  ch : Nat

structure UDPListener (W : Type) where
  conn : Option Nat
  subscriptions : Map UInt32 (Subscription W)
  nextSubID : UInt32
  isListening : Bool
  cancel : Option Nat
  wg : Nat

variable {W : Type}

namespace UDPListener

/-- NewUDPListener. -/
def new (W : Type) : UDPListener W where
  conn := none
  subscriptions := ∅
  nextSubID := 0
  isListening := false
  cancel := none
  wg := 0

def subscribeToPacketReceived (l : UDPListener W) (callback : Option (W → UDPAddr → Bytes → Bool))
    (packetChannel : Option Nat) : Except String (UInt32 × UDPListener W) :=
  match callback, packetChannel with
  | none, _ => .error "callback cannot be nil"
  | some _, none => .error "packet channel cannot be nil"
  | some callback, some ch =>
    let id := l.nextSubID + 1
    .ok (id, { l with nextSubID := id, subscriptions := l.subscriptions.insert id ⟨callback, ch⟩ })

def unsubscribeFromPacketReceived (l : UDPListener W) (subscriptionID : UInt32) :
    Except String (UDPListener W) :=
  match l.subscriptions.lookup subscriptionID with
  | none => .error ("subscription ID " ++ toString subscriptionID.toNat ++ " not found")
  | some _ => .ok { l with subscriptions := l.subscriptions.erase subscriptionID }

/-- The part of SendPacketTo under the lock: the socket to write to. -/
def sendPacketTo (l : UDPListener W) : Except String Nat :=
  match l.isListening, l.conn with
  | true, some conn => .ok conn
  | _, _ => .error "listener is not running"

end UDPListener

/-- One packet for one subscription. The id tells the subscriptions of a
snapshot apart; the code does not read it. -/
structure Offer (W : Type) where
  id : UInt32
  sub : Subscription W
  packet : Datagram

/-- Control points of readLoop. -/
inductive ReadLoop (W : Type) where
  | check
  | read
  | failed
  | copy (source : UDPAddr) (n : Nat)
  | snapshot (packet : Datagram)
  | offer (packet : Datagram) (subs : List (UInt32 × Subscription W))

inductive Goroutine (W : Type) where
  /-- StartListener after its critical section, before wg.Add. -/
  | start (conn ctx : Nat)
  | spawn (conn ctx : Nat)
  /-- StopListener in wg.Wait. -/
  | stop
  | readLoop (conn ctx : Nat) (buf : ReadBuffer) (point : ReadLoop W)
  | callback (offer : Offer W)
  | deliver (offer : Offer W)

/-- A packet channel and the receivers that wait on it while it is unbuffered. -/
structure PacketChan where
  chan : Chan Bytes
  receivers : Nat

structure Conn where
  closed : Bool
  deriving DecidableEq, Repr

/-- The context readLoop is given, derived from the caller's. -/
structure Context where
  parent : Nat
  done : Bool
  deriving DecidableEq, Repr

structure State (W : Type) where
  listener : UDPListener W
  conns : List Conn
  contexts : List Context
  /-- The callers' contexts that have been cancelled. -/
  cancelled : List Nat
  channels : List PacketChan
  running : List (Goroutine W)
  world : W
  panicked : Option Panic

def State.initial (world : W) : State W where
  listener := .new W
  conns := []
  contexts := []
  cancelled := []
  channels := []
  running := []
  world := world
  panicked := none

inductive Event (W : Type) where
  | started (conn : Nat)
  | stopped (conn : Option Nat)
  | subscribed (id : UInt32) (sub : Subscription W)
  | unsubscribed (id : UInt32) (found : Bool)
  | made (ch capacity : Nat)
  | closed (ch : Nat)
  | waiting (ch : Nat)
  | taken (ch : Nat) (data : Bytes)
  /-- A packet has come in at the socket and ReadFromUDP returns it. -/
  | received (source : UDPAddr) (payload : Bytes)
  | readFailed (conn : Nat)
  | exited (conn : Nat)
  | snapshot (packet : Datagram) (subs : List (UInt32 × Subscription W))
  | accepted (offer : Offer W)
  | rejected (offer : Offer W)
  | delivered (offer : Offer W)
  | dropped (offer : Offer W)
  | panicked (reason : Panic)

inductive StartError where
  | alreadyRunning
  | resolve (reason : String)
  | listen (port : UInt16) (reason : String)
  deriving DecidableEq, Repr

def StartError.text : StartError → String
  | .alreadyRunning => "listener is already running"
  | .resolve reason => "failed to resolve UDP address: " ++ reason
  | .listen port reason => "failed to listen on UDP port " ++ toString port.toNat ++ ": " ++ reason

/-- What ResolveUDPAddr and ListenUDP answer for the port. -/
inductive Binding where
  | bound
  | unresolved (reason : String)
  | refused (reason : String)
  deriving DecidableEq, Repr

namespace State

/-- The critical section of StartListener. -/
def startListener (st : State W) (ctx : Nat) (port : UInt16) (binding : Binding) :
    Except StartError (State W) :=
  if st.listener.isListening then .error .alreadyRunning
  else match binding with
    | .unresolved reason => .error (.resolve reason)
    | .refused reason => .error (.listen port reason)
    | .bound => .ok { st with
        listener := { st.listener with
          conn := some st.conns.length, isListening := true, cancel := some st.contexts.length }
        conns := st.conns ++ [⟨false⟩]
        contexts := st.contexts ++ [⟨ctx, ctx ∈ st.cancelled⟩]
        running := st.running ++ [.start st.conns.length st.contexts.length] }

def closeConn (st : State W) : Option Nat → List Conn
  | none => st.conns
  | some conn => st.conns.modify conn fun _ => ⟨true⟩

def cancelContext (st : State W) : Option Nat → List Context
  | none => st.contexts
  | some ctx => st.contexts.modify ctx fun context => { context with done := true }

/-- The critical section of StopListener of a running listener. -/
def stopListener (st : State W) : State W :=
  { st with
    listener := { st.listener with isListening := false }
    conns := st.closeConn st.listener.conn
    contexts := st.cancelContext st.listener.cancel
    running := st.running ++ [.stop] }

def setChannel (st : State W) (ch : Nat) (channel : PacketChan) : State W :=
  { st with channels := st.channels.set ch channel }

end State

/-- One atomic step of one goroutine or of the environment. -/
inductive Step : State W → List (Event W) → State W → Prop where
  -- StartListener and StopListener
  | start (ctx port) : st.startListener ctx port .bound = .ok next →
      Step st [.started st.conns.length] next
  | startFails (ctx port binding) : st.startListener ctx port binding = .error err → Step st [] st
  | addWaitGroup : st.running = before ++ .start conn ctx :: after →
      Step st []
        { st with listener.wg := st.listener.wg + 1, running := before ++ .spawn conn ctx :: after }
  | spawn : st.running = before ++ .spawn conn ctx :: after →
      Step st [] { st with running := before ++ .readLoop conn ctx .make .check :: after }
  | stop : st.listener.isListening = true → Step st [.stopped st.listener.conn] st.stopListener
  | stopIdle : st.listener.isListening = false → Step st [] st
  | stopped : st.running = before ++ .stop :: after → st.listener.wg = 0 →
      Step st [] { st with running := before ++ after }
  -- subscribers: a packet channel they name is one they have made
  | subscribe : st.listener.subscribeToPacketReceived (some callback) (some ch) =
      .ok (subID, listener) → ch < st.channels.length →
      Step st [.subscribed subID ⟨callback, ch⟩] { st with listener := listener }
  | subscribeFails (callback ch) : st.listener.subscribeToPacketReceived callback ch = .error err →
      Step st [] st
  | unsubscribe : st.listener.unsubscribeFromPacketReceived subID = .ok listener →
      Step st [.unsubscribed subID true] { st with listener := listener }
  | unsubscribeFails : st.listener.unsubscribeFromPacketReceived subID = .error err →
      Step st [.unsubscribed subID false] st
  | make (capacity) : Step st [.made st.channels.length capacity]
      { st with channels := st.channels ++ [⟨.make capacity, 0⟩] }
  | take : st.channels[ch]? = some channel → channel.chan.recv = some (some data, rest) →
      Step st [.taken ch data] (st.setChannel ch { channel with chan := rest })
  | wait : st.channels[ch]? = some channel → channel.chan.capacity = 0 →
      channel.chan.closed = false →
      Step st [.waiting ch] (st.setChannel ch { channel with receivers := channel.receivers + 1 })
  | close : st.channels[ch]? = some channel → channel.chan.close = .ok closed →
      Step st [.closed ch] (st.setChannel ch ⟨closed, 0⟩)
  | closePanics {ch : Nat} {channel : PacketChan} :
      st.channels[ch]? = some channel → channel.chan.close = .error reason →
      Step st [.panicked reason] { st with panicked := some reason }
  -- the contexts of the callers, and what callbacks consult
  | cancel (ctx) : Step st [] { st with cancelled := ctx :: st.cancelled }
  | propagate : st.contexts[ctx]? = some context → context.parent ∈ st.cancelled →
      Step st [] { st with contexts := st.contexts.set ctx { context with done := true } }
  | interfere (world) : Step st [] { st with world := world }
  -- readLoop
  | leave : st.running = before ++ .readLoop conn ctx buf .check :: after →
      st.contexts[ctx]? = some context → context.done = true →
      Step st [.exited conn]
        { st with listener.wg := st.listener.wg - 1, running := before ++ after }
  | enter : st.running = before ++ .readLoop conn ctx buf .check :: after →
      st.contexts[ctx]? = some context → context.done = false →
      Step st [] { st with running := before ++ .readLoop conn ctx buf .read :: after }
  | receive (source payload) : st.running = before ++ .readLoop conn ctx buf .read :: after →
      st.conns[conn]? = some ⟨false⟩ → buf.readFrom payload = (n, filled) →
      Step st [.received source payload]
        { st with running := before ++ .readLoop conn ctx filled (.copy source n) :: after }
  -- a closed socket always fails, an open one may
  | readFails : st.running = before ++ .readLoop conn ctx buf .read :: after →
      Step st [.readFailed conn]
        { st with running := before ++ .readLoop conn ctx buf .failed :: after }
  | abandon : st.running = before ++ .readLoop conn ctx buf .failed :: after →
      st.listener.isListening = false →
      Step st [.exited conn]
        { st with listener.wg := st.listener.wg - 1, running := before ++ after }
  | retry : st.running = before ++ .readLoop conn ctx buf .failed :: after →
      st.listener.isListening = true →
      Step st [] { st with running := before ++ .readLoop conn ctx buf .check :: after }
  | copy : st.running = before ++ .readLoop conn ctx buf (.copy source n) :: after →
      Step st []
        { st with
          running := before ++ .readLoop conn ctx buf (.snapshot (buf.copy source n)) :: after }
  -- the order in which a Go map is iterated is arbitrary
  | snapshot (subs) : st.running = before ++ .readLoop conn ctx buf (.snapshot packet) :: after →
      (subs.map fun entry => (⟨entry.1, entry.2⟩ : (_ : UInt32) × Subscription W)).Perm
        st.listener.subscriptions.entries →
      Step st [.snapshot packet subs]
        { st with running := before ++ .readLoop conn ctx buf (.offer packet subs) :: after }
  | offer :
      st.running =
        before ++ .readLoop conn ctx buf (.offer packet ((subID, sub) :: rest)) :: after →
      Step st []
        { st with running := before ++ .readLoop conn ctx buf (.offer packet rest) :: after ++
                    [.callback ⟨subID, sub, packet⟩] }
  | offered : st.running = before ++ .readLoop conn ctx buf (.offer packet []) :: after →
      Step st [] { st with running := before ++ .readLoop conn ctx buf .check :: after }
  -- the goroutine of one packet and one subscription
  | accept : st.running = before ++ .callback offer :: after →
      offer.sub.callback st.world offer.packet.source offer.packet.data = true →
      Step st [.accepted offer] { st with running := before ++ .deliver offer :: after }
  | reject : st.running = before ++ .callback offer :: after →
      offer.sub.callback st.world offer.packet.source offer.packet.data = false →
      Step st [.rejected offer] { st with running := before ++ after }
  | deliver : st.running = before ++ .deliver offer :: after →
      st.channels[offer.sub.ch]? = some channel →
      channel.chan.trySend offer.packet.data = .ok (some filled) →
      Step st [.delivered offer]
        { st.setChannel offer.sub.ch { channel with chan := filled } with
          running := before ++ after }
  | handOver : st.running = before ++ .deliver offer :: after →
      st.channels[offer.sub.ch]? = some channel →
      channel.chan.trySend offer.packet.data = .ok none → channel.receivers = waiting + 1 →
      Step st [.delivered offer, .taken offer.sub.ch offer.packet.data]
        { st.setChannel offer.sub.ch { channel with receivers := waiting } with
          running := before ++ after }
  | drop : st.running = before ++ .deliver offer :: after →
      st.channels[offer.sub.ch]? = some channel →
      channel.chan.trySend offer.packet.data = .ok none → channel.receivers = 0 →
      Step st [.dropped offer] { st with running := before ++ after }
  | deliverPanics : st.running = before ++ .deliver offer :: after →
      st.channels[offer.sub.ch]? = some channel → channel.chan.trySend offer.packet.data =
        .error reason →
      Step st [.panicked reason] { st with panicked := some reason }

/-- A panic ends the process. -/
def Move (st : State W) (events : List (Event W)) (next : State W) : Prop :=
  st.panicked = none ∧ Step st events next

def Runs (world : W) (events : List (Event W)) (st : State W) : Prop :=
  Run Move (.initial world) events st

end GotaDaemon.Network
