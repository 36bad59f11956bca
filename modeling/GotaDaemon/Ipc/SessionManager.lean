import GotaDaemon.Go.Map
import GotaDaemon.Ipc.Session

/-! The SessionManager of ipc/session_manager.go as a transition system. Its
atomic steps are the critical sections of the API calls and the iterations of
the loops; any number of goroutines run them in any order. Go pointers to
SessionState are indices into the list of all records ever allocated. -/
namespace GotaDaemon.Ipc
open Go Transition

inductive UnregisterError where
  | notFound (did : DID)
  | closeFailed (did : DID) (reason : String)
  deriving DecidableEq, Repr

def UnregisterError.text : UnregisterError → String
  | .notFound did => "session ID " ++ toString did.toNat ++ " not found"
  | .closeFailed did reason =>
    "failed to close connection for DID " ++ toString did.toNat ++ ": " ++ reason

/-- Control points of UnregisterSession. From `once` on it holds the session
it has deleted from the map; `writeMu` to `leave` are inside closeOnce.Do. -/
inductive Unregister where
  | enter (did : DID)
  | once (did : DID) (session : Nat) (onClose : Bool)
  | writeMu (did : DID) (session : Nat) (onClose : Bool)
  | closeConn (did : DID) (session : Nat) (onClose : Bool)
  | callback (did : DID) (session : Nat) (onClose : Bool) (closeErr : Option String)
  | leave (did : DID) (session : Nat) (closeErr : Option String)
  | finish (result : Except UnregisterError Unit)

inductive Loop where
  | read | write
  deriving DecidableEq, Repr

/-- Who runs an UnregisterSession: an API caller, the goroutine SendToLocal
starts after a full queue, or the deferred call of one of the loops. -/
inductive Origin where
  | caller
  | dropped (session : Nat)
  | loop (session : Nat) (which : Loop)
  deriving DecidableEq, Repr

/-- The session whose teardown an UnregisterSession is part of. -/
def Origin.session : Origin → Option Nat
  | .caller => none
  | .dropped session | .loop session _ => some session

/-- Control points of Close. `conns` holds the sessions still to be closed. -/
inductive Close where
  | cancel
  | reset
  | conns (rest : List Nat)
  deriving DecidableEq, Repr

inductive Goroutine where
  | unregister (origin : Origin) (point : Unregister)
  | send (point : Send)
  | close (point : Close)

/-- The manager, all session records, the calls and goroutines in flight, and
the state `W` of the code around it. -/
structure State (W K : Type) where
  sessions : Map DID Nat
  nextDID : UInt32
  cancelled : Bool
  wg : Nat
  onClose : Bool
  onControl : Option (ControlCallback K)
  heap : List (SessionState K)
  running : List Goroutine
  world : W
  panicked : Option Panic

/-- NewSessionManager. -/
def State.initial (W K : Type) (world : W) : State W K where
  sessions := ∅
  nextDID := 0
  cancelled := false
  wg := 0
  onClose := false
  onControl := none
  heap := []
  running := []
  world := world
  panicked := none

inductive Event (K L : Type) where
  | session (index : Nat) (event : SessionEvent)
  | registered (index : Nat) (did : DID) (overwritten : Option Nat)
  | removed (index : Nat) (did : DID) (teardownOf : Option Nat)
  | reset (active : List Nat)
  | onClose (index : Nat) (did : DID)
  | setOnClose (installed : Bool)
  | setControlCallback (callback : Option (ControlCallback K))
  | sendCalled (did : DID)
  | control (index : Nat) (label : L)
  | interfered (label : L)
  | panicked (reason : Panic)

/-- What a running control callback does next. -/
inductive Act (K : Type) where
  | proceed (activation : K)
  | send (did : DID) (pkt : OutboundPacket) (resume : Except SendError Unit → K)
  | finish

/-- The code around the manager: the moves of a control callback's activation
and what else may change the state they share. -/
structure Client (W K L : Type) where
  step : W → K → L → W → Act K → Prop
  interfere : W → L → W → Prop

variable {W K L : Type}

namespace State

@[simps] def put (st : State W K) (index : Nat) (sess : SessionState K) : State W K :=
  { st with heap := st.heap.set index sess }

@[simps] def spawn (st : State W K) (goroutines : List Goroutine) : State W K :=
  { st with running := st.running ++ goroutines }

/-- RegisterSession, all of which runs under sm.mu. -/
def registerSession (st : State W K) (conn : Option Conn) : Except String DID × State W K :=
  match conn with
  | none => (.error "connection cannot be nil", st)
  | some conn =>
    let did := st.nextDID + 1
    (.ok did, { st with
      nextDID := did
      heap := st.heap ++ [.new K did conn]
      sessions := st.sessions.insert did st.heap.length
      wg := st.wg + 2 })

end State

inductive SendNext where
  | running (point : Send)
  | returned (result : Except SendError Unit)
  /-- SendToLocal returns after starting an UnregisterSession. -/
  | dropped (did : DID) (session : Nat)

/-- One move of SendToLocal, for callers and control callbacks alike. -/
inductive SendStep : State W K → Send → List (Event K L) → State W K → SendNext → Prop where
  | found : st.sessions.lookup did = some index →
      SendStep st (.lookup did pkt) [] st (.running (.enqueue did index pkt))
  | missing : st.sessions.lookup did = none →
      SendStep st (.lookup did pkt) [] st (.returned (.error (.notFound did)))
  | accepted : st.heap[index]? = some sess → sess.offer pkt = .ok (.accepted, next) →
      SendStep st (.enqueue did index pkt) [.session index (.accepted pkt)] (st.put index next)
        (.returned (.ok ()))
  | closed : st.heap[index]? = some sess → sess.offer pkt = .ok (.closed, next) →
      SendStep st (.enqueue did index pkt) [] st (.returned (.error (.closed did)))
  | blocked : st.heap[index]? = some sess → sess.offer pkt = .ok (.blocked, next) →
      SendStep st (.enqueue did index pkt) [.session index .blocked] (st.put index next)
        (.running (.drop did index))
  | panicked : st.heap[index]? = some sess → sess.offer pkt = .error reason →
      SendStep st (.enqueue did index pkt) [.panicked reason] { st with panicked := some reason }
        (.running (.enqueue did index pkt))
  | drop : SendStep st (.drop did index) [] st (.dropped did index)

/-- The goroutine of a caller whose SendToLocal has moved. -/
def SendNext.caller : SendNext → List Goroutine
  | .running point => [.send point]
  | .returned _ | .dropped _ _ => []

def SendNext.spawned : SendNext → List Goroutine
  | .running _ | .returned _ => []
  | .dropped did session => [.unregister (.dropped session) (.enter did)]

/-- The control point of a readLoop whose callback's SendToLocal has moved. -/
def SendNext.reader (resume : Except SendError Unit → K) : SendNext → ReadLoop K
  | .running point => .sending point resume
  | .returned result => .control (resume result)
  | .dropped _ _ => .control (resume (.error .sessionBlocked))

def Act.reader : Act K → ReadLoop K
  | .proceed activation => .control activation
  | .send did pkt resume => .sending (.lookup did pkt) resume
  | .finish => .select

/-- The deferred UnregisterSession of a loop that has just been left. -/
def deferredReader (index : Nat) (sess : SessionState K) : List Goroutine :=
  match sess.reader with
  | .deferred => [.unregister (.loop index .read) (.enter sess.did)]
  | _ => []

def deferredWriter (index : Nat) (sess : SessionState K) : List Goroutine :=
  match sess.writer with
  | .deferred => [.unregister (.loop index .write) (.enter sess.did)]
  | _ => []

def SessionState.loopDone (sess : SessionState K) : Loop → SessionState K
  | .read => { sess with reader := .exited }
  | .write => { sess with writer := .exited }

/-- One atomic step of one goroutine or of the environment. -/
inductive Step (client : Client W K L) : State W K → List (Event K L) → State W K → Prop where
  -- API calls that are one critical section, and the start of the others; a
  -- registered connection is a new one
  | register : Step client st
      [.registered st.heap.length (st.nextDID + 1) (st.sessions.lookup (st.nextDID + 1))]
      (st.registerSession (some {})).2
  | registerNil : Step client st [] (st.registerSession none).2
  | setOnClose (installed) : Step client st [.setOnClose installed] { st with onClose := installed }
  | setControlCallback (callback) : Step client st [.setControlCallback callback]
      { st with onControl := callback }
  | callUnregister (did) : Step client st [] (st.spawn [.unregister .caller (.enter did)])
  | callSend (did pkt) : Step client st [.sendCalled did] (st.spawn [.send (.lookup did pkt)])
  | callClose : Step client st [] (st.spawn [.close .cancel])
  -- the environment: the parent context, the clients, the code around the manager
  | cancel : Step client st [] { st with cancelled := true }
  | arrive (bytes) : st.heap[index]? = some sess →
      Step client st [.session index (.arrived bytes)]
        (st.put index { sess with conn.inbound := sess.conn.inbound ++ bytes })
  | interfere : client.interfere st.world label world →
      Step client st [.interfered label] { st with world := world }
  -- UnregisterSession
  | take : st.running = before ++ .unregister origin (.enter did) :: after →
      st.sessions.lookup did = some index →
      Step client st [.removed index did origin.session]
        { st with sessions := st.sessions.erase did
                  running := before ++ .unregister origin (.once did index st.onClose) :: after }
  | takeMissing : st.running = before ++ .unregister origin (.enter did) :: after →
      st.sessions.lookup did = none →
      Step client st []
        { st with
          running := before ++ .unregister origin (.finish (.error (.notFound did))) :: after }
  | onceEnter : st.running = before ++ .unregister origin (.once did index onClose) :: after →
      st.heap[index]? = some sess → sess.closeOnce = .fresh →
      Step client st []
        { st.put index { sess with closeOnce := .running } with
          running := before ++ .unregister origin (.writeMu did index onClose) :: after }
  | onceSkip : st.running = before ++ .unregister origin (.once did index onClose) :: after →
      st.heap[index]? = some sess → sess.closeOnce = .done →
      Step client st []
        { st with running := before ++ .unregister origin (.finish (.ok ())) :: after }
  | closeOutbound :
      st.running = before ++ .unregister origin (.writeMu did index onClose) :: after →
      st.heap[index]? = some sess → sess.closeOutbound = .ok next →
      Step client st (if sess.isClosed then [] else [.session index .closed])
        { st.put index next with
          running := before ++ .unregister origin (.closeConn did index onClose) :: after }
  | closeOutboundPanics :
      st.running = before ++ .unregister origin (.writeMu did index onClose) :: after →
      st.heap[index]? = some sess → sess.closeOutbound = .error reason →
      Step client st [.panicked reason] { st with panicked := some reason }
  | closeConn (closeErr) :
      st.running = before ++ .unregister origin (.closeConn did index onClose) :: after →
      st.heap[index]? = some sess →
      Step client st []
        { st.put index { sess with conn.closes := sess.conn.closes + 1 } with
          running := before ++ .unregister origin (.callback did index onClose closeErr) :: after }
  | runOnClose :
      st.running = before ++ .unregister origin (.callback did index true closeErr) :: after →
      Step client st [.onClose index did]
        { st with running := before ++ .unregister origin (.leave did index closeErr) :: after }
  | skipOnClose :
      st.running = before ++ .unregister origin (.callback did index false closeErr) :: after →
      Step client st []
        { st with running := before ++ .unregister origin (.leave did index closeErr) :: after }
  | onceLeave : st.running = before ++ .unregister origin (.leave did index closeErr) :: after →
      st.heap[index]? = some sess →
      Step client st []
        { st.put index { sess with closeOnce := .done } with
          running := before ++ .unregister origin (.finish (match closeErr with
            | none => .ok ()
            | some reason => .error (.closeFailed did reason))) :: after }
  | unregistered : st.running = before ++ .unregister origin (.finish result) :: after →
      (∀ index which, origin ≠ .loop index which) →
      Step client st [] { st with running := before ++ after }
  | loopDone : st.running = before ++ .unregister (.loop index which) (.finish result) :: after →
      st.heap[index]? = some sess →
      Step client st []
        { st.put index (sess.loopDone which) with running := before ++ after, wg := st.wg - 1 }
  -- SendToLocal by a caller
  | send : st.running = before ++ .send point :: after → SendStep st point events next result →
      Step client st events
        { next with running := before ++ result.caller ++ after ++ result.spawned }
  -- Close
  | closeCancel : st.running = before ++ .close .cancel :: after →
      Step client st [] { st with cancelled := true, running := before ++ .close .reset :: after }
  | closeReset (active) : st.running = before ++ .close .reset :: after →
      active.Perm st.sessions.values →
      Step client st [.reset active]
        { st with sessions := ∅, running := before ++ .close (.conns active) :: after }
  | closeNext : st.running = before ++ .close (.conns (index :: rest)) :: after →
      st.heap[index]? = some sess →
      Step client st []
        { st.put index { sess with conn.closes := sess.conn.closes + 1 } with
          running := before ++ .close (.conns rest) :: after }
  | closeWait : st.running = before ++ .close (.conns []) :: after → st.wg = 0 →
      Step client st [] { st with running := before ++ after }
  -- the loops
  | writer : st.heap[index]? = some sess → WriterStep st.cancelled sess events next →
      Step client st (events.map (.session index))
        ((st.put index next).spawn (deferredWriter index next))
  | reader : st.heap[index]? = some sess → ReaderStep st.cancelled st.onControl sess events next →
      Step client st (events.map (.session index))
        ((st.put index next).spawn (deferredReader index next))
  | control : st.heap[index]? = some sess → sess.reader = .control activation →
      client.step st.world activation label world act →
      Step client st [.control index label]
        { st.put index { sess with reader := act.reader } with world := world }
  | controlSend : st.heap[index]? = some sess → sess.reader = .sending point resume →
      SendStep st point events next result → next.heap[index]? = some sent →
      Step client st events
        ((next.put index { sent with reader := result.reader resume }).spawn result.spawned)

/-- A panic ends the process. -/
def Move (client : Client W K L) (st : State W K) (events : List (Event K L)) (next : State W K) :
    Prop :=
  st.panicked = none ∧ Step client st events next

def Runs (client : Client W K L) (world : W) (events : List (Event K L)) (st : State W K) : Prop :=
  Run (Move client) (.initial W K world) events st

/-- Surroundings without control callbacks of their own. -/
def idle : Client Unit Unit Unit where
  step _ _ _ _ _ := False
  interfere _ _ _ := False

end GotaDaemon.Ipc
