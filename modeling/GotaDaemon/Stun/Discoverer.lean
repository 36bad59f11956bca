import GotaDaemon.Network.UDPListener
import GotaDaemon.Stun.Response

/-! The discovery worker of stun/stun_discoverer.go over a UDPListener that it
shares with other subscribers. The worker runs queryAll again and again; every
step of the listener and of its other clients may come between two of its own. -/
namespace GotaDaemon.Stun
open Go Network Transition

/-- The part of identify.Identity that the discoverer writes. -/
structure Identity where
  publicAddr : Option UDPAddr
  deriving DecidableEq, Repr

/-- SetPublicAddr stores a copy. -/
def Identity.setPublicAddr (_ : Identity) (addr : Option UDPAddr) : Identity where
  publicAddr := addr.map fun addr => { ip := addr.ip, port := addr.port, zone := addr.zone }

/-- The variables of one queryServer. -/
structure Query where
  server : String
  serverAddr : UDPAddr
  txID : TransactionID
  packetChan : Nat
  deriving DecidableEq, Repr

namespace Query

/-- The STUN binding request. -/
def request (query : Query) : Bytes :=
  BigEndian.put 2 0x0001 ++ BigEndian.put 2 0x0000 ++ BigEndian.put 4 magicCookie.toNat ++
    query.txID.val

/-- The callback matches packets from the STUN server containing our transaction ID. -/
def callback (query : Query) (sourceAddr : UDPAddr) (data : Bytes) : Bool :=
  if sourceAddr.ip.string ≠ query.serverAddr.ip.string ∨
  sourceAddr.port ≠ query.serverAddr.port then false
  else if data.length < 20 then false
  else if UInt32.ofNat (BigEndian.get ((data.take 8).drop 4)) ≠ magicCookie then false
  else TransactionID.copy ((data.take 20).drop 8) = query.txID

def subscription {W : Type} (query : Query) : Subscription W :=
  ⟨fun _ => query.callback, query.packetChan⟩

end Query

inductive QueryError where
  | resolve (reason : String)
  | random (reason : String)
  | send (reason : String)
  | context (reason : String)
  | timedOut
  | parse (err : ParseError)
  deriving DecidableEq, Repr

def QueryError.text : QueryError → String
  | .resolve reason => "failed to resolve stun server address: " ++ reason
  | .random reason => "failed to generate random transaction ID: " ++ reason
  | .send reason => "failed to send stun request packet: " ++ reason
  | .context reason => reason
  | .timedOut => "stun request timed out"
  | .parse err => err.text

abbrev QueryResult := Outcome QueryError UDPAddr

/-- Control points of the worker: `idle` between two calls of queryAll, `next`
at the head of its loop, `publish` before SetPublicAddr, and the rest inside
queryServer, which from `send` to `unsubscribe` holds a subscription. -/
inductive Worker where
  | idle
  | next (servers : List String)
  | resolve (server : String) (rest : List String)
  | random (server : String) (rest : List String) (serverAddr : UDPAddr)
  | subscribe (query : Query) (rest : List String)
  | send (query : Query) (rest : List String) (subID : UInt32)
  | write (query : Query) (rest : List String) (subID : UInt32) (conn : Nat)
  | wait (query : Query) (rest : List String) (subID : UInt32)
  | unsubscribe (query : Query) (rest : List String) (subID : UInt32) (result : QueryResult)
  | leave (server : String) (rest : List String) (result : QueryResult)
  | publish (addr : UDPAddr)
  deriving DecidableEq, Repr

/-- `done` is the context of the worker; `packetChans` are the channels its
queries have made, which nobody else can name. -/
structure State (W : Type) where
  network : Network.State W
  identity : Identity
  done : Bool
  worker : Worker
  packetChans : List Nat
  panicked : Option Panic

variable {W : Type}

def State.initial (world : W) (identity : Identity) : State W where
  network := .initial world
  identity := identity
  done := false
  worker := .idle
  packetChans := []
  panicked := none

inductive Event (W : Type) where
  /-- A step of the listener or of one of its other clients. -/
  | listener (event : Network.Event W)
  | queryAll
  | resolved (server : String) (addr : UDPAddr)
  | made (ch : Nat)
  | subscribed (query : Query) (subID : UInt32)
  | sent (target : UDPAddr) (data : Bytes)
  | took (query : Query) (packet : Bytes)
  | unsubscribed (subID : UInt32) (found : Bool)
  | queried (server : String) (result : QueryResult)
  | returned

/-- What the listener sees of an event. -/
def Event.network : Event W → Option (Network.Event W)
  | .listener event => some event
  | .made ch => some (.made ch 1)
  | .subscribed query subID => some (.subscribed subID query.subscription)
  | .took query packet => some (.taken query.packetChan packet)
  | .unsubscribed subID found => some (.unsubscribed subID found)
  | _ => none

def networkEvents (events : List (Event W)) : List (Network.Event W) :=
  events.filterMap Event.network

/-- The channel that a client of the listener names in an operation. -/
def namedChannel : Network.Event W → Option Nat
  | .subscribed _ sub => some sub.ch
  | .closed ch | .waiting ch | .taken ch _ => some ch
  | _ => none

/-- One atomic step of the worker or of anything around it. -/
inductive Step (servers : List String) : State W → List (Event W) → State W → Prop where
  | listener : Network.Step st.network events network →
      (∀ event ∈ events, ∀ ch ∈ namedChannel event, ch ∉ st.packetChans) →
      Step servers st (events.map .listener) { st with network := network }
  | cancel : Step servers st [] { st with done := true }
  -- queryAll
  | queryAll : st.worker = .idle → Step servers st [.queryAll] { st with worker := .next servers }
  | exhausted : st.worker = .next [] → Step servers st [.returned] { st with worker := .idle }
  | cancelled : st.worker = .next (server :: rest) → st.done = true →
      Step servers st [.returned] { st with worker := .idle }
  | attempt : st.worker = .next (server :: rest) → st.done = false →
      Step servers st [] { st with worker := .resolve server rest }
  -- queryServer
  | unresolved (reason) : st.worker = .resolve server rest →
      Step servers st [] { st with worker := .leave server rest (.error (.resolve reason)) }
  | resolve (serverAddr) : st.worker = .resolve server rest →
      Step servers st [.resolved server serverAddr]
        { st with worker := .random server rest serverAddr }
  | noRandom (reason) : st.worker = .random server rest serverAddr →
      Step servers st [] { st with worker := .leave server rest (.error (.random reason)) }
  | make (txID) : st.worker = .random server rest serverAddr →
      Network.Step st.network [.made ch 1] network → Step servers st [.made ch]
        { st with network := network, packetChans := ch :: st.packetChans
                  worker := .subscribe ⟨server, serverAddr, txID, ch⟩ rest }
  | subscribe : st.worker = .subscribe query rest →
      Network.Step st.network [.subscribed subID query.subscription] network →
      Step servers st [.subscribed query subID]
        { st with network := network, worker := .send query rest subID }
  | sendRefused : st.worker = .send query rest subID →
      st.network.listener.sendPacketTo = .error reason →
      Step servers st [] { st with worker := .unsubscribe query rest subID (.error (.send reason)) }
  | send : st.worker = .send query rest subID → st.network.listener.sendPacketTo = .ok conn →
      Step servers st [] { st with worker := .write query rest subID conn }
  | writeFails (reason) : st.worker = .write query rest subID conn →
      Step servers st []
        { st with
          worker :=
            .unsubscribe query rest subID (.error (.send ("failed to write to UDP: " ++ reason))) }
  | write : st.worker = .write query rest subID conn → st.network.conns[conn]? = some ⟨false⟩ →
      Step servers st [.sent query.serverAddr query.request]
        { st with worker := .wait query rest subID }
  | contextDone (reason) : st.worker = .wait query rest subID → st.done = true →
      Step servers st []
        { st with worker := .unsubscribe query rest subID (.error (.context reason)) }
  | timeout : st.worker = .wait query rest subID →
      Step servers st [] { st with worker := .unsubscribe query rest subID (.error .timedOut) }
  | receive : st.worker = .wait query rest subID →
      Network.Step st.network [.taken query.packetChan packet] network →
      Step servers st [.took query packet]
        { st with network := network
                  worker :=
                    .unsubscribe query rest subID
                      ((parseSTUNResponse packet query.txID).mapError .parse) }
  -- the deferred call; its error is ignored
  | unsubscribe : st.worker = .unsubscribe query rest subID result →
      Network.Step st.network [.unsubscribed subID found] network →
      Step servers st [.unsubscribed subID found]
        { st with network := network, worker := .leave query.server rest result }
  -- back in queryAll
  | succeeded : st.worker = .leave server rest (.ok addr) →
      Step servers st [.queried server (.ok addr)] { st with worker := .publish addr }
  | failed : st.worker = .leave server rest (.error err) →
      Step servers st [.queried server (.error err)] { st with worker := .next rest }
  | crashed : st.worker = .leave server rest (.panic reason) →
      Step servers st [] { st with panicked := some reason }
  | publish : st.worker = .publish addr →
      Step servers st [.returned]
        { st with identity := st.identity.setPublicAddr (some addr), worker := .idle }

/-- A panic ends the process. -/
def Move (servers : List String) (st : State W) (events : List (Event W)) (next : State W) : Prop :=
  (st.network.panicked = none ∧ st.panicked = none) ∧ Step servers st events next

def Runs (servers : List String) (world : W) (identity : Identity) (events : List (Event W))
    (st : State W) : Prop :=
  Run (Move servers) (.initial world identity) events st

end GotaDaemon.Stun
