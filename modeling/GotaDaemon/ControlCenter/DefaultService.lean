import GotaDaemon.ControlCenter.DefaultHandlers
import GotaDaemon.ControlCenter.Linearization
import GotaDaemon.InviteKey.Registration

/-! The default system calls from a client's connection to the network and
back, over all interleavings of the clients. -/
namespace GotaDaemon.ControlCenter
open Go Transition Ipc InviteKey

/-- The data a frame asks to be routed. -/
def routedData : UInt16 × List UInt8 → Option (List UInt8)
  | (opcode, payload) =>
    if opcode = opcodeEgressRoute then (paramFraming.read payload).map Prod.fst else none

/-- The data of a RouteToNetwork call under the DID. -/
def Call.routedFor (did : DID) : Call → Option (List UInt8)
  | .routeToNetwork owner data => if owner = did then some data else none
  | .generateKey _ => none

def routesOf (did : DID) (calls : List Call) : List (List UInt8) :=
  calls.filterMap (Call.routedFor did)

/-- The handler makes no RouteToNetwork call. -/
def SyscallDescriptor.Mute {W : Type} (descriptor : SyscallDescriptor (W × List Call)) : Prop :=
  ∀ owner did payload world,
    routesOf owner (descriptor.handler did payload world).2.2 = routesOf owner world.2

/-- Only EgressRoute routes anything. -/
structure Exclusive {W : Type} (egress : IEgress W) (d : Dispatcher (W × List Call)) : Prop where
  route : d.lookup opcodeEgressRoute = some (egressRoute (recordingEgress egress))
  others : ∀ opcode descriptor, opcode ≠ opcodeEgressRoute → d.lookup opcode = some descriptor →
    descriptor.Mute

/-- The code around the handlers calls RouteToNetwork neither itself nor
through system calls that it registers. -/
structure Discreet {W : Type} (before after : Dispatcher (W × List Call) × (W × List Call)) :
    Prop where
  log : ∀ owner, routesOf owner after.2.2 = routesOf owner before.2.2
  table : ∀ opcode descriptor, after.1.lookup opcode = some descriptor →
    before.1.lookup opcode = some descriptor ∨ descriptor.Mute

variable {W : Type} {egress : IEgress W} {km : KeySource W} {did owner : DID}

@[simp] theorem routesOf_append (calls more : List Call) :
    routesOf did (calls ++ more) = routesOf did calls ++ routesOf did more := by
  simp only [routesOf, List.filterMap_append]

theorem mem_routesOf {calls : List Call} {data : List UInt8} :
    data ∈ routesOf did calls ↔ .routeToNetwork did data ∈ calls := by
  simp only [routesOf, List.mem_filterMap]
  constructor
  · rintro ⟨call, member, made⟩
    cases call with
    | routeToNetwork owner other =>
      simp only [Call.routedFor, Option.ite_none_right_eq_some, Option.some.injEq] at made
      obtain ⟨rfl, rfl⟩ := made
      exact member
    | generateKey => contradiction
  · exact fun member => ⟨_, member, by simp [Call.routedFor]⟩

theorem getInviteKey_mute (km : KeySource W) : (getInviteKey (recordingKeys km)).Mute := by
  intro owner did payload world
  rcases answer : km (requestedVersion payload) world.1 with ⟨_ | key, after⟩ <;>
    simp [getInviteKey, makeGetInviteKeyHandler, recordingKeys, answer, routesOf, Call.routedFor]

/-- EgressRoute routes the data of its payload under the caller's DID. -/
theorem egressRoute_routed (did : DID) (payload : List UInt8) (world : W × List Call) :
    routesOf owner ((egressRoute (recordingEgress egress)).handler did payload world).2.2 =
      routesOf owner world.2 ++
        if did = owner then (routedData (opcodeEgressRoute, payload)).toList else [] := by
  simp only [egressRoute, makeEgressRouteHandler, readBytesParam_eq, routedData, if_true]
  cases paramFraming.read payload with
  | none => simp [errInvalidArgs, success]
  | some result =>
    obtain ⟨data, rest⟩ := result
    have added : routesOf owner [.routeToNetwork did data] =
        if did = owner then [data] else [] := by
      by_cases same : did = owner <;> simp [routesOf, Call.routedFor, same]
    rcases answer : egress did data world.1 with ⟨_ | err, after⟩ <;>
      simp [recordingEgress, answer, added]

theorem egressRoute_success {did : DID} {payload : List UInt8} {world : W × List Call}
    (succeeded : ((egressRoute (recordingEgress egress)).handler did payload world).1.2 =
      success) : ∃ data rest, paramFraming.read payload = some (data, rest) ∧
      ((egressRoute (recordingEgress egress)).handler did payload world).1.1 = [] := by
  simp only [egressRoute, makeEgressRouteHandler, readBytesParam_eq] at succeeded ⊢
  cases read : paramFraming.read payload with
  | none => simp [read, errInvalidArgs, success] at succeeded
  | some result =>
    obtain ⟨data, rest⟩ := result
    refine ⟨data, rest, rfl, ?_⟩
    rcases answer : egress did data world.1 with ⟨_ | err, after⟩
    · simp [recordingEgress, answer]
    · simp [read, recordingEgress, answer, errInternalDaemon, success] at succeeded

section Service
variable {s t : Dispatcher (W × List Call) × (W × List Call)}
  {history : List (ServiceEvent (W × List Call))}

/-- One DispatchSysCall adds to the calls under its DID what its frame asks for. -/
theorem dispatch_routed (exclusive : Exclusive egress s.1) (owner did : DID) (opcode : UInt16)
    (payload : List UInt8) :
    routesOf owner (s.1.dispatchSysCall did opcode payload s.2).2.2 = routesOf owner s.2.2 ++
      if did = owner then (routedData (opcode, payload)).toList else [] := by
  by_cases route : opcode = opcodeEgressRoute
  · subst route
    rw [Dispatcher.dispatchSysCall, exclusive.route]
    exact egressRoute_routed did payload s.2
  · have nothing : routedData (opcode, payload) = none := by simp [routedData, route]
    rw [Dispatcher.dispatchSysCall, nothing]
    cases found : s.1.lookup opcode with
    | none => simp
    | some descriptor =>
      have same := exclusive.others opcode descriptor route found owner did payload s.2
      simpa [SyscallDescriptor.respond] using same

theorem Exclusive.discreet {label : Label (W × List Call)} (exclusive : Exclusive egress s.1)
    (interferes : Interferes s label t) (discreet : Discreet s t) : Exclusive egress t.1 where
  route := interferes.lookup exclusive.route
  others opcode descriptor other found := by
    rcases discreet.table opcode descriptor found with old | mute
    · exact exclusive.others opcode descriptor other old
    · exact mute

/-- The calls under a DID are what the requests executed for it ask for. -/
theorem service_routes (exclusive : Exclusive egress s.1)
    (run : Run (ServiceStep Discreet) s history t) (owner : DID) :
    routesOf owner t.2.2 = routesOf owner s.2.2 ++
      ((exchangesOf owner history).map Prod.fst).filterMap routedData := by
  have both : Exclusive egress t.1 ∧ routesOf owner t.2.2 = routesOf owner s.2.2 ++
      ((exchangesOf owner history).map Prod.fst).filterMap routedData := by
    apply run.invariant (P := fun history t => Exclusive egress t.1 ∧
      routesOf owner t.2.2 = routesOf owner s.2.2 ++
        ((exchangesOf owner history).map Prod.fst).filterMap routedData)
    · exact ⟨exclusive, by simp⟩
    · rintro history t _ _ ⟨exclusive, log⟩ step
      cases step with
      | serve did opcode payload =>
        refine ⟨exclusive, ?_⟩
        have added := dispatch_routed exclusive owner did opcode payload
        dsimp only at added log ⊢
        rw [added, log, exchangesOf_append]
        by_cases same : did = owner
        · subst same
          cases asked : routedData (opcode, payload) <;> simp [asked]
        · simp [exchangesOf_other same, same]
      | interfere interferes discreet =>
        exact ⟨exclusive.discreet interferes discreet, by simp [discreet.log, log]⟩
  exact both.2

end Service

section Daemon
variable {d : Dispatcher (W × List Call)} {world : W}
  {events : List (WiredEvent (W × List Call))} {st : WiredState (W × List Call)}

theorem registered_exclusive
    (registered : registerDefaultHandlers (some .new) (some (recordingKeys km))
      (some (recordingEgress egress)) = (.ok (), some d)) : Exclusive egress d := by
  have table : ∀ opcode, d.lookup opcode =
      defaults (some (recordingKeys km)) (some (recordingEgress egress)) opcode := by
    have outcome := registerDefaultHandlers_registered .new (some (recordingKeys km))
      (some (recordingEgress egress))
    rw [registered] at outcome
    cases outcome with
    | done _ _ table => exact table
  refine ⟨(registered_lookup registered).1, fun opcode descriptor other found => ?_⟩
  rw [table] at found
  rcases defaults_given (by rw [found]; simp) with ⟨same, _⟩ | ⟨rfl, _⟩
  · exact absurd same other
  · simp only [defaults, Option.map_some, placed_some, egressRoute, getInviteKey, opcodes_apart,
      if_false, if_true, Option.none_or, Option.some.injEq] at found
    subst found
    exact getInviteKey_mute km

/-- A client asks for one byte to be routed and reads Success. -/
theorem byte_routed
    (registered : registerDefaultHandlers (some .new) (some (recordingKeys recordedKeys))
      (some (recordingEgress fun _ _ world => (none, world))) = (.ok (), some later)) :
    ∃ events sess, Run (ServingMove Discreet) (.initial _ _ (later, ((), []))) events
        (withClient (later, ((), [.routeToNetwork 1 [65]])) sess) ∧ sess.did = 1 ∧
      Idle (withClient (later, ((), [.routeToNetwork 1 [65]])) sess) 0 sess ∧
      arrivedBytes (sessionEvents 0 events) =
        requestFraming.encode (opcodeEgressRoute, [0, 1, 65]) ∧
      sess.conn.written =
        packetFraming.encode (IpcResponse.packet ⟨success, opcodeEgressRoute, [], 1⟩) := by
  have route := (registered_lookup registered).1
  have response : later.dispatchSysCall 1 opcodeEgressRoute [0, 1, 65] ((), []) =
      (⟨success, opcodeEgressRoute, [], 1⟩, ((), [.routeToNetwork 1 [65]])) := by
    rw [Dispatcher.dispatchSysCall, route]
    rfl
  exact exchange_possible response (by decide) (by decide)

/-- What is handed to the network under a session's DID is what its client has
asked to be routed, frame after frame; nothing is handed over under a DID that
no session has. -/
theorem egress_authentic
    (registered : registerDefaultHandlers (some .new) (some (recordingKeys km))
      (some (recordingEgress egress)) = (.ok (), some d))
    (run : Run (ServingMove Discreet) (.initial _ _ (d, (world, []))) events st) :
    (∀ index sess, st.heap[index]? = some sess →
      let asked := (requestFraming.readAll (arrivedBytes (sessionEvents index events))).1.filterMap
        routedData
      routesOf sess.did st.world.2.2 <+: asked ∧
      (Idle st index sess → routesOf sess.did st.world.2.2 = asked)) ∧
    ∀ did data, .routeToNetwork did data ∈ st.world.2.2 → ∃ index, st.Owns index did := by
  obtain ⟨history, served, linearized⟩ := serving_linearized run
  have explains := linearized.explains (serving_runs run)
  have routes := service_routes (registered_exclusive registered) served
  refine ⟨fun index sess found => ?_, fun did data member => ?_⟩
  · intro asked
    have log : routesOf sess.did st.world.2.2 =
      ((exchangesOf sess.did history).map Prod.fst).filterMap routedData := routes sess.did
    rw [log]
    refine ⟨(explains.requests found).filterMap _, fun idle => ?_⟩
    rw [(explains.complete found idle).1]
  · refine explains.owned fun none => ?_
    have log := routes did
    rw [none] at log
    have listed := mem_routesOf.mpr member
    rw [log] at listed
    simp [routesOf] at listed

/-- A client asks for one byte to be routed. -/
theorem egress_authentic_byte : ∃ (d : Dispatcher (Unit × List Call))
    (events : List (WiredEvent (Unit × List Call))) (st : WiredState (Unit × List Call))
    (sess : SessionState (Activation (Unit × List Call))),
    Run (ServingMove Discreet) (.initial _ _ (d, ((), []))) events st ∧
      st.heap[0]? = some sess ∧ routesOf sess.did st.world.2.2 = [[65]] := by
  obtain ⟨d, registered⟩ := default_syscalls_registered
  obtain ⟨events, sess, run, _, idle, arrived, _⟩ := byte_routed registered
  have authentic := (egress_authentic registered run).1 0 sess rfl
  refine ⟨d, events, _, sess, run, rfl, ?_⟩
  rw [authentic.2 idle, arrived]
  rfl

/-- A client that reads Success in answer to its i-th frame, an EgressRoute,
has had the data of this frame handed to the network under its DID. -/
theorem egress_acknowledged
    (registered : registerDefaultHandlers (some .new) (some (recordingKeys km))
      (some (recordingEgress egress)) = (.ok (), some d))
    (run : Run (ServingMove Discreet) (.initial _ _ (d, (world, []))) events st)
    {index : Nat} {sess : SessionState (Activation (W × List Call))}
    (found : st.heap[index]? = some sess) {i : Nat} {text : List UInt8}
    (read : (packetFraming.readAll sess.conn.written).1[i]? =
      some ⟨opcodeEgressRoute, success, text⟩) :
    ∃ payload data rest, text = [] ∧
      (requestFraming.readAll (arrivedBytes (sessionEvents index events))).1[i]? =
        some (opcodeEgressRoute, payload) ∧
      payload = BigEndian.put 2 data.length ++ data ++ rest ∧
      .routeToNetwork sess.did data ∈ st.world.2.2 := by
  obtain ⟨history, served, linearized⟩ := serving_linearized run
  obtain ⟨⟨opcode, payload⟩, exchanged, arrived⟩ :=
    (linearized.explains (serving_runs run)).response found read
  have member := List.mem_of_getElem? exchanged
  obtain rfl : opcodeEgressRoute = opcode := service_opcode served member
  have exclusive := registered_exclusive registered
  obtain ⟨before, answer⟩ := service_answers served exclusive.route member
  obtain ⟨-, succeeded, rfl⟩ := OutboundPacket.mk.inj answer
  obtain ⟨data, rest, whole, empty⟩ := egressRoute_success succeeded.symm
  refine ⟨payload, data, rest, empty, arrived, (paramFraming.read_sound whole).2, ?_⟩
  have asked : routedData (opcodeEgressRoute, payload) = some data := by simp [routedData, whole]
  rw [← mem_routesOf, service_routes exclusive served]
  exact List.mem_append_right _
    (List.mem_filterMap.mpr ⟨_, List.mem_map_of_mem member, asked⟩)

theorem egress_acknowledged_byte : ∃ (d : Dispatcher (Unit × List Call))
    (events : List (WiredEvent (Unit × List Call))) (st : WiredState (Unit × List Call))
    (sess : SessionState (Activation (Unit × List Call))) (data : List UInt8),
    Run (ServingMove Discreet) (.initial _ _ (d, ((), []))) events st ∧
      st.heap[0]? = some sess ∧ .routeToNetwork sess.did data ∈ st.world.2.2 := by
  obtain ⟨d, registered⟩ := default_syscalls_registered
  obtain ⟨events, sess, run, _, idle, arrived, written⟩ := byte_routed registered
  have read : (packetFraming.readAll sess.conn.written).1[0]? =
      some ⟨opcodeEgressRoute, success, []⟩ := by
    rw [written]
    rfl
  have found : (withClient (d, ((), [Call.routeToNetwork 1 [65]])) sess).heap[0]? = some sess := rfl
  obtain ⟨_, data, _, _, _, _, routed⟩ := egress_acknowledged registered run found read
  exact ⟨d, events, _, sess, data, run, rfl, routed⟩

end Daemon

section Keys
variable {scheme : Ed25519.Scheme} {peerIdentity : Ecdh.PublicKey}
  {peerAddr signingKey : List UInt8}

/-- GetInviteKey over a manager in which this generator is registered, and no
other. -/
structure Issues (scheme : Ed25519.Scheme) (kg : KeyGeneratorV1) (manager : W → KeyManager) :
    Prop where
  first : ∀ world, (manager world).generatorList.lookup v1keytype = some (kg.generateKey scheme)
  only : ∀ world version, version ≠ v1keytype →
    (manager world).generatorList.lookup version = none

theorem emitted_parses (nonempty : peerAddr ≠ []) (curve : peerIdentity.curve = .x25519)
    (wellFormed : Ed25519.WellFormed scheme signingKey) :
    ∃ key, (KeyGeneratorV1.new (some peerIdentity) peerAddr signingKey).generateKey scheme =
      .ok key ∧ KeyParserV1.new.parseKey scheme key = .ok (peerIdentity, peerAddr) := by
  have half : (signingKey.drop 32).length = Ed25519.publicKeySize := by
    rw [List.length_drop, wellFormed.size, Ed25519.privateKeySize, Ed25519.publicKeySize]
  exact ⟨_, generateKey_ok nonempty wellFormed.size, parseKey_ok.mpr ⟨_, _, _, rfl, rfl,
    Accepted.encoded nonempty curve half (scheme.signature signingKey _).property
      (wellFormed.accepts _)⟩⟩

theorem managerKeys_ok {manager : W → KeyManager}
    {safe : ∀ world version, ((manager world).generateKey version).Safe} {version : UInt32}
    {world : W} {key : List UInt8} (made : (manager world).generateKey version = .ok key) :
    managerKeys manager safe version world = (.ok key, world) := by
  unfold managerKeys
  split <;> simp_all

theorem managerKeys_error {manager : W → KeyManager}
    {safe : ∀ world version, ((manager world).generateKey version).Safe} {version : UInt32}
    {world : W} {err : KeyError} (failed : (manager world).generateKey version = .error err) :
    managerKeys manager safe version world = (.error err.text, world) := by
  unfold managerKeys
  split <;> simp_all

/-- The key for version 1, an error for any other. -/
theorem getInviteKey_issued {manager : W → KeyManager} {kg : KeyGeneratorV1} {key : List UInt8}
    (safe : ∀ world version, ((manager world).generateKey version).Safe)
    (issues : Issues scheme kg manager) (emitted : kg.generateKey scheme = .ok key) (did : DID)
    (payload : List UInt8) (world : W) :
    ((getInviteKey (managerKeys manager safe)).handler did payload world).1 =
      if requestedVersion payload = v1keytype then (key, success)
      else ((KeyError.noGenerator (requestedVersion payload)).text, errInvalidKey) := by
  by_cases first : requestedVersion payload = v1keytype
  · have made : (manager world).generateKey v1keytype = .ok key := by
      rw [KeyManager.generateKey, issues.first]
      exact emitted
    simp [getInviteKey, makeGetInviteKeyHandler, first, managerKeys_ok made]
  · have failed : (manager world).generateKey (requestedVersion payload) =
        .error (.noGenerator (requestedVersion payload)) := by
      rw [KeyManager.generateKey, issues.only world _ first]
    simp [getInviteKey, makeGetInviteKeyHandler, first, managerKeys_error failed]

/-- What a client is handed in answer to GetInviteKey is good: any peer that
has registered no parser of its own gets the daemon's public key and address
out of it, whatever it has been made to parse before. Other versions than the
first are refused by name. -/
theorem invite_keys_usable (nonempty : peerAddr ≠ []) (curve : peerIdentity.curve = .x25519)
    (wellFormed : Ed25519.WellFormed scheme signingKey) {manager : W → KeyManager}
    (issues : Issues scheme (KeyGeneratorV1.new (some peerIdentity) peerAddr signingKey) manager)
    (safe : ∀ world version, ((manager world).generateKey version).Safe) {d : Dispatcher W}
    (registered : registerDefaultHandlers (some .new) (some (managerKeys manager safe))
      (some egress) = (.ok (), some d))
    {may : Dispatcher W × W → Dispatcher W × W → Prop} {world : W} {events : List (WiredEvent W)}
    {st : WiredState W} (run : Run (ServingMove may) (.initial _ _ (d, world)) events st)
    {index i : Nat} {sess : SessionState (Activation W)} {pkt : OutboundPacket}
    (found : st.heap[index]? = some sess)
    (read : (packetFraming.readAll sess.conn.written).1[i]? = some pkt)
    (response : pkt.opcode = opcodeGetInviteKey) :
    ∃ payload, (requestFraming.readAll (arrivedBytes (sessionEvents index events))).1[i]? =
        some (opcodeGetInviteKey, payload) ∧
      if requestedVersion payload = v1keytype then
        pkt.statusCode = success ∧
        ∀ calls, (∀ version keyPrefix parser, .registerParser version keyPrefix parser ∉ calls) →
          ((KeyManager.after scheme calls).parseKey scheme pkt.data).1 =
            .ok (peerIdentity, peerAddr)
      else
        pkt.statusCode = errInvalidKey ∧
        pkt.data = (KeyError.noGenerator (requestedVersion payload)).text := by
  obtain ⟨history, served, linearized⟩ := serving_linearized run
  obtain ⟨⟨opcode, payload⟩, exchanged, arrived⟩ :=
    (linearized.explains (serving_runs run)).response found read
  have member := List.mem_of_getElem? exchanged
  obtain rfl : opcodeGetInviteKey = opcode := response.symm.trans (service_opcode served member)
  obtain ⟨before, rfl⟩ := service_answers served (registered_lookup registered).2 member
  obtain ⟨key, emitted, parsed⟩ := emitted_parses nonempty curve wellFormed
  have issued := getInviteKey_issued safe issues emitted sess.did payload before
  refine ⟨payload, arrived, ?_⟩
  simp only [SyscallDescriptor.respond, IpcResponse.packet, issued]
  split
  · refine ⟨rfl, fun calls none => ?_⟩
    rw [((holds_after calls).parseKey key).1]
    exact (specParseKey_unregistered none key _).mpr parsed
  · exact ⟨rfl, rfl⟩

theorem recordedManager_issues : Issues signer
    (KeyGeneratorV1.new (some recordedIdentity) (utf8 "127.0.0.1:9000") recordedKey)
    fun _ : Unit => recordedManager where
  first _ := AList.lookup_insert _
  only _ _ other := AList.lookup_insert_ne other

theorem recorded_emitted : ∃ key : List UInt8, key.length ≤ maxPacketSize ∧
    (KeyGeneratorV1.new (some recordedIdentity) (utf8 "127.0.0.1:9000") recordedKey).generateKey
      signer = .ok key := by
  refine ⟨_, ?_, generateKey_ok (by decide) rfl⟩
  simp only [Fields.render, Fields.payload, payloadOf, List.length_append, List.length_cons]
  decide +kernel

/-- A client asks for a key, and a peer that has parsed nothing yet accepts it. -/
theorem invite_keys_usable_recorded : ∃ (d : Dispatcher Unit) (events : List (WiredEvent Unit))
    (st : WiredState Unit) (sess : SessionState (Activation Unit)) (pkt : OutboundPacket),
    Run (ServingMove fun _ _ => True) (.initial _ _ (d, ())) events st ∧
      st.heap[0]? = some sess ∧ (packetFraming.readAll sess.conn.written).1[0]? = some pkt ∧
      (KeyManager.new.parseKey signer pkt.data).1 =
        .ok (recordedIdentity, utf8 "127.0.0.1:9000") := by
  obtain ⟨d, registered⟩ : ∃ d, registerDefaultHandlers (some .new) (some recordedKeys)
      (some fun _ _ world => (none, world)) = (.ok (), some d) := ⟨_, rfl⟩
  obtain ⟨key, short, emitted⟩ := recorded_emitted
  have executed : d.dispatchSysCall 1 opcodeGetInviteKey [] () =
      (⟨success, opcodeGetInviteKey, key, 1⟩, ()) := by
    have issued : ((getInviteKey recordedKeys).handler 1 [] ()).1 = (key, success) :=
      getInviteKey_issued (fun _ => recordedManager_safe) recordedManager_issues emitted 1 [] ()
    rw [Dispatcher.dispatchSysCall, (registered_lookup registered).2]
    simp only [SyscallDescriptor.respond, issued]
  obtain ⟨events, sess, run, _, idle, arrived, written⟩ :
    ∃ events sess, Run (ServingMove fun _ _ => True) _ events _ ∧ _ :=
    exchange_possible executed (by decide) short
  have read : (packetFraming.readAll sess.conn.written).1[0]? =
      some ⟨opcodeGetInviteKey, success, key⟩ := by
    rw [written, Framing.readAll_encode ((packetFraming_valid _).mpr short)]
    rfl
  obtain ⟨payload, first, usable⟩ := invite_keys_usable (by decide) rfl signer_wellFormed
    recordedManager_issues (fun _ => recordedManager_safe) registered run
    (rfl : (withClient _ sess).heap[0]? = some sess) read rfl
  obtain rfl : payload = [] := by
    rw [arrived, Framing.readAll_encode ((requestFraming_valid _ _).mpr (by decide))] at first
    simpa using first.symm
  exact ⟨d, events, _, sess, _, run, rfl, read, usable.2 [] (by simp)⟩

end Keys

end GotaDaemon.ControlCenter
