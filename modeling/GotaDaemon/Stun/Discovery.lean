import GotaDaemon.Stun.Message
import GotaDaemon.Stun.Provenance

/-! Discovery over whole runs, with any number of calls of queryAll: where the
public address comes from if the servers are honest and nobody can answer in
their place, and that no packet makes the worker panic. -/
namespace GotaDaemon.Stun
open Go Network Transition List Tlv

/-- A server's response to the transaction: it reports the endpoint behind
attributes that carry no address. -/
def Reports (txID : TransactionID) (data : Bytes) (endpoint : Endpoint) : Prop :=
  ∃ (kind : AddressKind) (ignored : UInt8) (others : List (Record 4)) (after : List UInt8),
    let attrs := stream others ++ ((endpoint.attribute kind ignored txID).bytes ++ after)
    (∀ record ∈ others, ∀ other, ¬Carries txID record.toEntry other) ∧ attrs.length ≤ 65515 ∧
      data = response txID attrs

variable {W : Type}

/-- A packet from the address of a server with the transaction ID of a query to
it is the response of that server, which has received the request before, and
reports an endpoint the server sees us at. -/
def Honest (sees : UDPAddr → Endpoint → Prop) (events : List (Event W)) : Prop :=
  ∀ query subID source payload, let data := (Datagram.arriving source payload).data
    .subscribed query subID ∈ events → .listener (.received source payload) ∈ events →
    source.ip.unmap = query.serverAddr.ip.unmap → source.port = query.serverAddr.port →
    (data.drop 8).take 12 = query.txID.val →
    [.sent query.serverAddr query.request, .listener (.received source payload)] <+ events ∧
      ∃ endpoint, sees query.serverAddr endpoint ∧ Reports query.txID data endpoint

/-- The address was taken from an answer to a query of one of the servers. -/
def Learned (servers : List String) (events : List (Event W)) (addr : UDPAddr) : Prop :=
  ∃ query subID source payload, query.server ∈ servers ∧
    .resolved query.server query.serverAddr ∈ events ∧ .subscribed query subID ∈ events ∧
    .listener (.received source payload) ∈ events ∧
    Answers query (.arriving source payload) addr

/-- The calls of queryAll so far have left this identity. -/
def Settled (servers : List String) (identity : Identity) (events : List (Event W))
    (now : Identity) : Prop :=
  now = identity ∨ ∃ addr, now.publicAddr = some addr ∧ Learned servers events addr

/-- The last call of queryAll, and what the earlier ones have left. -/
def Current (servers : List String) (identity : Identity) (events : List (Event W))
    (st : State W) : Prop :=
  ∃ past during old, events = past ++ during ∧ Settled servers identity past old ∧
    Stage servers old past during st

section Runs
variable {servers : List String} {world : W} {identity old now : Identity}
  {events past during : List (Event W)} {st next : State W} {addr : UDPAddr}

theorem Learned.mono (known : Learned servers past addr) (events : List (Event W)) :
    Learned servers (past ++ events) addr := by
  obtain ⟨query, subID, source, payload, member, resolved, made, received, answers⟩ := known
  exact ⟨query, subID, source, payload, member, mem_append_left _ resolved,
    mem_append_left _ made, mem_append_left _ received, answers⟩

theorem Settled.mono (known : Settled servers identity past now) (events : List (Event W)) :
    Settled servers identity (past ++ events) now := by
  rcases known with same | ⟨addr, published, learned⟩
  · exact .inl same
  · exact .inr ⟨addr, published, learned.mono events⟩

theorem Genuine.learned {server : String} (genuine : Genuine past during server addr)
    (member : server ∈ servers) : Learned servers (past ++ during) addr := by
  obtain ⟨query, subID, source, payload, subs, rfl, resolved, answers, _, made, brought, _⟩ :=
    genuine
  exact ⟨query, subID, source, payload, member, mem_append_right _ resolved,
    mem_append_right _ (made.subset mem_cons_self), brought.subset mem_cons_self, answers⟩

/-- A call that has returned has left the identity as it was or with an answer. -/
theorem Discovered.settled (discovered : Discovered servers past during old now)
    (before : Settled servers identity past old) :
    Settled servers identity (past ++ during) now := by
  obtain ⟨order, ⟨_, rfl⟩ | ⟨failed, server, addr, results, _, published, genuine⟩⟩ := discovered
  · exact before.mono during
  · have asked : server ∈ (queries during).map Prod.fst := by simp [results]
    exact .inr ⟨addr, published, genuine.learned (order.subset asked)⟩

theorem Stage.settled (stage : Stage servers old past during st)
    (before : Settled servers identity past old) :
    Settled servers identity (past ++ during) st.identity := by
  have kept (same : st.identity = old) : Settled servers identity (past ++ during) st.identity :=
    same ▸ before.mono during
  cases point : st.worker with
  | idle =>
    simp only [Stage, point] at stage
    exact stage.settled before
  | next | resolve =>
    simp only [Stage, point] at stage
    exact kept stage.unchanged
  | random | subscribe | send | write | wait | unsubscribe | leave =>
    simp only [Stage, point] at stage
    exact kept stage.1.unchanged
  | publish =>
    simp only [Stage, point] at stage
    exact kept stage.1

/-- Each call of queryAll begins where the one before has returned. -/
theorem runs_current (run : Runs servers world identity events st) :
    Current servers identity events st := by
  apply Run.invariant_reached (P := Current servers identity) _ _ run
  · refine ⟨[], [], identity, rfl, .inl rfl, nil_prefix, .inl ⟨?_, rfl⟩⟩
    exact fun query member => absurd member not_mem_nil
  · rintro _ before events next reached ⟨past, during, old, rfl, settled, stage⟩ move
    by_cases call : .queryAll ∈ events
    · have called : events = [.queryAll] ∧ before.worker = .idle ∧
          next = { before with worker := .next servers } := by
        cases move.2 with
        | listener => simp at call
        | queryAll idle => exact ⟨rfl, idle, rfl⟩
        | _ => simp at call
      obtain ⟨rfl, -, rfl⟩ := called
      refine ⟨past ++ during ++ [.queryAll], [], before.identity, by simp,
        (stage.settled settled).mono _, ?_⟩
      exact ⟨fun query member => absurd member not_mem_nil, rfl, rfl⟩
    · exact ⟨past, during ++ events, old, by simp, settled, stage.step reached move call⟩

theorem runs_settled (run : Runs servers world identity events st) :
    Settled servers identity events st.identity := by
  obtain ⟨past, during, old, rfl, settled, stage⟩ := runs_current run
  exact stage.settled settled

/-- An honest server's response is read as it was meant. -/
theorem Reports.parsed {txID : TransactionID} {data : Bytes} {endpoint : Endpoint}
    (reports : Reports txID data endpoint) : parseSTUNResponse data txID = .ok endpoint.addr := by
  obtain ⟨kind, ignored, others, after, foreign, fits, rfl⟩ := reports
  have skipped : ∀ record ∈ others, address txID record.toEntry = none := by
    intro record member
    refine Option.eq_none_iff_forall_ne_some.mpr fun addr found => ?_
    obtain ⟨other, carries, _⟩ := address_eq_some.mp found
    exact foreign record member other carries
  have located : Located txID _ endpoint.addr := (parseAttributes_located []).mp <|
    parseAttributes_ok.mpr ⟨others, endpoint.attribute kind ignored txID, after, rfl, skipped,
      address_eq_some.mpr ⟨endpoint, ⟨kind, ignored, [], rfl, (append_nil _).symm⟩, rfl⟩⟩
  simpa only [append_nil] using parseSTUNResponse_response located fits []

end Runs

/-- The answer of the test as readLoop hands it on. -/
def testPacket : Datagram :=
  (ReadBuffer.make.readFrom testAnswer).2.copy testServer (ReadBuffer.make.readFrom testAnswer).1

def mappedEndpoint : Endpoint where
  ip := [203, 0, 113, 50]
  port := 54321
  family := .inl rfl

/-- The exchange of the discoverer's test, up to the request and from its answer on. -/
def requestEvents : List (Event Unit) :=
  [.listener (.started 0), .queryAll, .resolved "127.0.0.1:19302" testServer, .made 0,
    .subscribed (testQuery 0) 1, .sent testServer (testQuery 0).request]

def answerEvents : List (Event Unit) :=
  let offer : Offer Unit := ⟨1, (testQuery 0).subscription, testPacket⟩
  [.listener (.received testServer testAnswer), .listener (.snapshot testPacket [(1, offer.sub)]),
    .listener (.accepted offer), .listener (.delivered offer), .took (testQuery 0) testPacket.data,
    .unsubscribed 1 true, .queried "127.0.0.1:19302" (.ok mappedAddr), .returned]

theorem runs_exchange : ∃ st,
    Runs ["127.0.0.1:19302"] () ⟨none⟩ (requestEvents ++ answerEvents) st ∧
    st.worker = .idle ∧ st.identity = ⟨some mappedAddr⟩ ∧ st.network.panicked = none := by
  have run := runs_listening.next ⟨⟨rfl, rfl⟩, .queryAll rfl⟩
  have run := run.next ⟨⟨rfl, rfl⟩, .attempt rfl rfl⟩
  have run := run.next ⟨⟨rfl, rfl⟩, .resolve testServer rfl⟩
  have run := run.next ⟨⟨rfl, rfl⟩, .make testTxID rfl (.make 1)⟩
  have run := run.next ⟨⟨rfl, rfl⟩, .subscribe rfl (.subscribe rfl (by decide))⟩
  have run := run.next ⟨⟨rfl, rfl⟩, .send rfl rfl⟩
  have run := run.next ⟨⟨rfl, rfl⟩, .write rfl rfl⟩
  have run := run.next ⟨⟨rfl, rfl⟩, .listener
    (.receive testServer testAnswer (rfl : _ = [] ++ _ :: []) rfl rfl) (by simp [namedChannel])⟩
  have run := run.next ⟨⟨rfl, rfl⟩, .listener (.copy (rfl : _ = [] ++ _ :: [])) (by simp)⟩
  have run := run.next ⟨⟨rfl, rfl⟩, .listener
    (.snapshot [(1, (testQuery 0).subscription)] (rfl : _ = [] ++ _ :: []) (.refl _))
      (by simp [namedChannel])⟩
  have run := run.next ⟨⟨rfl, rfl⟩, .listener (.offer (rfl : _ = [] ++ _ :: [])) (by simp)⟩
  have run := run.next ⟨⟨rfl, rfl⟩, .listener
    (.accept (rfl : _ = [_] ++ _ :: []) (testAnswer_agreed 0)) (by simp [namedChannel])⟩
  have run := run.next ⟨⟨rfl, rfl⟩, .listener
    (.deliver (rfl : _ = [_] ++ _ :: []) rfl rfl) (by simp [namedChannel])⟩
  have run := run.next ⟨⟨rfl, rfl⟩, .receive rfl (.take rfl rfl)⟩
  have run := run.next ⟨⟨rfl, rfl⟩, .unsubscribe rfl (.unsubscribe rfl)⟩
  have run := run.next ⟨⟨rfl, rfl⟩, .succeeded
    (congrArg (fun result => Worker.leave _ _ (Outcome.mapError .parse result)) testAnswer_parsed)⟩
  have run := run.next ⟨⟨rfl, rfl⟩, .publish rfl⟩
  exact ⟨_, run, rfl, rfl, rfl⟩

/-- With honest servers, and strangers that do not know the transaction IDs, the
public address is at all times the initial one or an endpoint at which one of the
configured servers has seen a request of ours. -/
theorem publicAddr_honest (servers : List String) (world : W) (identity : Identity)
    (events : List (Event W)) (st : State W) (sees : UDPAddr → Endpoint → Prop)
    (run : Runs servers world identity events st) (honest : Honest sees events) :
    st.identity = identity ∨ ∃ (query : Query) (endpoint : Endpoint) (source : UDPAddr)
      (payload : Bytes), query.server ∈ servers ∧
      .resolved query.server query.serverAddr ∈ events ∧
      [.sent query.serverAddr query.request, .listener (.received source payload)] <+ events ∧
      sees query.serverAddr endpoint ∧ st.identity.publicAddr = some endpoint.addr := by
  refine (runs_settled run).imp_right ?_
  rintro ⟨addr, published, query, subID, source, payload, member, resolved, made, received,
    answers⟩
  obtain ⟨ordered, endpoint, seen, reports⟩ :=
    honest query subID source payload made received answers.ip answers.port answers.txID
  have same : addr = endpoint.addr :=
    Outcome.ok.inj (answers.parsed.symm.trans reports.parsed)
  exact ⟨query, endpoint, source, payload, member, resolved, ordered, seen, same ▸ published⟩

theorem publicAddr_honest_exchange : ∃ events st,
    Runs ["127.0.0.1:19302"] () ⟨none⟩ events st ∧
    Honest (fun server endpoint => server = testServer ∧ endpoint = mappedEndpoint) events ∧
    st.identity ≠ ⟨none⟩ ∧ st.identity.publicAddr = some mappedEndpoint.addr := by
  obtain ⟨st, run, _, identity, _⟩ := runs_exchange
  have reports : Reports testTxID (Datagram.arriving testServer testAnswer).data mappedEndpoint :=
    ⟨.xorMapped, 0, [], [], nofun, by decide, by decide⟩
  have honest : Honest (fun server endpoint => server = testServer ∧ endpoint = mappedEndpoint)
      (requestEvents ++ answerEvents) := by
    intro query subID source payload _ made received _ _ _
    obtain ⟨rfl, rfl⟩ : query = testQuery 0 ∧ subID = 1 := by
      simpa [requestEvents, answerEvents] using made
    obtain ⟨rfl, rfl⟩ : source = testServer ∧ payload = testAnswer := by
      simpa [requestEvents, answerEvents] using received
    refine ⟨?_, mappedEndpoint, ⟨rfl, rfl⟩, reports⟩
    have sent : .sent testServer (testQuery 0).request ∈ requestEvents := by simp [requestEvents]
    have arrived : .listener (.received testServer testAnswer) ∈ answerEvents := by
      simp [answerEvents]
    exact (singleton_sublist.mpr sent).append (singleton_sublist.mpr arrived)
  have changed : st.identity ≠ ⟨none⟩ := by simp [identity]
  obtain ⟨_, _, _, _, _, _, _, ⟨_, rfl⟩, published⟩ :=
    (publicAddr_honest _ _ _ _ st _ run honest).resolve_left changed
  exact ⟨_, st, run, honest, changed, published⟩

end GotaDaemon.Stun
