import GotaDaemon.Network.Delivery
import GotaDaemon.Stun.Discoverer

/-! What one call of queryAll does to the public address of the identity and to
the subscription table. The channel of a query is its own, so the packets on it
have been offered to that query's subscription, however late their goroutines
run; and the deferred call removes the subscription before queryServer returns. -/
namespace GotaDaemon.Stun
open Go Network Transition List
variable {W : Type}

/-- The queries that have returned, with their results. -/
def Event.query : Event W → Option (String × QueryResult)
  | .queried server result => some (server, result)
  | _ => none

def queries (events : List (Event W)) : List (String × QueryResult) := events.filterMap Event.query

/-- The packet comes from the address the query was sent to, carries its
transaction ID and holds the address. -/
structure Answers (query : Query) (packet : Datagram) (addr : UDPAddr) : Prop where
  ip : packet.source.ip.unmap = query.serverAddr.ip.unmap
  port : packet.source.port = query.serverAddr.port
  txID : (packet.data.drop 8).take 12 = query.txID.val
  parsed : parseSTUNResponse packet.data query.txID = .ok addr

/-- The address comes from an answer that a query of this server has taken from
its channel, offered to it after it had subscribed. -/
def Genuine (past during : List (Event W)) (server : String) (addr : UDPAddr) : Prop :=
  ∃ query subID source payload subs, let packet := .arriving source payload
    query.server = server ∧ .resolved server query.serverAddr ∈ during ∧
    Answers query packet addr ∧ (subID, query.subscription) ∈ subs ∧
    [.subscribed query subID, .listener (.snapshot packet subs)] <+ during ∧
    [.listener (.received source payload), .listener (.snapshot packet subs)] <+ past ++ during ∧
    .took query packet.data ∈ during

def AllFailed (results : List (String × QueryResult)) : Prop :=
  ∀ query ∈ results, ∀ addr, query.2 ≠ .ok addr

/-- The result of a call of queryAll: the servers are asked in the order of the
list up to the first that answers, and only its answer is published. -/
def Discovered (servers : List String) (past during : List (Event W)) (old new : Identity) : Prop :=
  (queries during).map Prod.fst <+: servers ∧
    (AllFailed (queries during) ∧ new = old ∨
      ∃ failed server addr, queries during = failed ++ [(server, .ok addr)] ∧ AllFailed failed ∧
        new.publicAddr = some addr ∧ Genuine past during server addr)

/-- The subscription table as the other clients alone would have left it. -/
def byOthers (table : Map UInt32 (Subscription W)) (during : List (Event W)) :
    Map UInt32 (Subscription W) :=
  during.foldl (fun table event => match event with
    | .listener event => event.register table
    | _ => table) table

/-- The subscription the worker has made and not yet removed. -/
def Worker.holding : Worker → Option UInt32
  | .send _ _ subID | .write _ _ subID _ | .wait _ _ subID | .unsubscribe _ _ subID _ => some subID
  | _ => none

section Projection
variable {servers : List String} {st next : State W} {events : List (Event W)} {world : W}
  {identity : Identity}

@[simp] theorem networkEvents_append (first second : List (Event W)) :
    networkEvents (first ++ second) = networkEvents first ++ networkEvents second :=
      filterMap_append

@[simp] theorem networkEvents_listener (events : List (Network.Event W)) :
    networkEvents (events.map Event.listener) = events := by
  simp [networkEvents, filterMap_map, Function.comp_def, Event.network]

theorem step_network (step : Step servers st events next) :
    networkEvents events = [] ∧ next.network = st.network ∨
      Network.Step st.network (networkEvents events) next.network := by
  cases step with
  | listener moved => exact .inr (by simpa using moved)
  | make _ _ moved | subscribe _ moved | receive _ moved | unsubscribe _ moved => exact .inr moved
  | _ => exact .inl ⟨rfl, rfl⟩

theorem runs_network (run : Runs servers world identity events st) :
    Network.Runs world (networkEvents events) st.network := by
  apply Run.invariant (P := fun (events : List (Event W)) st =>
    Network.Runs world (networkEvents events) st.network) _ _ run
  · exact .refl
  · intro past before events next held move
    rw [networkEvents_append]
    rcases step_network move.2 with ⟨silent, same⟩ | moved
    · rw [silent, append_nil, same]
      exact held
    · exact .next held ⟨move.1.1, moved⟩

end Projection

theorem Query.callback_true {query : Query} {source : UDPAddr} {data : Bytes}
    (agreed : query.callback source data = true) :
    source.ip.unmap = query.serverAddr.ip.unmap ∧ source.port = query.serverAddr.port ∧
      (data.drop 8).take 12 = query.txID.val := by
  unfold Query.callback at agreed
  split at agreed
  · contradiction
  · rename_i address
    rw [not_or, not_ne_iff, not_ne_iff] at address
    split at agreed
    · contradiction
    · rename_i long
      split at agreed
      · contradiction
      · refine ⟨IP.unmap_eq_of_string address.1, address.2, ?_⟩
        rw [← of_decide_eq_true agreed, TransactionID.copy_val (by simp; omega), drop_take]

/-- A client makes a subscription with this channel. -/
def Event.SubscribesOn (event : Event W) (ch : Nat) : Prop :=
  ∃ subID sub, event.network = some (.subscribed subID sub) ∧ sub.ch = ch

/-- While queryServer runs, the only subscription with its channel is its own. -/
structure Asked (past during : List (Event W)) (packetChans : List Nat) (query : Query)
    (subID : Option UInt32) :
    Prop where
  resolved : .resolved query.server query.serverAddr ∈ during
  own : query.packetChan ∈ packetChans
  fresh : ∀ event ∈ past, ¬ event.SubscribesOn query.packetChan
  only : ∀ event ∈ during, event.SubscribesOn query.packetChan → ∃ made ∈ subID,
    event = .subscribed query made

/-- No query of this call has succeeded yet and these servers are still to be asked. -/
structure Searching (servers : List String) (old : Identity) (during : List (Event W))
    (st : State W) (pending : List String) : Prop where
  failed : AllFailed (queries during)
  order : (queries during).map Prod.fst ++ pending = servers
  unchanged : st.identity = old

def ResultGenuine (past during : List (Event W)) (server : String) (result : QueryResult) : Prop :=
  ∀ addr, result = .ok addr → Genuine past during server addr

/-- What is known at each control point of the worker since the call of queryAll. -/
def Stage (servers : List String) (old : Identity) (past during : List (Event W))
    (st : State W) : Prop :=
  match st.worker with
  | .idle => Discovered servers past during old st.identity
  | .next rest => Searching servers old during st rest
  | .resolve server rest => Searching servers old during st (server :: rest)
  | .random server rest serverAddr =>
    Searching servers old during st (server :: rest) ∧ .resolved server serverAddr ∈ during
  | .subscribe query rest =>
    Searching servers old during st (query.server :: rest) ∧
    Asked past during st.packetChans query none
  | .send query rest subID | .write query rest subID _ | .wait query rest subID =>
    Searching servers old during st (query.server :: rest) ∧
    Asked past during st.packetChans query (some subID)
  | .unsubscribe query rest _ result =>
    Searching servers old during st (query.server :: rest) ∧
    ResultGenuine past during query.server result
  | .leave server rest result =>
    Searching servers old during st (server :: rest) ∧ ResultGenuine past during server result
  | .publish addr =>
    st.identity = old ∧ (queries during).map Prod.fst <+: servers ∧ ∃ failed server,
      queries during = failed ++ [(server, .ok addr)] ∧ AllFailed failed ∧
      Genuine past during server addr

section Growth
variable {servers : List String} {old : Identity} {past during events : List (Event W)}
  {st next : State W} {server : String} {addr : UDPAddr} {query : Query}
  {subID : Option UInt32} {pending : List String} {result : QueryResult} {packetChans : List Nat}

@[simp] theorem queries_append (first second : List (Event W)) :
    queries (first ++ second) = queries first ++ queries second := filterMap_append

theorem Genuine.mono (known : Genuine past during server addr) (events : List (Event W)) :
    Genuine past (during ++ events) server addr := by
  obtain ⟨query, subID, source, payload, subs, name, resolved, answer, member, made, brought,
    took⟩ := known
  refine ⟨query, subID, source, payload, subs, name, mem_append_left _ resolved, answer, member,
    made.trans (sublist_append_left ..), brought.trans ?_, mem_append_left _ took⟩
  rw [← append_assoc]
  exact sublist_append_left ..

theorem ResultGenuine.mono (known : ResultGenuine past during server result)
    (events : List (Event W)) :
    ResultGenuine past (during ++ events) server result :=
  fun addr succeeded => (known addr succeeded).mono events

theorem Searching.mono (before : Searching servers old during st pending)
    (quiet : queries events = []) (same : next.identity = st.identity) :
    Searching servers old (during ++ events) next pending := by
  obtain ⟨failed, order, unchanged⟩ := before
  exact ⟨by simpa [quiet] using failed, by simpa [quiet] using order, same.trans unchanged⟩

theorem Searching.returned (before : Searching servers old during st pending) :
    Discovered servers past (during ++ [.returned]) old st.identity := by
  obtain ⟨failed, order, unchanged⟩ : Searching servers old (during ++ [.returned]) st pending :=
    before.mono rfl rfl
  exact ⟨⟨pending, order⟩, .inl ⟨failed, unchanged⟩⟩

theorem Discovered.mono {new : Identity} (before : Discovered servers past during old new)
    (quiet : queries events = []) : Discovered servers past (during ++ events) old new := by
  unfold Discovered
  rw [queries_append, quiet, append_nil]
  refine ⟨before.1, before.2.imp_right ?_⟩
  rintro ⟨failed, server, addr, results, earlier, published, genuine⟩
  exact ⟨failed, server, addr, results, earlier, published, genuine.mono events⟩

theorem Asked.mono (before : Asked past during packetChans query subID)
    (clear : ∀ event ∈ events, ¬ event.SubscribesOn query.packetChan) :
    Asked past (during ++ events) packetChans query subID where
  resolved := mem_append_left _ before.resolved
  own := before.own
  fresh := before.fresh
  only event member on := by
    rcases mem_append.mp member with earlier | now
    · exact before.only event earlier on
    · exact absurd on (clear event now)

/-- Steps of others, and those of the context, leave the stage of the worker as it is. -/
theorem Stage.passive (before : Stage servers old past during st) (worker : next.worker = st.worker)
    (identity : next.identity = st.identity) (chans : next.packetChans = st.packetChans)
    (quiet : queries events = [])
    (clear : ∀ event ∈ events, ∀ ch ∈ st.packetChans, ¬ event.SubscribesOn ch) :
    Stage servers old past (during ++ events) next := by
  have kept {query : Query} {subID : Option UInt32}
    (asked : Asked past during st.packetChans query subID) :
      Asked past (during ++ events) next.packetChans query subID := by
    rw [chans]
    exact asked.mono fun event member => clear event member _ asked.own
  unfold Stage at before ⊢
  rw [worker]
  cases point : st.worker with
  | idle =>
    rw [point] at before
    exact identity ▸ before.mono quiet
  | next | resolve =>
    rw [point] at before
    exact before.mono quiet identity
  | random =>
    rw [point] at before
    exact ⟨before.1.mono quiet identity, mem_append_left _ before.2⟩
  | subscribe | send | write | wait =>
    rw [point] at before
    exact ⟨before.1.mono quiet identity, kept before.2⟩
  | unsubscribe | leave =>
    rw [point] at before
    exact ⟨before.1.mono quiet identity, before.2.mono events⟩
  | publish =>
    rw [point] at before
    obtain ⟨unchanged, order, failed, server, results, earlier, genuine⟩ := before
    simp only [queries_append, quiet, append_nil]
    exact ⟨identity.trans unchanged, order, failed, server, results, earlier, genuine.mono events⟩

end Growth

section Worker
variable {servers : List String} {old identity : Identity} {world : W}
  {past during events : List (Event W)}
  {st next : State W} {query : Query} {subID : UInt32} {addr : UDPAddr} {data : Bytes}

theorem eq_listener_snapshot {event : Event W} {packet : Datagram}
    {subs : List (UInt32 × Subscription W)} (seen : event.network = some (.snapshot packet subs)) :
    event = .listener (.snapshot packet subs) := by
  cases event <;> simp_all [Event.network]

theorem eq_listener_received {event : Event W} {source : UDPAddr} {payload : Bytes}
    (seen : event.network = some (.received source payload)) :
    event = .listener (.received source payload) := by
  cases event <;> simp_all [Event.network]

/-- Whatever a query takes from its channel was offered to its subscription. -/
theorem Asked.genuine {packetChans : List Nat}
    (asked : Asked past during packetChans query (some subID))
    (run : Runs servers world identity (past ++ during) st) (took : .took query data ∈ during)
    (parsed : parseSTUNResponse data query.txID = .ok addr) :
    Genuine past during query.server addr := by
  have taken : .taken query.packetChan data ∈ networkEvents (past ++ during) :=
    mem_filterMap.mpr ⟨_, mem_append_right _ took, rfl⟩
  obtain ⟨⟨_, _, packet⟩, channel, rfl, ⟨world, agreed⟩, subs, source, payload, member, rfl, made,
    brought⟩ := (runs_traced (runs_network run)).taken _ _ taken
  obtain ⟨asking, snapshot, ordered, subscribed, offered⟩ := pair_of_filterMap made
  obtain rfl := eq_listener_snapshot offered
  -- the subscription is the query's own, since its channel is
  have on : asking.SubscribesOn query.packetChan := ⟨_, _, subscribed, channel⟩
  have inside := pair_of_new ordered fun earlier => asked.fresh asking earlier on
  obtain ⟨made, same, rfl⟩ := asked.only asking (inside.subset mem_cons_self) on
  obtain rfl := Option.some.inj same
  obtain ⟨rfl, own⟩ := Network.Event.subscribed.inj (Option.some.inj subscribed)
  obtain ⟨reading, taking, before, received, shown⟩ := pair_of_filterMap brought
  obtain rfl := eq_listener_received received
  obtain rfl := eq_listener_snapshot shown
  rw [← own] at member agreed
  obtain ⟨ip, port, txID⟩ := Query.callback_true agreed
  exact ⟨query, _, source, payload, subs, rfl, asked.resolved, ⟨ip, port, txID, parsed⟩, member,
    inside, before, took⟩

/-- A new channel is named by no subscription so far. -/
theorem Asked.make {server : String} {serverAddr : UDPAddr} (txID : TransactionID)
    {packetChans : List Nat} (run : Runs servers world identity (past ++ during) st)
    (resolved : .resolved server serverAddr ∈ during) :
    Asked past (during ++ [.made st.network.channels.length])
      (st.network.channels.length :: packetChans)
      ⟨server, serverAddr, txID, st.network.channels.length⟩ none := by
  have unnamed (event : Event W) (member : event ∈ past ++ during) :
      ¬ event.SubscribesOn st.network.channels.length := by
    rintro ⟨subID, sub, seen, channel⟩
    have known := runs_known (runs_network run) (mem_filterMap.mpr ⟨event, member, seen⟩)
    omega
  refine ⟨mem_append_left _ resolved, mem_cons_self, fun event member =>
    unnamed event (mem_append_left _ member),
    fun event member on => ?_⟩
  rcases mem_append.mp member with earlier | now
  · exact absurd on (unnamed event (mem_append_right _ earlier))
  · obtain rfl := mem_singleton.mp now
    obtain ⟨_, _, seen, _⟩ := on
    simp [Event.network] at seen

theorem Asked.subscribe {packetChans : List Nat} (before : Asked past during packetChans query none)
    (subID : UInt32) :
    Asked past (during ++ [.subscribed query subID]) packetChans query (some subID) where
  resolved := mem_append_left _ before.resolved
  own := before.own
  fresh := before.fresh
  only event member on := by
    rcases mem_append.mp member with earlier | now
    · obtain ⟨_, made, _⟩ := before.only event earlier on
      cases made
    · exact ⟨subID, rfl, mem_singleton.mp now⟩

theorem Stage.step (run : Runs servers world identity (past ++ during) st)
    (move : Move servers st events next) (before : Stage servers old past during st)
    (once : .queryAll ∉ events) :
    Stage servers old past (during ++ events) next := by
  have later : Runs servers world identity (past ++ (during ++ events)) next := by
    rw [← append_assoc]
    exact run.next move
  cases move.2 with
  | @listener _ events _ moved clear =>
    refine before.passive rfl rfl rfl ?_ ?_
    · simp [queries, filterMap_map, Function.comp_def, Event.query]
    · rintro _ member ch own ⟨subID, sub, seen, rfl⟩
      obtain ⟨event, inside, rfl⟩ := mem_map.mp member
      obtain rfl := Option.some.inj seen
      exact clear _ inside _ rfl own
  | cancel => exact before.passive rfl rfl rfl rfl (by simp)
  | queryAll => simp at once
  | exhausted point =>
    simp only [Stage, point] at before
    exact before.returned
  | cancelled point =>
    simp only [Stage, point] at before
    exact before.returned
  | attempt point =>
    simp only [Stage, point] at before
    exact before.mono rfl rfl
  | unresolved reason point =>
    simp only [Stage, point] at before
    exact ⟨before.mono rfl rfl, fun _ => nofun⟩
  | resolve serverAddr point =>
    simp only [Stage, point] at before
    exact ⟨before.mono rfl rfl, by simp⟩
  | noRandom reason point =>
    simp only [Stage, point] at before
    exact ⟨before.1.mono rfl rfl, fun _ => nofun⟩
  | make txID point moved =>
    simp only [Stage, point] at before
    cases moved
    exact ⟨before.1.mono rfl rfl, .make txID run before.2⟩
  | subscribe point moved =>
    simp only [Stage, point] at before
    exact ⟨before.1.mono rfl rfl, before.2.subscribe _⟩
  | sendRefused point | writeFails reason point | contextDone reason point | timeout point =>
    simp only [Stage, point] at before
    exact ⟨before.1.mono rfl rfl, fun _ => nofun⟩
  | send point =>
    simp only [Stage, point] at before
    exact ⟨before.1.mono rfl rfl, before.2.mono (by simp)⟩
  | write point =>
    simp only [Stage, point] at before
    exact ⟨before.1.mono rfl rfl, before.2.mono (by simp [Event.SubscribesOn, Event.network])⟩
  | receive point moved =>
    simp only [Stage, point] at before
    refine ⟨before.1.mono rfl rfl, fun addr succeeded => ?_⟩
    refine Asked.genuine (before.2.mono ?_) later (by simp) (Outcome.mapError_eq_ok.mp succeeded)
    simp [Event.SubscribesOn, Event.network]
  | unsubscribe point moved =>
    simp only [Stage, point] at before
    exact ⟨before.1.mono rfl rfl, before.2.mono _⟩
  | succeeded point =>
    simp only [Stage, point] at before
    obtain ⟨⟨failed, order, unchanged⟩, genuine⟩ := before
    rename_i rest
    refine ⟨unchanged, ⟨rest, ?_⟩, _, _, queries_append .., failed, (genuine _ rfl).mono _⟩
    simpa [queries, Event.query] using order
  | failed point =>
    simp only [Stage, point] at before
    obtain ⟨⟨failed, order, unchanged⟩, _⟩ := before
    refine ⟨?_, ?_, unchanged⟩
    · rw [queries_append]
      rintro query member addr
      rcases mem_append.mp member with earlier | now
      · exact failed query earlier addr
      · obtain rfl := mem_singleton.mp now
        exact nofun
    · simpa [queries, Event.query] using order
  | crashed point => exact before.passive rfl rfl rfl rfl (by simp)
  | publish point =>
    simp only [Stage, point] at before
    obtain ⟨_, order, failed, server, results, earlier, genuine⟩ := before
    have same : queries (during ++ [.returned]) = queries during := by
      rw [queries_append]
      exact append_nil _
    unfold Stage Discovered
    rw [same]
    exact ⟨order, .inr ⟨failed, server, _, results, earlier, rfl, genuine.mono _⟩⟩

end Worker

/-- Beside the subscription the worker holds, the table is that of the others. -/
def TableKept (past during : List (Event W)) (old : Map UInt32 (Subscription W))
    (st : State W) : Prop :=
  match st.worker.holding with
  | none => st.network.listener.subscriptions = byOthers old during
  | some subID => st.network.listener.subscriptions.erase subID = byOthers old during ∧
      subID.toNat ≤ subscriptions (networkEvents (past ++ during))

section Table
variable {servers : List String} {identity : Identity} {world : W}
  {past during events : List (Event W)}
  {old : Map UInt32 (Subscription W)} {st next : State W}

@[simp] theorem byOthers_append (first second : List (Event W)) :
    byOthers old (first ++ second) = byOthers (byOthers old first) second := foldl_append

@[simp] theorem byOthers_listener (events : List (Network.Event W)) :
    byOthers old (events.map Event.listener) = events.foldl Network.Event.register old := foldl_map

theorem subscriptions_later (past during events : List (Event W)) :
    subscriptions (networkEvents (past ++ (during ++ events))) =
      subscriptions (networkEvents (past ++ during)) + subscriptions (networkEvents events) := by
  simp only [networkEvents_append, subscriptions_append, Nat.add_assoc]

theorem TableKept.same (before : TableKept past during old st)
    (holding : next.worker.holding = st.worker.holding)
    (table : next.network.listener.subscriptions = st.network.listener.subscriptions)
    (silent : byOthers (byOthers old during) events = byOthers old during) :
    TableKept past (during ++ events) old next := by
  unfold TableKept at before ⊢
  rw [holding, table, byOthers_append, silent]
  cases held : st.worker.holding with
  | none => simpa only [held] using before
  | some subID =>
    simp only [held] at before
    refine ⟨before.1, before.2.trans ?_⟩
    rw [subscriptions_later]
    omega

theorem TableKept.step (run : Runs servers world identity (past ++ during) st)
    (move : Move servers st events next) (before : TableKept past during old st)
    (few : subscriptions (networkEvents (past ++ (during ++ events))) < 2 ^ 32) :
    TableKept past (during ++ events) old next := by
  rw [subscriptions_later] at few
  have numbered := runs_numbered (runs_network run) (by omega)
  cases move.2 with
  | listener moved =>
    have table := step_table moved
    unfold TableKept at before ⊢
    rw [byOthers_append, byOthers_listener]
    cases held : st.worker.holding with
    | none =>
      simp only [held] at before ⊢
      rw [table.register, before]
    | some subID =>
      simp only [held] at before ⊢
      rw [networkEvents_listener] at few
      refine ⟨?_, before.2.trans ?_⟩
      · rw [← before.1]
        refine table.register_erase fun more same => ?_
        have number := numbered.succ (by omega)
        rw [← same] at number
        omega
      · rw [subscriptions_later]
        omega
  | make txID point moved =>
    cases moved
    exact before.same (by simp [point, Worker.holding]) rfl rfl
  | receive point moved =>
    cases step_table moved with
    | quiet _ table => exact before.same (by simp [point, Worker.holding]) table rfl
  | subscribe point moved =>
    cases step_table moved with
    | quiet silent => simp [Network.Event.subscribes] at silent
    | subscribed table =>
      have number := numbered.succ (by simpa [networkEvents, Event.network] using few)
      unfold TableKept at before ⊢
      simp only [point, Worker.holding, byOthers_append] at before ⊢
      have absent :
          st.network.listener.subscriptions.lookup (st.network.listener.nextSubID + 1) = none := by
        by_contra present
        obtain ⟨sub, found⟩ := Option.ne_none_iff_exists'.mp present
        have bound := numbered.keys _ _ found
        omega
      refine ⟨?_, ?_⟩
      · rw [table, Map.erase_insert_self, Map.erase_absent absent, before]
        rfl
      · rw [number, subscriptions_later]
        rfl
  | unsubscribe point moved =>
    have table := (step_table moved).register
    unfold TableKept at before ⊢
    simp only [point, Worker.holding, byOthers_append] at before ⊢
    rw [table]
    exact before.1
  | cancel => exact before.same rfl rfl rfl
  | queryAll point | exhausted point | cancelled point | attempt point | sendRefused point
  | send point | write point
  | timeout point | succeeded point | failed point | crashed point | publish point =>
    exact before.same (by simp [point, Worker.holding]) rfl rfl
  | unresolved _ point | resolve _ point | noRandom _ point | writeFails _ point
  | contextDone _ point =>
    exact before.same (by simp [point, Worker.holding]) rfl rfl

end Table

/-- The exchange of the discoverer's test: the server, the mapped address it
answers with, and its answer to a request with a fixed transaction ID. -/
def testServer : UDPAddr := { ip := [127, 0, 0, 1], port := 19302 }

def mappedAddr : UDPAddr := { ip := [203, 0, 113, 50], port := 54321 }

def testTxID : TransactionID := ⟨[1, 2, 3, 4, 5, 6, 7, 8, 9, 10, 11, 12], rfl⟩

def testAnswer : Bytes :=
  [0x01, 0x01, 0x00, 0x0c, 0x21, 0x12, 0xa4, 0x42] ++ testTxID.val ++
    [0x00, 0x20, 0x00, 0x08, 0x00, 0x01, 0xf5, 0x23, 0xea, 0x12, 0xd5, 0x70]

def testQuery (ch : Nat) : Query := ⟨"127.0.0.1:19302", testServer, testTxID, ch⟩

/-- Another subscriber of the listener, interested in every packet. -/
def otherSubscriber : Subscription Unit := ⟨fun _ _ _ => true, 0⟩

theorem testAnswer_parsed : parseSTUNResponse testAnswer testTxID = .ok mappedAddr := by
  have attributes : parseAttributes (testAnswer.drop 20) testTxID 0 = .ok mappedAddr := by
    rw [parseAttributes]
    rfl
  exact attributes

theorem testAnswer_agreed (ch : Nat) : (testQuery ch).callback testServer testAnswer = true := by
  rfl

/-- The listener of the examples: started, with its readLoop. -/
def listening (buf : ReadBuffer) (point : ReadLoop Unit) : State Unit :=
  { State.initial () ⟨none⟩ with
    network := { Network.State.initial () with
      listener :=
        { UDPListener.new Unit with conn := some 0, isListening := true, cancel := some 0, wg := 1 }
      conns := [⟨false⟩]
      contexts := [⟨0, false⟩]
      running := [.readLoop 0 0 buf point] } }

/-- Its readLoop waits for a packet. -/
theorem runs_listening : Runs ["127.0.0.1:19302"] () ⟨none⟩ [.listener (.started 0)]
    (listening .make .read) := by
  have run : Runs ["127.0.0.1:19302"] () ⟨none⟩ [] (.initial () ⟨none⟩) := .refl
  have run := run.next ⟨⟨rfl, rfl⟩, .listener (.start 0 9000 rfl) (by simp [namedChannel])⟩
  have run := run.next ⟨⟨rfl, rfl⟩, .listener (.addWaitGroup (rfl : _ = [] ++ _ :: [])) (by simp)⟩
  have run := run.next ⟨⟨rfl, rfl⟩, .listener (.spawn (rfl : _ = [] ++ _ :: [])) (by simp)⟩
  have run := run.next ⟨⟨rfl, rfl⟩, .listener (.enter (rfl : _ = [] ++ _ :: []) rfl rfl) (by simp)⟩
  exact run

section Main
variable {servers : List String} {world : W} {identity : Identity} {past during : List (Event W)}
  {st called final : State W}

theorem step_queryAll (call : Step servers st [.queryAll] called) :
    st.worker = .idle ∧ called = { st with worker := .next servers } := by
  generalize label : [Event.queryAll] = events at call
  cases call with
  | listener =>
    have member := mem_singleton_self (Event.queryAll (W := W))
    rw [label] at member
    simp at member
  | queryAll idle => exact ⟨idle, rfl⟩
  | _ => cases label

/-- One call of queryAll, whatever happens around it: the public address stays
or is that of the first server that answered, taken from a packet that was
offered to its query after the query had subscribed; and whenever queryServer
holds no subscription, the table is as the other subscribers have left it. -/
theorem publicAddr_provenance (reached : Runs servers world identity past st)
    (call : Move servers st [.queryAll] called) (run : Run (Move servers) called during final)
    (single : .queryAll ∉ during)
    (few : subscriptions (networkEvents (past ++ [.queryAll] ++ during)) < 2 ^ 32) :
    (final.worker = .idle →
    Discovered servers (past ++ [.queryAll]) during st.identity final.identity) ∧
      (final.worker.holding = none →
        final.network.listener.subscriptions =
          byOthers st.network.listener.subscriptions during) := by
  obtain ⟨idle, rfl⟩ := step_queryAll call.2
  have start : Runs servers world identity (past ++ [.queryAll]) _ := reached.next call
  have held : Stage servers st.identity (past ++ [.queryAll]) during final ∧
      TableKept (past ++ [.queryAll]) during st.network.listener.subscriptions final := by
    revert single few
    apply Run.invariant_reached (P := fun (during : List (Event W)) final =>
      Event.queryAll ∉ during →
      subscriptions (networkEvents (past ++ [Event.queryAll] ++ during)) < 2 ^ 32 →
      Stage servers st.identity (past ++ [Event.queryAll]) during final ∧
        TableKept (past ++ [Event.queryAll]) during st.network.listener.subscriptions final) _ _ run
    · intro _ _
      exact ⟨⟨fun query member => absurd member not_mem_nil, rfl, rfl⟩, rfl⟩
    · intro during before events next run ih move single few
      have earlier := ih (fun member => single (mem_append_left _ member)) (by
        rw [subscriptions_later] at few
        omega)
      exact ⟨earlier.1.step (start.trans run) move fun member => single (mem_append_right _ member),
        earlier.2.step (start.trans run) move few⟩
  constructor
  · intro returned
    have stage := held.1
    simpa only [Stage, returned] using stage
  · intro free
    have table := held.2
    simpa only [TableKept, free] using table

end Main

/-- The listener with another subscriber. -/
def attended : State Unit :=
  { listening .make .read with
    network.channels := [⟨.make 4, 0⟩]
    network.listener.subscriptions := (∅ : Map UInt32 (Subscription Unit)).insert 1 otherSubscriber
    network.listener.nextSubID := 1 }

theorem publicAddr_provenance_answered :
    ∃ (past during : List (Event Unit)) (st called final : State Unit),
    Runs ["127.0.0.1:19302"] () ⟨none⟩ past st ∧ Move ["127.0.0.1:19302"] st [.queryAll] called ∧
      Run (Move ["127.0.0.1:19302"]) called during final ∧ .queryAll ∉ during ∧
      subscriptions (networkEvents (past ++ [.queryAll] ++ during)) < 2 ^ 32 ∧
      final.identity = ⟨some mappedAddr⟩ ∧
      Discovered ["127.0.0.1:19302"] (past ++ [.queryAll]) during st.identity final.identity ∧
      final.network.listener.subscriptions = byOthers st.network.listener.subscriptions during := by
  -- another subscriber, which is offered every packet too
  have run := runs_listening.next ⟨⟨rfl, rfl⟩, .listener (.make 4) (by simp [namedChannel])⟩
  have run := run.next ⟨⟨rfl, rfl⟩, .listener
    (.subscribe (rfl : UDPListener.subscribeToPacketReceived _ (some otherSubscriber.callback)
      (some 0) = _) (by decide))
    (by simp [listening, State.initial])⟩
  have during : Run (Move ["127.0.0.1:19302"])
    { attended with worker := .next ["127.0.0.1:19302"] } _ _ := .refl
  have during := during.next ⟨⟨rfl, rfl⟩, .attempt rfl rfl⟩
  have during := during.next ⟨⟨rfl, rfl⟩, .resolve testServer rfl⟩
  have during := during.next ⟨⟨rfl, rfl⟩, .make testTxID rfl (.make 1)⟩
  have during := during.next ⟨⟨rfl, rfl⟩, .subscribe rfl (.subscribe rfl (by decide))⟩
  have during := during.next ⟨⟨rfl, rfl⟩, .send rfl rfl⟩
  have during := during.next ⟨⟨rfl, rfl⟩, .write rfl rfl⟩
  have during := during.next ⟨⟨rfl, rfl⟩, .listener
    (.receive testServer testAnswer (rfl : _ = [] ++ _ :: []) rfl rfl) (by simp [namedChannel])⟩
  have during := during.next ⟨⟨rfl, rfl⟩, .listener (.copy (rfl : _ = [] ++ _ :: [])) (by simp)⟩
  have during := during.next ⟨⟨rfl, rfl⟩, .listener
    (.snapshot [(2, (testQuery 1).subscription), (1, otherSubscriber)]
      (rfl : _ = [] ++ _ :: []) (.refl _))
    (by simp [namedChannel])⟩
  have during := during.next ⟨⟨rfl, rfl⟩, .listener (.offer (rfl : _ = [] ++ _ :: [])) (by simp)⟩
  have during := during.next ⟨⟨rfl, rfl⟩, .listener (.offer (rfl : _ = [] ++ _ :: [_])) (by simp)⟩
  have during := during.next ⟨⟨rfl, rfl⟩, .listener
    (.accept (rfl : _ = [_] ++ _ :: [_]) (testAnswer_agreed 1)) (by simp [namedChannel])⟩
  have during := during.next ⟨⟨rfl, rfl⟩, .listener
    (.deliver (rfl : _ = [_] ++ _ :: [_]) rfl rfl) (by simp [namedChannel])⟩
  have during := during.next ⟨⟨rfl, rfl⟩, .receive rfl (.take rfl rfl)⟩
  have during := during.next ⟨⟨rfl, rfl⟩, .unsubscribe rfl (.unsubscribe rfl)⟩
  have during := during.next ⟨⟨rfl, rfl⟩, .succeeded
    (congrArg (fun result => Worker.leave _ _ (Outcome.mapError .parse result)) testAnswer_parsed)⟩
  have during := during.next ⟨⟨rfl, rfl⟩, .publish rfl⟩
  have call : Move ["127.0.0.1:19302"] attended [.queryAll]
    { attended with worker := .next ["127.0.0.1:19302"] } := ⟨⟨rfl, rfl⟩, .queryAll rfl⟩
  obtain ⟨discovered, table⟩ := publicAddr_provenance run call during (by simp) (by decide)
  exact ⟨_, _, _, _, _, run, call, during,
    by simp, by decide, rfl, discovered rfl,
    table rfl⟩

/-- A packet that has been read before queryAll is called may still be offered to
its query: the read of the socket and the snapshot of the table are two steps. -/
theorem received_before_subscription :
    ∃ (past during : List (Event Unit)) (st called final : State Unit),
    Runs ["127.0.0.1:19302"] () ⟨none⟩ past st ∧ Move ["127.0.0.1:19302"] st [.queryAll] called ∧
      Run (Move ["127.0.0.1:19302"]) called during final ∧ .queryAll ∉ during ∧
      subscriptions (networkEvents (past ++ [.queryAll] ++ during)) < 2 ^ 32 ∧
      final.worker = .idle ∧ final.identity ≠ st.identity ∧
      ¬ ∃ query subID source payload addr, final.identity.publicAddr = some addr ∧
        Answers query (.arriving source payload) addr ∧
        [.subscribed query subID, .listener (.received source payload)] <+ during := by
  have run := runs_listening.next ⟨⟨rfl, rfl⟩, .listener
    (.receive testServer testAnswer (rfl : _ = [] ++ _ :: []) rfl rfl) (by simp [namedChannel])⟩
  let reading := listening (ReadBuffer.make.readFrom testAnswer).2
    (.copy testServer (ReadBuffer.make.readFrom testAnswer).1)
  have during : Run (Move ["127.0.0.1:19302"])
    { reading with worker := .next ["127.0.0.1:19302"] } _ _ := .refl
  have during := during.next ⟨⟨rfl, rfl⟩, .attempt rfl rfl⟩
  have during := during.next ⟨⟨rfl, rfl⟩, .resolve testServer rfl⟩
  have during := during.next ⟨⟨rfl, rfl⟩, .make testTxID rfl (.make 1)⟩
  have during := during.next ⟨⟨rfl, rfl⟩, .subscribe rfl (.subscribe rfl (by decide))⟩
  have during := during.next ⟨⟨rfl, rfl⟩, .listener (.copy (rfl : _ = [] ++ _ :: [])) (by simp)⟩
  have during := during.next ⟨⟨rfl, rfl⟩, .listener
    (.snapshot [(1, (testQuery 0).subscription)] (rfl : _ = [] ++ _ :: []) (.refl _))
      (by simp [namedChannel])⟩
  have during := during.next ⟨⟨rfl, rfl⟩, .listener (.offer (rfl : _ = [] ++ _ :: [])) (by simp)⟩
  have during := during.next ⟨⟨rfl, rfl⟩, .listener
    (.accept (rfl : _ = [_] ++ _ :: []) (testAnswer_agreed 0)) (by simp [namedChannel])⟩
  have during := during.next ⟨⟨rfl, rfl⟩, .listener
    (.deliver (rfl : _ = [_] ++ _ :: []) rfl rfl) (by simp [namedChannel])⟩
  have during := during.next ⟨⟨rfl, rfl⟩, .send rfl rfl⟩
  have during := during.next ⟨⟨rfl, rfl⟩, .write rfl rfl⟩
  have during := during.next ⟨⟨rfl, rfl⟩, .receive rfl (.take rfl rfl)⟩
  have during := during.next ⟨⟨rfl, rfl⟩, .unsubscribe rfl (.unsubscribe rfl)⟩
  have during := during.next ⟨⟨rfl, rfl⟩, .succeeded
    (congrArg (fun result => Worker.leave _ _ (Outcome.mapError .parse result)) testAnswer_parsed)⟩
  have during := during.next ⟨⟨rfl, rfl⟩, .publish rfl⟩
  refine ⟨_, _, reading, _, _, run, ⟨⟨rfl, rfl⟩, .queryAll rfl⟩, during,
    by simp, by decide, rfl, by decide, ?_⟩
  rintro ⟨query, subID, source, payload, addr, _, _, ordered⟩
  have received := ordered.subset (mem_cons_of_mem _ mem_cons_self)
  simp at received

end GotaDaemon.Stun
