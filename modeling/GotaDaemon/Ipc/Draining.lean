import GotaDaemon.Go.WaitGroup
import GotaDaemon.Ipc.InboundDelivery
import GotaDaemon.Ipc.Shutdown

/-! What is left to do once nobody calls the manager any more: the goroutines in
flight come to an end in whatever order they run, and a Close in progress
returns. Clients that neither send, nor read, nor hang up do not prevent it. -/
namespace GotaDaemon.Ipc
open Go Transition

/-- The activation can go on from here to one below the bound. -/
def Act.Below {K : Type} (rank : K → Nat) (bound : Nat) : Act K → Prop
  | .proceed activation => rank activation < bound
  | .send _ _ resume => ∀ result, rank (resume result) < bound
  | .finish => True

/-- Control callbacks that never block and return after at most `limit` moves. -/
structure Prompt {W K L : Type} (client : Client W K L) where
  rank : K → Nat
  limit : Nat
  bounded : ∀ activation, rank activation ≤ limit
  moves : ∀ world activation, ∃ label later act, client.step world activation label later act
  falls : ∀ {world activation label later act},
    client.step world activation label later act → act.Below rank (rank activation)

/-- The event tells of something that comes from outside. -/
def Event.external {K L : Type} : Event K L → Bool
  | .registered _ _ _ | .setOnClose _ | .setControlCallback _ | .sendCalled _ | .interfered _
  | .session _ (.arrived _) => true
  | _ => false

def Goroutine.isCall : Goroutine → Bool
  | .unregister .caller _ | .send _ | .close _ => true
  | .unregister (.dropped _) _ | .unregister (.loop _ _) _ => false

/-- The number of calls of the manager in progress. -/
def State.called {W K : Type} (st : State W K) : Nat := st.running.countP Goroutine.isCall

def ReadLoop.awaiting {K : Type} : ReadLoop K → Bool
  | .header | .body _ _ => true
  | _ => false

/-- A move of the goroutines in flight: nobody calls the manager, nothing
arrives, and a read fails only on a connection that has been closed. -/
structure Inner {W K L : Type} (client : Client W K L) (st : State W K) (events : List (Event K L))
    (next : State W K) : Prop where
  move : Move client st events next
  changed : next ≠ st
  quiet : ∀ event ∈ events, event.external = false
  uncalled : next.called ≤ st.called
  reads : ∀ {index : Nat} {sess later : SessionState K}, st.heap[index]? = some sess →
    next.heap[index]? = some later → sess.reader.awaiting = true → later.reader = .deferred →
    0 < sess.conn.closes

def Goroutine.inWait : Goroutine → Bool
  | .close (.conns []) => true
  | _ => false

/-- Its loops are counted, and Close waits for them at its end. -/
def waitGroup {W K : Type} : WaitGroup (State W K) where
  counter := State.wg
  waiting st := st.running.countP Goroutine.inWait

/-- The session's loops have nothing to do: what has arrived ends before the
next frame does, and what was accepted has been sent. -/
structure Idle {W K : Type} (st : State W K) (index : Nat) (sess : SessionState K) : Prop where
  mapped : index ∈ st.sessions.values
  isOpen : sess.isClosed = false
  waiting : sess.conn.inbound.length < sess.reader.wants
  writing : sess.writer = .select
  empty : sess.outbound.buffer = []

/-- What a packet in a queue costs the writeLoop. -/
def packetCost : Nat := maxPacketSize + 20

def Unregister.cost : Unregister → Nat
  | .enter _ => 8
  | .once _ _ _ => 7
  | .writeMu _ _ _ => 6
  | .closeConn _ _ _ => 5
  | .callback _ _ _ _ => 4
  | .leave _ _ _ => 3
  | .finish _ => 2

def Send.cost : Send → Nat
  | .lookup _ _ => packetCost + 11
  | .enqueue _ _ _ => packetCost + 10
  | .drop _ _ => 9

/-- With the number of entries in the map, which Close takes over. -/
def Close.cost (mapped : Nat) : Close → Nat
  | .cancel => mapped + 3
  | .reset => mapped + 2
  | .conns rest => rest.length + 1

def Goroutine.cost (mapped : Nat) : Goroutine → Nat
  | .unregister _ point => point.cost
  | .send point => point.cost
  | .close point => point.cost mapped

/-- What a SendToLocal leads to: the packet in a queue, or an UnregisterSession. -/
def SendNext.cost : SendNext → Nat
  | .running point => point.cost
  | .returned _ => 0
  | .dropped did _ => (Unregister.enter did).cost

def WriteLoop.cost : WriteLoop → Nat
  | .select => 9
  | .packet _ => packetCost + 8
  | .header pkt rest => 12 + rest.length + pkt.data.length
  | .body rest => 10 + rest.length
  | .deferred | .exited => 0

section Cost
variable {W K L : Type} {client : Client W K L}

namespace Prompt

/-- What one move of a callback can cause. -/
def moveCost : Nat := packetCost + 20

/-- The rank of what a call returns to, whatever it returns. -/
def after (prompt : Prompt client) (call : Send) (resume : Except SendError Unit → K) : Nat :=
  max (max (prompt.rank (resume (.ok ()))) (prompt.rank (resume (.error (.notFound call.did)))))
    (max (prompt.rank (resume (.error (.closed call.did))))
      (prompt.rank (resume (.error .sessionBlocked))))

def readerCost (prompt : Prompt client) : ReadLoop K → Nat
  | .select => 10
  | .header => 9
  | .body _ _ => 13 + moveCost * prompt.limit
  | .frame _ _ => 12 + moveCost * prompt.limit
  | .control activation => 11 + moveCost * prompt.rank activation
  | .sending call resume => 11 + moveCost * prompt.after call resume + call.cost
  | .deferred | .exited => 0

/-- A header takes four bytes off the connection, which pay for its frame. -/
def byteCost (prompt : Prompt client) : Nat := 10 + moveCost * prompt.limit

def sessionCost (prompt : Prompt client) (sess : SessionState K) : Nat :=
  prompt.readerCost sess.reader + prompt.byteCost * sess.conn.inbound.length +
    sess.writer.cost + packetCost * sess.outbound.buffer.length

/-- Cancelling the context is one of the things left to do. -/
def cost (prompt : Prompt client) (st : State W K) : Nat :=
  (st.running.map (Goroutine.cost st.sessions.values.length)).sum +
    (st.heap.map prompt.sessionCost).sum + if st.cancelled then 0 else 1

end Prompt

end Cost

variable {W K L : Type} {client : Client W K L} {world : W} {st next : State W K}
  {events more : List (Event K L)} {index : Nat} {sess later : SessionState K}

section Sums

theorem sum_map_set {α : Type} {xs : List α} {position : Nat} {old : α} (f : α → Nat)
    (held : xs[position]? = some old) (new : α) :
    ((xs.set position new).map f).sum + f old = (xs.map f).sum + f new := by
  induction xs generalizing position with
  | nil => simp at held
  | cons head rest ih =>
    cases position with
    | zero =>
      obtain rfl : head = old := by simpa using held
      simp only [List.set_cons_zero, List.map_cons, List.sum_cons]
      omega
    | succ position =>
      have below := ih (by simpa using held)
      simp only [List.set_cons_succ, List.map_cons, List.sum_cons]
      omega

theorem Goroutine.cost_mono {fewer mapped : Nat} (le : fewer ≤ mapped) (goroutine : Goroutine) :
    goroutine.cost fewer ≤ goroutine.cost mapped := by
  cases goroutine with
  | unregister | send => exact Nat.le_refl _
  | close point => cases point <;> simp only [Goroutine.cost, Close.cost] <;> omega

theorem sum_cost_mono {fewer mapped : Nat} (le : fewer ≤ mapped) (running : List Goroutine) :
    (running.map (Goroutine.cost fewer)).sum ≤ (running.map (Goroutine.cost mapped)).sum :=
  List.sum_le_sum fun goroutine _ => goroutine.cost_mono le

end Sums

section Falls
variable (prompt : Prompt client) (mapped : Nat)

theorem header_length (pkt : OutboundPacket) : pkt.header.length = 6 := by
  simp [OutboundPacket.header, BigEndian.put_length]

/-- A write of no bytes changes nothing; every other move of writeLoop leaves
less to do. -/
theorem writer_cost {own : List SessionEvent} {cancelled : Bool}
    (moved : WriterStep cancelled sess own later) (index : Nat) :
    (later = sess ∧ deferredWriter index later = []) ∨
    prompt.sessionCost later + ((deferredWriter index later).map (Goroutine.cost mapped)).sum <
      prompt.sessionCost sess := by
  obtain ⟨did, conn, outbound, isClosed, closeOnce, reader, writer⟩ := sess
  cases moved with
  | cancelled at_ | headerFailed at_ | bodyFailed at_ | tooLong at_ =>
    right
    cases at_
    simp only [Prompt.sessionCost, WriteLoop.cost, deferredWriter, Goroutine.cost, Unregister.cost,
      List.map_singleton, List.sum_singleton, packetCost]
    omega
  | drained at_ received =>
    right
    cases at_
    rw [(Chan.recv_none received).2.2]
    simp only [Prompt.sessionCost, WriteLoop.cost, deferredWriter, Goroutine.cost, Unregister.cost,
      List.map_singleton, List.sum_singleton]
    omega
  | receive at_ received =>
    right
    cases at_
    have taken := congrArg List.length (Chan.recv_some received).1
    dsimp only at taken
    simp only [Prompt.sessionCost, WriteLoop.cost, deferredWriter, List.map_nil, List.sum_nil,
      taken, List.length_cons, Nat.mul_succ]
    omega
  | start at_ fits =>
    right
    cases at_
    simp only [Prompt.sessionCost, WriteLoop.cost, deferredWriter, List.map_nil, List.sum_nil,
      header_length, packetCost]
    omega
  | @writeHeader _ chunk pkt rest at_ | @writeBody _ chunk rest at_ =>
    cases at_
    cases chunk with
    | nil => exact .inl ⟨by simp, rfl⟩
    | cons =>
      right
      simp only [Prompt.sessionCost, WriteLoop.cost, deferredWriter, List.map_nil, List.sum_nil,
        List.length_append, List.length_cons]
      omega
  | headerDone at_ | emptyDone at_ | bodyDone at_ =>
    right
    cases at_
    simp only [Prompt.sessionCost, WriteLoop.cost, deferredWriter, List.map_nil, List.sum_nil]
    omega

theorem reader_cost {own : List SessionEvent} {cancelled : Bool}
    {onControl : Option (ControlCallback K)}
    (moved : ReaderStep cancelled onControl sess own later) (index : Nat) :
    prompt.sessionCost later + ((deferredReader index later).map (Goroutine.cost mapped)).sum <
      prompt.sessionCost sess := by
  obtain ⟨did, conn, outbound, isClosed, closeOnce, reader, writer⟩ := sess
  cases moved with
  | cancelled at_ | headerFailed at_ | bodyFailed at_ =>
    cases at_
    simp only [Prompt.sessionCost, Prompt.readerCost, deferredReader, Goroutine.cost,
      Unregister.cost, List.map_singleton, List.sum_singleton]
    omega
  | proceed at_ | ignore at_ =>
    cases at_
    simp only [Prompt.sessionCost, Prompt.readerCost, deferredReader, List.map_nil, List.sum_nil]
    omega
  | readHeader at_ read =>
    cases at_
    obtain ⟨four, input⟩ := readFull_some read
    have taken := congrArg List.length input
    rw [List.length_append, four] at taken
    dsimp only at taken
    simp only [Prompt.sessionCost, Prompt.readerCost, deferredReader, List.map_nil, List.sum_nil,
      taken, Nat.mul_add, Prompt.byteCost]
    omega
  | readBody at_ read =>
    cases at_
    obtain ⟨_, input⟩ := readFull_some read
    have taken := congrArg List.length input
    rw [List.length_append] at taken
    dsimp only at taken
    simp only [Prompt.sessionCost, Prompt.readerCost, deferredReader, List.map_nil, List.sum_nil,
      taken, Nat.mul_add]
    omega
  | call at_ =>
    rename_i callback opcode payload _
    cases at_
    have limited := Nat.mul_le_mul_left Prompt.moveCost
      (prompt.bounded (callback did opcode payload))
    simp only [Prompt.sessionCost, Prompt.readerCost, deferredReader, List.map_nil, List.sum_nil]
    omega

/-- A session's record is stored without its loops having moved. -/
theorem cost_stored {heap : List (SessionState K)} (held : heap[index]? = some sess)
    (same : prompt.sessionCost later = prompt.sessionCost sess) :
    ((heap.set index later).map prompt.sessionCost).sum = (heap.map prompt.sessionCost).sum := by
  have total := sum_map_set prompt.sessionCost held later
  omega

theorem send_cost {point : Send} {result : SendNext} (step : SendStep st point events next result)
    (calm : ∀ event ∈ events, event.isPanic = false) :
    (next.heap.map prompt.sessionCost).sum + result.cost <
      (st.heap.map prompt.sessionCost).sum + point.cost := by
  cases step with
  | found | missing | closed | drop =>
    simp only [SendNext.cost, Send.cost, Unregister.cost, packetCost]
    omega
  | accepted held offered =>
    rename_i sess later _ _
    obtain ⟨_, outbound, sent, rfl⟩ := offer_ok offered
    have longer := congrArg List.length (Chan.trySend_some sent).2.2.1
    have total := sum_map_set prompt.sessionCost held { sess with outbound := outbound }
    simp only [Prompt.sessionCost, longer, List.length_append, List.length_singleton, Nat.mul_succ]
      at total
    simp only [State.put_heap, SendNext.cost, Send.cost]
    omega
  | blocked held offered =>
    obtain ⟨_, _, _, rfl⟩ := offer_ok offered
    rw [State.put_heap, cost_stored prompt held]
    · simp only [SendNext.cost, Send.cost]
      omega
    · rfl
  | panicked => simp [Event.isPanic] at calm

variable {before after : List Goroutine} {old new : Goroutine}

/-- The context stays cancelled. -/
theorem cancelled_cost (kept : st.cancelled = true → next.cancelled = true) :
    (if next.cancelled then 0 else 1) ≤ if st.cancelled then 0 else 1 := by
  cases was : st.cancelled with
  | true => simp [kept was]
  | false => split <;> simp

/-- A goroutine goes on and comes closer to its end. -/
theorem cost_replaced (located : st.running = before ++ old :: after)
    (moved : next.running = before ++ new :: after)
    (fewer : next.sessions.values.length ≤ st.sessions.values.length)
    (cheaper : new.cost next.sessions.values.length < old.cost st.sessions.values.length)
    (heap : (next.heap.map prompt.sessionCost).sum = (st.heap.map prompt.sessionCost).sum)
    (kept : st.cancelled = true → next.cancelled = true) :
    prompt.cost next < prompt.cost st := by
  have others := sum_cost_mono fewer (before ++ after)
  have context := cancelled_cost kept
  simp only [Prompt.cost, Pool.sum _ located, Pool.sum _ moved, heap]
  omega

/-- A goroutine ends, perhaps a loop with it. -/
theorem cost_removed (located : st.running = before ++ old :: after)
    (moved : next.running = before ++ after) (positive : 0 < old.cost st.sessions.values.length)
    (sessions : next.sessions = st.sessions)
    (heap : (next.heap.map prompt.sessionCost).sum ≤ (st.heap.map prompt.sessionCost).sum)
    (kept : st.cancelled = true → next.cancelled = true) :
    prompt.cost next < prompt.cost st := by
  have context := cancelled_cost kept
  simp only [Prompt.cost, Pool.sum _ located, moved, sessions]
  omega

theorem closeOutbound_buffer (closed : sess.closeOutbound = .ok later) :
    prompt.sessionCost later = prompt.sessionCost sess := by
  cases wasClosed : sess.isClosed with
  | false =>
    obtain ⟨_, rfl⟩ := closeOutbound_ok wasClosed closed
    rfl
  | true =>
    simp only [SessionState.closeOutbound, wasClosed, if_true, Except.ok.injEq] at closed
    rw [closed]

theorem loopDone_cost (sess : SessionState K) (which : Loop) :
    prompt.sessionCost (sess.loopDone which) ≤ prompt.sessionCost sess := by
  cases which <;>
    simp only [SessionState.loopDone, Prompt.sessionCost, Prompt.readerCost, WriteLoop.cost] <;>
    omega

theorem send_cancelled {point : Send} {result : SendNext}
    (step : SendStep st point events next result) : next.cancelled = st.cancelled := by
  cases step <;> rfl

/-- Each of the calls a control callback makes brings it closer to its end. -/
theorem act_cost {activation : K} {act : Act K}
    (below : act.Below prompt.rank (prompt.rank activation)) :
    prompt.readerCost act.reader < prompt.readerCost (.control activation) := by
  cases act with
  | proceed next =>
    have less : prompt.rank next < prompt.rank activation := below
    have product := Nat.mul_le_mul_left Prompt.moveCost (Nat.succ_le_of_lt less)
    simp only [Nat.mul_succ, Prompt.moveCost] at product
    simp only [Act.reader, Prompt.readerCost, Prompt.moveCost]
    omega
  | send did pkt resume =>
    have less : prompt.after (.lookup did pkt) resume < prompt.rank activation := by
      simp only [Prompt.after, Nat.max_lt]
      exact ⟨⟨below _, below _⟩, below _, below _⟩
    have product := Nat.mul_le_mul_left Prompt.moveCost (Nat.succ_le_of_lt less)
    simp only [Nat.mul_succ, Prompt.moveCost] at product
    simp only [Act.reader, Prompt.readerCost, Send.cost, Prompt.moveCost]
    omega
  | finish =>
    simp only [Act.reader, Prompt.readerCost]
    omega

theorem after_bounds (call : Send) (resume : Except SendError Unit → K) :
    prompt.rank (resume (.ok ())) ≤ prompt.after call resume ∧
    prompt.rank (resume (.error (.notFound call.did))) ≤ prompt.after call resume ∧
    prompt.rank (resume (.error (.closed call.did))) ≤ prompt.after call resume ∧
    prompt.rank (resume (.error .sessionBlocked)) ≤ prompt.after call resume := by
  simp only [Prompt.after]
  omega

/-- Where a callback stands after its SendToLocal, with what that has started. -/
theorem result_cost {point : Send} {result : SendNext} (step : SendStep st point events next result)
    (resume : Except SendError Unit → K) (mapped : Nat) :
    prompt.readerCost (result.reader resume) +
      (result.spawned.map (Goroutine.cost mapped)).sum ≤
      11 + Prompt.moveCost * prompt.after point resume + result.cost := by
  obtain ⟨ok, notFound, closed, blocked⟩ := after_bounds prompt point resume
  cases step with
  | found | blocked | panicked =>
    simp only [SendNext.reader, SendNext.spawned, SendNext.cost, Prompt.readerCost, Prompt.after,
      Send.did, List.map_nil, List.sum_nil]
    omega
  | missing =>
    have product := Nat.mul_le_mul_left Prompt.moveCost notFound
    simpa [SendNext.reader, SendNext.spawned, SendNext.cost, Prompt.readerCost, Send.did]
      using product
  | accepted =>
    have product := Nat.mul_le_mul_left Prompt.moveCost ok
    simpa [SendNext.reader, SendNext.spawned, SendNext.cost, Prompt.readerCost] using product
  | closed =>
    have product := Nat.mul_le_mul_left Prompt.moveCost closed
    simpa [SendNext.reader, SendNext.spawned, SendNext.cost, Prompt.readerCost, Send.did]
      using product
  | drop =>
    have product := Nat.mul_le_mul_left Prompt.moveCost blocked
    simpa [SendNext.reader, SendNext.spawned, SendNext.cost, Prompt.readerCost, Goroutine.cost]
      using product

theorem caller_cost (result : SendNext) :
    (result.caller.map (Goroutine.cost mapped)).sum +
      (result.spawned.map (Goroutine.cost mapped)).sum = result.cost := by
  cases result <;> rfl

/-- A loop has moved, with the goroutines it may have started. -/
theorem cost_put (held : st.heap[index]? = some sess) {started : List Goroutine}
    (heap : next.heap = st.heap.set index later) (running : next.running = st.running ++ started)
    (sessions : next.sessions = st.sessions) (context : next.cancelled = st.cancelled)
    (cheaper : prompt.sessionCost later +
      (started.map (Goroutine.cost st.sessions.values.length)).sum < prompt.sessionCost sess) :
    prompt.cost next < prompt.cost st := by
  have total := sum_map_set prompt.sessionCost held later
  simp only [Prompt.cost, heap, running, sessions, context, List.map_append, List.sum_append]
  omega

/-- Every move of the goroutines in flight leaves less to do. -/
theorem step_cost (step : Step client st events next) (changed : next ≠ st)
    (quiet : ∀ event ∈ events, event.external = false) (uncalled : next.called ≤ st.called)
    (calm : ∀ event ∈ events, event.isPanic = false) : prompt.cost next < prompt.cost st := by
  cases step with
  | register | setOnClose | setControlCallback | callSend | arrive | interfere =>
    simp [Event.external] at quiet
  | closeOutboundPanics => simp [Event.isPanic] at calm
  | registerNil => exact absurd rfl changed
  | callUnregister | callClose =>
    simp [State.called, State.spawn, Goroutine.isCall] at uncalled
  | cancel =>
    cases was : st.cancelled with
    | true =>
      refine absurd ?_ changed
      rw [← was]
    | false => simp [Prompt.cost, was]
  | take located found =>
    refine cost_replaced prompt located rfl ?_ (by simp [Goroutine.cost, Unregister.cost]) rfl id
    exact ((List.kerase_sublist _ _).map _).length_le
  | takeMissing located | onceSkip located | runOnClose located | skipOnClose located =>
    exact cost_replaced prompt located rfl (Nat.le_refl _)
      (by simp [Goroutine.cost, Unregister.cost]) rfl id
  | onceEnter located held | closeConn _ located held | onceLeave located held =>
    exact cost_replaced prompt located rfl (Nat.le_refl _)
      (by simp [Goroutine.cost, Unregister.cost]) (cost_stored prompt held rfl) id
  | closeOutbound located held closed =>
    exact cost_replaced prompt located rfl (Nat.le_refl _)
      (by simp [Goroutine.cost, Unregister.cost])
      (cost_stored prompt held (closeOutbound_buffer prompt closed)) id
  | closeCancel located =>
    exact cost_replaced prompt located rfl (Nat.le_refl _) (by simp [Goroutine.cost, Close.cost])
      rfl fun _ => rfl
  | closeReset _ located active =>
    exact cost_replaced prompt located rfl (Nat.zero_le _)
      (by simp [Goroutine.cost, Close.cost, active.length_eq]) rfl id
  | closeNext located held =>
    exact cost_replaced prompt located rfl (Nat.le_refl _) (by simp [Goroutine.cost, Close.cost])
      (cost_stored prompt held rfl) id
  | unregistered located =>
    exact cost_removed prompt located rfl (by simp [Goroutine.cost, Unregister.cost]) rfl
      (Nat.le_refl _) id
  | closeWait located =>
    exact cost_removed prompt located rfl (by simp [Goroutine.cost, Close.cost]) rfl
      (Nat.le_refl _) id
  | loopDone located held =>
    rename_i sess which _
    refine cost_removed prompt located rfl (by simp [Goroutine.cost, Unregister.cost]) rfl ?_ id
    have total := sum_map_set prompt.sessionCost held (sess.loopDone which)
    have cheaper := loopDone_cost prompt sess which
    rw [State.put_heap]
    omega
  | @send _ _ _ _ _ _ result located sent =>
    have cheaper := send_cost prompt sent calm
    have parts := caller_cost st.sessions.values.length result
    simp only [Prompt.cost, Pool.sum _ located, (send_frame sent).2.2.1, send_cancelled sent,
      List.map_append, List.sum_append, Goroutine.cost]
    omega
  | writer held moved =>
    rename_i index sess _ later
    rcases writer_cost prompt st.sessions.values.length moved index with ⟨rfl, none⟩ | cheaper
    · refine absurd ?_ changed
      obtain ⟨bound, rfl⟩ := List.getElem?_eq_some_iff.mp held
      rw [none]
      simp [State.put, State.spawn]
    · exact cost_put prompt held rfl rfl rfl rfl cheaper
  | reader held moved => exact cost_put prompt held rfl rfl rfl rfl (reader_cost prompt _ moved _)
  | control held running moved =>
    have cheaper := act_cost prompt (prompt.falls moved)
    refine cost_put prompt held rfl (List.append_nil _).symm rfl rfl ?_
    simp only [Prompt.sessionCost, running, List.map_nil, List.sum_nil]
    omega
  | controlSend held running moved reached =>
    rename_i index sess call later result sent resume
    obtain ⟨_, _, sessions, goroutines, _⟩ := send_frame moved
    have point := (send_reader moved held reached).trans running
    have first := send_cost prompt moved calm
    have second := result_cost prompt moved resume st.sessions.values.length
    have total :=
      sum_map_set prompt.sessionCost reached { sent with reader := result.reader resume }
    have was : prompt.readerCost sent.reader =
        11 + Prompt.moveCost * prompt.after call resume + call.cost := by
      rw [point, Prompt.readerCost]
    simp only [Prompt.sessionCost, was] at total
    simp only [Prompt.cost, State.spawn_running, State.spawn_sessions, State.spawn_heap,
      State.spawn_cancelled, State.put_running, State.put_sessions, State.put_heap,
      State.put_cancelled, sessions, goroutines, send_cancelled moved, List.map_append,
      List.sum_append]
    omega

end Falls

end GotaDaemon.Ipc
