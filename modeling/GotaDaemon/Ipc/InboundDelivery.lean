import GotaDaemon.Core.Behaviour
import GotaDaemon.Ipc.InboundStream
import GotaDaemon.Ipc.Teardown

/-! What becomes of the bytes a client sends before it closes its end, while the
manager runs with a control callback: readLoop hands every whole frame to the
callback and ends. The bytes arrive in pieces of any size at any time. -/
namespace GotaDaemon.Ipc
open Go Transition BigEndian

/-- A stream is the encodings of some frames and a part of another. -/
structure Decomposes (stream : List UInt8) (frames : List (UInt16 × List UInt8))
    (tail : List UInt8) : Prop where
  sizes : ∀ frame ∈ frames, frame.2.length ≤ 65535
  whole : stream = (frames.flatMap fun frame =>
    put 2 frame.1.toNat ++ (put 2 frame.2.length ++ frame.2)) ++ tail
  cut : ∃ (opcode : UInt16) (payload missing : List UInt8), payload.length ≤ 65535 ∧
    missing ≠ [] ∧ put 2 opcode.toNat ++ (put 2 payload.length ++ payload) = tail ++ missing

section Points
variable {K : Type}

/-- The number of bytes readLoop is waiting for. -/
def ReadLoop.wants : ReadLoop K → Nat
  | .header => 4
  | .body _ length => length.toNat
  | _ => 0

/-- The frame that has been read and not yet been handed over. -/
def ReadLoop.pending : ReadLoop K → List (UInt16 × List UInt8)
  | .frame opcode payload => [(opcode, payload)]
  | _ => []

/-- Where readLoop stands, seen from outside the control callback. -/
def ReadLoop.phase : ReadLoop K → Nat
  | .select => 0
  | .header => 1
  | .body _ _ => 2
  | .frame _ _ => 3
  | .control _ | .sending _ _ => 4
  | .deferred => 5
  | .exited => 6

/-- How many moves are left at most until the next call or, without one, to the end. -/
def ReadLoop.left : ReadLoop K → Nat
  | .select => 4
  | .header => 3
  | .body _ _ => 2
  | .frame _ _ => 1
  | .control _ | .sending _ _ => 5
  | .deferred => 1
  | .exited => 0

/-- A call that readLoop makes: the function it finds in onControl and the
activation it is in from then on. -/
structure Call (K : Type) where
  callback : Option (ControlCallback K)
  activation : K

/-- The call is that of the control callback with a frame of the session. -/
def Call.Hands (did : DID) (frame : UInt16 × List UInt8) (call : Call K) : Prop :=
  ∃ callback, call.callback = some callback ∧ call.activation = callback did frame.1 frame.2

/-- The call that leads from one record to the next, seen by where readLoop gets to. -/
def called (onControl : Option (ControlCallback K)) :
    Option (SessionState K) → Option (SessionState K) → List (Call K)
  | some sess, some later =>
    match later.reader with
    | .control activation => if sess.reader.inCallback then [] else [⟨onControl, activation⟩]
    | _ => []
  | _, _ => []

/-- Whether readLoop has moved on. -/
def turned : Option (SessionState K) → Option (SessionState K) → Nat
  | some sess, some later => if later.reader.phase = sess.reader.phase then 0 else 1
  | _, _ => 0

end Points

/-- The manager with what its observer notes of one session: the bytes its client
has still to send, the calls of the control callback and the moves of readLoop. -/
structure Watch (W K : Type) where
  st : State W K
  unsent : List UInt8
  calls : List (Call K)
  turns : Nat

def Watch.start {W : Type} (K : Type) (world : W) (stream : List UInt8) : Watch W K :=
  ⟨.initial W K world, stream, [], 0⟩

/-- The observer after a move to the next state. -/
def Watch.after {W K : Type} (w : Watch W K) (index : Nat) (next : State W K)
    (unsent : List UInt8) : Watch W K where
  st := next
  unsent := unsent
  calls := w.calls ++ called w.st.onControl w.st.heap[index]? next.heap[index]?
  turns := w.turns + turned w.st.heap[index]? next.heap[index]?

/-- A move of the manager, not cancelled and with a control callback when the
session is there. io.ReadFull fails only for bytes that the client does not send. -/
structure FedMove {W K L : Type} (client : Client W K L) (index : Nat) (w : Watch W K)
    (events : List (Event K L)) (w' : Watch W K) : Prop where
  move : Move client w.st events w'.st
  running : w'.st.cancelled = false
  installed : w'.st.heap[index]? ≠ none → w'.st.onControl ≠ none
  arrives : w.unsent = arrivedBytes (sessionEvents index events) ++ w'.unsent
  fails : ∀ sess later, w.st.heap[index]? = some sess → w'.st.heap[index]? = some later →
    sess.reader.stopped = false → later.reader.stopped = true →
    w.unsent = [] ∧ sess.conn.inbound.length < sess.reader.wants
  calls : w'.calls = w.calls ++ called w.st.onControl w.st.heap[index]? w'.st.heap[index]?
  turns : w'.turns = w.turns + turned w.st.heap[index]? w'.st.heap[index]?

/-- The loop is about to make a move of its own. -/
def ReadLoop.reading {K : Type} (reader : ReadLoop K) : Bool :=
  !reader.stopped && !reader.inCallback

def InCallback {W K : Type} (index : Nat) (w : Watch W K) : Prop :=
  ∃ sess, w.st.heap[index]? = some sess ∧ sess.reader.inCallback = true

def CanTurn {W K L : Type} (client : Client W K L) (index : Nat) (w : Watch W K) : Prop :=
  ∃ sess, w.st.heap[index]? = some sess ∧ sess.reader.reading = true ∧
    ∃ events w', FedMove client index w events w' ∧ w'.turns = w.turns + 1

/-- The session is registered, its client sends the whole stream, the control
callback returns whenever it is called, and readLoop is not held up for ever. -/
structure Served {W K L : Type} (client : Client W K L) (index : Nat) (trace : Nat → Watch W K) :
    Prop where
  registered : ∃ time, (trace time).st.heap[index]? ≠ none
  sent : ∃ time, (trace time).unsent = []
  returns : ∀ time, InCallback index (trace time) →
    ∃ later, time ≤ later ∧ ¬InCallback index (trace later)
  scheduled : WeaklyFair (fun time => CanTurn client index (trace time))
    fun time => (trace (time + 1)).turns = (trace time).turns + 1

variable {W K L : Type} {client : Client W K L} {world : W} {stream tail : List UInt8}
  {frames : List (UInt16 × List UInt8)} {index turns : Nat} {st next : State W K}
  {w w' : Watch W K} {events : List (Event K L)} {sess later : SessionState K}
  {own more : List SessionEvent} {calls : List (Call K)}
  {onControl : Option (ControlCallback K)}

theorem requestFraming_cut : requestFraming.Cut tail ↔ requestFraming.read tail = none := by
  constructor
  · exact Framing.Cut.read
  · intro unread
    exact (Framing.lengthPrefixed_cut (Framing.rename_read_none.mp unread)).rename

theorem decomposes_iff :
    Decomposes stream frames tail ↔ requestFraming.readAll stream = (frames, tail) := by
  constructor
  · rintro ⟨sizes, rfl, opcode, payload, missing, fits, some_, cut⟩
    apply Framing.readAll_stream
    · intro frame member
      exact (requestFraming_valid ..).mpr (Nat.lt_succ_of_le (sizes frame member))
    · refine requestFraming_cut.mp ⟨(opcode, payload), missing, ?_, some_, cut⟩
      exact (requestFraming_valid ..).mpr (Nat.lt_succ_of_le fits)
  · intro reading
    obtain ⟨valid, whole⟩ := requestFraming.readUpTo_sound stream.length stream
    have unread : requestFraming.read (requestFraming.readUpTo stream.length stream).2 = none :=
      Framing.readUpTo_stops (Nat.le_refl stream.length)
    change requestFraming.readUpTo stream.length stream = _ at reading
    rw [reading] at valid whole unread
    obtain ⟨⟨opcode, payload⟩, missing, fits, some_, cut⟩ := requestFraming_cut.mpr unread
    refine ⟨?_, whole.symm, opcode, payload, missing, ?_, some_, cut⟩
    · intro frame member
      exact Nat.le_of_lt_succ ((requestFraming_valid ..).mp (valid frame member))
    · exact Nat.le_of_lt_succ ((requestFraming_valid ..).mp fits)

/-- A header whose payload is not all there. -/
theorem body_cut {opcode length : UInt16} {payload : List UInt8}
    (short : payload.length < length.toNat) :
    requestFraming.Cut (put 2 opcode.toNat ++ put 2 length.toNat ++ payload) := by
  let missing : List UInt8 := List.replicate (length.toNat - payload.length) 0
  have total : (payload ++ missing).length = length.toNat := by
    simp only [missing, List.length_append, List.length_replicate]
    omega
  refine ⟨(opcode, payload ++ missing), missing, ?_, ?_, ?_⟩
  · rw [requestFraming_valid, total]
    exact length.toNat_lt
  · intro empty
    have none := congrArg List.length empty
    simp only [missing, List.length_replicate, List.length_nil] at none
    omega
  · rw [requestFraming_encode, total]
    simp only [List.append_assoc]

/-- A loop that waits for more than will come has read all there is to read. -/
theorem Receiving.exhausted (receiving : Receiving own sess)
    (short : sess.conn.inbound.length < sess.reader.wants) :
    (requestFraming.readAll (arrivedBytes own)).1 = framesRead own := by
  obtain ⟨valid, held, has, split⟩ := receiving
  have unread : requestFraming.read (held ++ sess.conn.inbound) = none := by
    cases point : sess.reader with
    | header =>
      rw [point] at has short
      obtain rfl : held = [] := has
      apply Framing.rename_read_none.mpr
      exact if_pos short
    | body opcode length =>
      rw [point] at has short
      obtain rfl : held = BigEndian.put 2 opcode.toNat ++ BigEndian.put 2 length.toNat := has
      exact requestFraming_cut.mp (body_cut short)
    | _ => simp [point, ReadLoop.wants] at short
  rw [split, List.append_assoc, Framing.readAll_stream valid unread]

/-- What readLoop has read it has handed over, frame by frame, or is about to;
and every call pays for the moves until the next one. -/
structure Handed (own : List SessionEvent) (calls : List (Call K)) (turns : Nat)
    (sess : SessionState K) : Prop where
  delivered : ∃ handed, framesRead own = handed ++ sess.reader.pending ∧
    List.Forall₂ (Call.Hands sess.did) handed calls
  bounded : turns + sess.reader.left ≤ 5 * calls.length + 4

/-- Outside the callback, or from inside it, no call is seen. -/
theorem called_none (quiet : sess.reader.inCallback = true ∨ later.reader.inCallback = false) :
    called onControl (some sess) (some later) = [] := by
  rcases quiet with inside | outside
  · simp only [called, inside]
    cases later.reader <;> rfl
  · cases point : later.reader <;> simp_all [called, ReadLoop.inCallback]

theorem called_same (same : later.reader = sess.reader) :
    called onControl (some sess) (some later) = [] := by
  apply called_none
  rw [same]
  cases sess.reader.inCallback <;> simp

theorem turned_same (same : later.reader = sess.reader) : turned (some sess) (some later) = 0 := by
  simp [turned, same]

theorem turned_le (before after : Option (SessionState K)) : turned before after ≤ 1 := by
  unfold turned
  split
  · split <;> omega
  · omega

/-- A move without a call and without a frame. -/
theorem Handed.silent (handed : Handed own calls turns sess) (did : later.did = sess.did)
    (uncalled : called onControl (some sess) (some later) = [])
    (silent : framesRead more = []) (pending : later.reader.pending = sess.reader.pending)
    (paid : turned (some sess) (some later) + later.reader.left ≤ sess.reader.left) :
    Handed (own ++ more) (calls ++ called onControl (some sess) (some later))
      (turns + turned (some sess) (some later)) later := by
  obtain ⟨delivered, bounded⟩ := handed
  rw [uncalled, List.append_nil]
  constructor
  · rw [framesRead_append, silent, List.append_nil, did, pending]
    exact delivered
  · omega

theorem Handed.stay (handed : Handed own calls turns sess) (did : later.did = sess.did)
    (same : later.reader = sess.reader) (silent : framesRead more = []) :
    Handed (own ++ more) (calls ++ called onControl (some sess) (some later))
      (turns + turned (some sess) (some later)) later := by
  refine handed.silent did (called_same same) silent (by rw [same]) ?_
  rw [turned_same same, same, Nat.zero_add]

theorem send_frames {point : Send} {result : SendNext}
    (step : SendStep st point events next result) :
    framesRead (sessionEvents index events) = [] := by
  rcases send_concerns index step with quiet | ⟨_, _, _, rfl⟩
  · exact quiet_frames quiet
  · simp [sessionEvents, Event.at, framesRead, SessionEvent.request]

/-- The callback is given the session's DID, the opcode and the payload. -/
theorem Handed.call {callback : ControlCallback K} (handed : Handed own calls turns sess)
    (at_ : sess.reader = .frame opcode payload)
    (entered : later = { sess with reader := .control (callback sess.did opcode payload) }) :
    Handed own (calls ++ called (some callback) (some sess) (some later))
      (turns + turned (some sess) (some later)) later := by
  obtain ⟨⟨frames, read, delivered⟩, bounded⟩ := handed
  have one := turned_le (some sess) (some later)
  have seen : called (some callback) (some sess) (some later) =
      [⟨some callback, callback sess.did opcode payload⟩] := by
    simp [called, entered, at_, ReadLoop.inCallback]
  rw [at_] at read bounded
  rw [seen]
  constructor
  · rw [entered]
    refine ⟨frames ++ [(opcode, payload)], by simpa [ReadLoop.pending] using read, ?_⟩
    exact List.rel_append delivered (.cons ⟨callback, rfl, rfl⟩ .nil)
  · rw [List.length_append, List.length_singleton]
    simp only [entered, ReadLoop.left] at bounded one ⊢
    omega

theorem Handed.frame (handed : Handed own calls turns sess) (at_ : sess.reader = .body code length)
    (did : later.did = sess.did) (point : later.reader = .frame opcode payload) :
    Handed (own ++ [.frame opcode payload]) (calls ++ called onControl (some sess) (some later))
      (turns + turned (some sess) (some later)) later := by
  obtain ⟨⟨frames, read, delivered⟩, bounded⟩ := handed
  have one := turned_le (some sess) (some later)
  rw [at_] at read bounded
  rw [called_none (.inr (by rw [point]; rfl)), List.append_nil]
  constructor
  · refine ⟨frames, ?_, by rwa [did]⟩
    rw [framesRead_append, read, point]
    simp [ReadLoop.pending, framesRead, SessionEvent.request]
  · simp only [point, ReadLoop.left] at bounded ⊢
    omega

theorem Handed.read (handed : Handed own calls turns sess) (callback : onControl ≠ none)
    (short : sess.reader.stopped = false → later.reader.stopped = true →
      sess.conn.inbound.length < sess.reader.wants)
    (moved : ReaderStep cancelled onControl sess more later) :
    Handed (own ++ more) (calls ++ called onControl (some sess) (some later))
      (turns + turned (some sess) (some later)) later := by
  cases moved with
  | cancelled at_ =>
    -- a loop at its select waits for nothing
    have waits := short (by rw [at_]; rfl) rfl
    simp [at_, ReadLoop.wants] at waits
  | ignore _ none => exact absurd none callback
  | call at_ installed =>
    subst installed
    rw [List.append_nil]
    exact handed.call at_ rfl
  | readBody at_ => exact handed.frame at_ rfl rfl
  | proceed at_ | readHeader at_ | headerFailed at_ | bodyFailed at_ =>
    refine handed.silent rfl (called_none (.inr rfl)) rfl ?_ ?_
    · rw [at_]
      rfl
    · rw [at_]
      simp [turned, at_, ReadLoop.left, ReadLoop.phase]

/-- The callback goes on or returns. -/
theorem Handed.callback (handed : Handed own calls turns sess) (did : later.did = sess.did)
    (running : sess.reader.inCallback = true)
    (point : later.reader.inCallback = true ∨ later.reader = .select)
    (silent : framesRead more = []) :
    Handed (own ++ more) (calls ++ called onControl (some sess) (some later))
      (turns + turned (some sess) (some later)) later := by
  have before : sess.reader.pending = [] ∧ sess.reader.left = 5 ∧ sess.reader.phase = 4 := by
    cases at_ : sess.reader <;> simp_all [ReadLoop.inCallback, ReadLoop.pending, ReadLoop.left,
      ReadLoop.phase]
  have after : later.reader.pending = [] ∧
      turned (some sess) (some later) + later.reader.left = 5 := by
    simp only [turned, before.2.2]
    cases at_ : later.reader <;> simp_all [ReadLoop.inCallback, ReadLoop.pending, ReadLoop.left,
      ReadLoop.phase]
  refine handed.silent did (called_none (.inl running)) silent ?_ ?_
  · rw [before.1, after.1]
  · rw [before.2.1, after.2]

/-- The loop has gone, after its last read. -/
theorem Handed.leave (handed : Handed own calls turns sess) (did : later.did = sess.did)
    (left : later.reader = .exited)
    (short : sess.reader.stopped = false → sess.conn.inbound.length < sess.reader.wants) :
    Handed own (calls ++ called onControl (some sess) (some later))
      (turns + turned (some sess) (some later)) later := by
  have before : sess.reader.pending = [] ∧
      turned (some sess) (some later) ≤ sess.reader.left := by
    simp only [turned, left]
    cases at_ : sess.reader <;> simp_all [ReadLoop.pending, ReadLoop.left, ReadLoop.phase,
      ReadLoop.stopped, ReadLoop.wants]
  have uncalled : called onControl (some sess) (some later) = [] :=
    called_none (.inr (by rw [left]; rfl))
  have gone := handed.silent did uncalled (rfl : framesRead [] = []) (by rw [left, before.1]; rfl)
    (by rw [left]; exact before.2)
  simpa using gone

theorem Handed.step (handed : Handed own calls turns sess) (did : later.did = sess.did)
    (callback : st.onControl ≠ none)
    (short : sess.reader.stopped = false → later.reader.stopped = true →
      sess.conn.inbound.length < sess.reader.wants)
    (moved : ReaderMove client st next index sess later events) :
    Handed (own ++ sessionEvents index events)
      (calls ++ called st.onControl (some sess) (some later))
      (turns + turned (some sess) (some later)) later := by
  cases moved with
  | aside same quiet => exact handed.stay did same (quiet_frames quiet)
  | accepted _ same =>
    exact handed.stay did same (by simp [sessionEvents, Event.at, framesRead, SessionEvent.request])
  | left exited =>
    simpa [sessionEvents] using
      handed.leave did exited fun running => short running (by rw [exited]; rfl)
  | read moved =>
    rw [sessionEvents_map, if_pos rfl]
    exact handed.read callback short moved
  | control at_ _ into =>
    refine handed.callback did (by rw [at_]; rfl) ?_ (by simp [sessionEvents, Event.at, framesRead])
    rw [into]
    exact Act.reader_point _
  | controlSend at_ sent _ into =>
    refine handed.callback did (by rw [at_]; rfl) (.inl ?_) (send_frames sent)
    rw [into]
    exact SendNext.reader_inCallback _ _

/-- What holds of the watched session in every run: nothing of the stream is
lost on the way, and a loop that has ended has read every frame of it. -/
structure Watched (stream : List UInt8) (index : Nat) (events : List (Event K L))
    (w : Watch W K) : Prop where
  arrives : arrivedBytes (sessionEvents index events) ++ w.unsent = stream
  running : w.st.cancelled = false
  installed : w.st.heap[index]? ≠ none → w.st.onControl ≠ none
  before : w.st.heap[index]? = none → w.calls = [] ∧ w.turns = 0
  handed : ∀ sess, w.st.heap[index]? = some sess →
    Handed (sessionEvents index events) w.calls w.turns sess
  ended : ∀ sess, w.st.heap[index]? = some sess → sess.reader.stopped = true →
    (requestFraming.readAll stream).1 = framesRead (sessionEvents index events)

theorem fed_runs (run : Run (FedMove client index) (.start K world stream) events w) :
    Runs client world events w.st := by
  apply run.invariant (P := fun events w => Runs client world events w.st)
  · exact Run.refl
  · exact fun runs moved => runs.next moved.move

/-- The move that ends the loop reads no frame. -/
theorem stopped_frames (stopped : later.reader.stopped = true)
    (moved : ReaderMove client st next index sess later events) :
    framesRead (sessionEvents index events) = [] := by
  cases moved with
  | aside _ quiet => exact quiet_frames quiet
  | left => rfl
  | read moved =>
    rw [sessionEvents_map, if_pos rfl]
    cases moved with
    | readBody => contradiction
    | _ => rfl
  | control => simp [sessionEvents, Event.at, framesRead]
  | controlSend _ sent => exact send_frames sent
  | accepted => simp [sessionEvents, Event.at, framesRead, SessionEvent.request]

theorem Watched.handed_step {more : List (Event K L)} (runs : Runs client world events w.st)
    (watched : Watched stream index events w) (moved : FedMove client index w more w')
    (present : w'.st.heap[index]? = some later) :
    Handed (sessionEvents index (events ++ more)) w'.calls w'.turns later := by
  rw [moved.calls, moved.turns, sessionEvents_append, present]
  rcases step_record moved.move.2 present with ⟨sess, found, did⟩ | ⟨absent, did, _, rfl, rfl⟩
  · rw [found]
    have installed := watched.installed (by simp [found])
    have reader := step_reader moved.move.2 found present
    refine (watched.handed sess found).step did installed ?_ reader
    exact fun reading stopped => (moved.fails sess later found present reading stopped).2
  · obtain ⟨calls, turns⟩ := watched.before absent
    rw [(runs_session runs index).1 absent, calls, turns, absent]
    exact ⟨⟨[], rfl, .nil⟩, Nat.le_refl 4⟩

theorem Watched.ended_step {more : List (Event K L)} (runs : Runs client world events w.st)
    (watched : Watched stream index events w) (moved : FedMove client index w more w')
    (present : w'.st.heap[index]? = some later) (stopped : later.reader.stopped = true) :
    (requestFraming.readAll stream).1 = framesRead (sessionEvents index (events ++ more)) := by
  rcases step_record moved.move.2 present with ⟨sess, found, _⟩ | ⟨_, _, _, rfl, _⟩
  · have silent := stopped_frames stopped (step_reader moved.move.2 found present)
    rw [sessionEvents_append, framesRead_append, silent, List.append_nil]
    cases before : sess.reader.stopped with
    | true => exact watched.ended sess found before
    | false =>
      obtain ⟨sent, short⟩ := moved.fails sess later found present before stopped
      have arrives := watched.arrives
      rw [sent, List.append_nil] at arrives
      rw [← arrives]
      exact (runs_receiving runs found).exhausted short
  · contradiction

theorem Watched.step {more : List (Event K L)} (runs : Runs client world events w.st)
    (watched : Watched stream index events w) (moved : FedMove client index w more w') :
    Watched stream index (events ++ more) w' where
  arrives := by
    rw [sessionEvents_append, arrivedBytes_append, List.append_assoc, ← moved.arrives]
    exact watched.arrives
  running := moved.running
  installed := moved.installed
  before := by
    intro absent
    have earlier : w.st.heap[index]? = none := by
      rw [List.getElem?_eq_none_iff] at absent ⊢
      exact Nat.le_trans (step_grows moved.move.2) absent
    obtain ⟨calls, turns⟩ := watched.before earlier
    rw [moved.calls, moved.turns, earlier, calls, turns]
    exact ⟨rfl, rfl⟩
  handed := fun _ present => watched.handed_step runs moved present
  ended := fun _ present stopped => watched.ended_step runs moved present stopped

theorem fed_watched (run : Run (FedMove client index) (.start K world stream) events w) :
    Watched stream index events w := by
  apply run.invariant_reached (P := Watched stream index)
  · constructor <;> simp [Watch.start, State.initial, sessionEvents, arrivedBytes]
  · exact fun run watched moved => watched.step (fed_runs run) moved

/-- At most the frames of the stream are handed over, in their order. -/
theorem fed_calls (run : Run (FedMove client index) (.start K world stream) events w)
    (found : w.st.heap[index]? = some sess) :
    ∃ handed, handed <+: (requestFraming.readAll stream).1 ∧
      List.Forall₂ (Call.Hands sess.did) handed w.calls := by
  have watched := fed_watched run
  have frames := (runs_receiving (fed_runs run) found).frames_of_stream w.unsent
  rw [watched.arrives] at frames
  obtain ⟨handed, read, delivered⟩ := (watched.handed sess found).delivered
  refine ⟨handed, ?_, delivered⟩
  rw [read] at frames
  exact (List.prefix_append handed sess.reader.pending).trans frames

theorem ReadLoop.stopped_pending {reader : ReadLoop K} (stopped : reader.stopped = true) :
    reader.pending = [] := by
  cases reader with
  | deferred | exited => rfl
  | _ => contradiction

theorem fed_all_calls (run : Run (FedMove client index) (.start K world stream) events w)
    (found : w.st.heap[index]? = some sess) (stopped : sess.reader.stopped = true) :
    List.Forall₂ (Call.Hands sess.did) (requestFraming.readAll stream).1 w.calls := by
  have watched := fed_watched run
  obtain ⟨handed, read, delivered⟩ := (watched.handed sess found).delivered
  rw [watched.ended sess found stopped, read, ReadLoop.stopped_pending stopped, List.append_nil]
  exact delivered

/-- The loop moves only so often. -/
theorem fed_turns (run : Run (FedMove client index) (.start K world stream) events w) :
    w.turns ≤ 5 * (requestFraming.readAll stream).1.length + 4 := by
  have watched := fed_watched run
  cases found : w.st.heap[index]? with
  | none =>
    rw [(watched.before found).2]
    exact Nat.zero_le _
  | some sess =>
    obtain ⟨handed, frames, delivered⟩ := fed_calls run found
    have few := frames.length_le
    have same := delivered.length_eq
    have bounded := (watched.handed sess found).bounded
    omega

/-- A move of readLoop that reads what has arrived, or fails for want of it. -/
theorem FedMove.reader (alive : w.st.panicked = none) (running : w.st.cancelled = false)
    (installed : w.st.onControl = some callback) (found : w.st.heap[index]? = some sess)
    (moved : ReaderStep w.st.cancelled w.st.onControl sess own later)
    (quiet : arrivedBytes own = [])
    (short : later.reader.stopped = true →
      w.unsent = [] ∧ sess.conn.inbound.length < sess.reader.wants) :
    FedMove client index w (own.map (.session index))
      (w.after index ((w.st.put index later).spawn (deferredReader index later)) w.unsent) where
  move := ⟨alive, .reader found moved⟩
  running := running
  installed := fun _ => by simp [Watch.after, installed]
  arrives := by simp [Watch.after, sessionEvents_map, quiet]
  fails := by
    intro before record was now _ stopped
    cases Option.some.inj (found.symm.trans was)
    rcases set_cases found found now with ⟨_, _, rfl⟩ | ⟨other, _⟩
    · exact short stopped
    · exact absurd rfl other
  calls := rfl
  turns := rfl

theorem Watched.turns_once (alive : w.st.panicked = none) (watched : Watched stream index events w)
    (found : w.st.heap[index]? = some sess) (reading : sess.reader.reading = true)
    (moved : ReaderStep w.st.cancelled w.st.onControl sess own later)
    (quiet : arrivedBytes own = []) (turns : later.reader.phase ≠ sess.reader.phase)
    (short : later.reader.stopped = true →
      w.unsent = [] ∧ sess.conn.inbound.length < sess.reader.wants) :
    CanTurn client index w := by
  have bound := (List.getElem?_eq_some_iff.mp found).1
  obtain ⟨callback, installed⟩ :=
    Option.ne_none_iff_exists'.mp (watched.installed (by simp [found]))
  have counted : turned w.st.heap[index]? (some later) = 1 := by
    rw [found]
    exact if_neg turns
  refine ⟨sess, found, reading, _, _,
    .reader alive watched.running installed found moved quiet short, ?_⟩
  simp only [Watch.after, State.spawn_heap, State.put_heap, List.getElem?_set_self bound, counted]

/-- SetControlCallback, before the session is there. -/
theorem FedMove.install (callback : ControlCallback K) (alive : w.st.panicked = none)
    (running : w.st.cancelled = false) (absent : w.st.heap[index]? = none) :
    FedMove client index w [.setControlCallback (some callback)]
      (w.after index { w.st with onControl := some callback } w.unsent) where
  move := ⟨alive, .setControlCallback (some callback)⟩
  running := running
  installed := fun _ => by simp [Watch.after]
  arrives := rfl
  fails := by
    intro _ _ found
    simp [absent] at found
  calls := rfl
  turns := rfl

/-- A move after which the loop still runs. -/
theorem FedMove.going (unsent : List UInt8) (move : Move client w.st events next)
    (running : next.cancelled = false) (installed : next.onControl = some callback)
    (present : next.heap[index]? = some later) (going : later.reader.stopped = false)
    (arrives : w.unsent = arrivedBytes (sessionEvents index events) ++ unsent) :
    FedMove client index w events (w.after index next unsent) where
  move := move
  running := running
  installed := fun _ => by simp [Watch.after, installed]
  arrives := arrives
  fails := by
    intro _ record _ now _ stopped
    cases Option.some.inj (present.symm.trans now)
    simp [going] at stopped
  calls := rfl
  turns := rfl

/-- With the whole stream there, nothing but its callback or its end keeps the
loop from moving. -/
theorem Watched.canTurn (alive : w.st.panicked = none) (watched : Watched stream index events w)
    (found : w.st.heap[index]? = some sess) (reading : sess.reader.reading = true)
    (sent : w.unsent = []) : CanTurn client index w := by
  cases at_ : sess.reader with
  | select =>
    refine watched.turns_once alive found reading (.proceed at_ watched.running) rfl ?_ nofun
    rw [at_]
    exact Nat.one_ne_zero
  | header =>
    by_cases enough : 4 ≤ sess.conn.inbound.length
    · refine watched.turns_once alive found reading (.readHeader at_ (if_pos enough)) rfl ?_
        nofun
      rw [at_]
      exact Nat.succ_ne_self 1
    · refine watched.turns_once alive found reading (.headerFailed at_) rfl ?_ fun _ => ⟨sent, ?_⟩
      · simp [at_, ReadLoop.phase]
      · rw [at_]
        exact Nat.lt_of_not_le enough
  | body opcode length =>
    by_cases enough : length.toNat ≤ sess.conn.inbound.length
    · refine watched.turns_once alive found reading (.readBody at_ (if_pos enough)) rfl ?_ nofun
      rw [at_]
      exact Nat.succ_ne_self 2
    · refine watched.turns_once alive found reading (.bodyFailed at_) rfl ?_ fun _ => ⟨sent, ?_⟩
      · simp [at_, ReadLoop.phase]
      · rw [at_]
        exact Nat.lt_of_not_le enough
  | frame opcode payload =>
    obtain ⟨callback, installed⟩ :=
      Option.ne_none_iff_exists'.mp (watched.installed (by simp [found]))
    refine watched.turns_once alive found reading (.call at_ installed) rfl ?_ nofun
    rw [at_]
    exact Nat.succ_ne_self 3
  | _ => simp [at_, ReadLoop.reading, ReadLoop.stopped, ReadLoop.inCallback] at reading

theorem FedMove.turns_le (moved : FedMove client index w events w') : w.turns ≤ w'.turns := by
  rw [moved.turns]
  exact Nat.le_add_right _ _

/-- Where no move is counted, the loop has stayed at its point. -/
theorem FedMove.phase_stays (moved : FedMove client index w events w')
    (found : w.st.heap[index]? = some sess) (still : w'.turns = w.turns) :
    ∃ later, w'.st.heap[index]? = some later ∧ later.reader.phase = sess.reader.phase := by
  obtain ⟨later, present, _⟩ := step_evolves moved.move.2 found
  refine ⟨later, present, ?_⟩
  have turns := moved.turns
  rw [found, present, still] at turns
  by_contra changed
  simp [turned, changed] at turns

theorem FedMove.stays_registered (moved : FedMove client index w events w')
    (there : w.st.heap[index]? ≠ none) : w'.st.heap[index]? ≠ none := by
  obtain ⟨sess, found⟩ := Option.ne_none_iff_exists'.mp there
  obtain ⟨later, present, _⟩ := step_evolves moved.move.2 found
  simp [present]

theorem FedMove.stays_sent (moved : FedMove client index w events w') (sent : w.unsent = []) :
    w'.unsent = [] := by
  have arrives := moved.arrives
  rw [sent] at arrives
  exact (List.append_eq_nil_iff.mp arrives.symm).2

theorem ReadLoop.inCallback_iff {reader : ReadLoop K} :
    reader.inCallback = true ↔ reader.phase = 4 := by
  cases reader <;> simp [ReadLoop.inCallback, ReadLoop.phase]

section Behaviours
variable {trace : Nat → Watch W K}
  (behaviour : Behaviour (FedMove client index) (.start K world stream) trace)
include behaviour

theorem behaviour_grows (time : Nat) : (trace time).turns ≤ (trace (time + 1)).turns := by
  rcases behaviour.next time with same | ⟨_, moved⟩
  · rw [same]
  · exact moved.turns_le

theorem behaviour_bounded (time : Nat) :
    (trace time).turns ≤ 5 * (requestFraming.readAll stream).1.length + 4 := by
  obtain ⟨_, run⟩ := behaviour.reached time
  exact fed_turns run

theorem behaviour_canTurn {time : Nat} (found : (trace time).st.heap[index]? = some sess)
    (reading : sess.reader.reading = true) (sent : (trace time).unsent = []) :
    CanTurn client index (trace time) := by
  obtain ⟨_, run⟩ := behaviour.reached time
  exact (fed_watched run).canTurn (runs_no_panic (fed_runs run)).1 found reading sent

/-- A loop that does not move any more is at one point for ever. -/
theorem behaviour_rests {settled : Nat}
    (still : ∀ time, settled ≤ time → (trace time).turns = (trace settled).turns)
    (found : (trace settled).st.heap[index]? = some sess) {time : Nat} (later : settled ≤ time) :
    ∃ record, (trace time).st.heap[index]? = some record ∧
      record.reader.phase = sess.reader.phase := by
  induction time, later using Nat.le_induction with
  | base => exact ⟨sess, found, rfl⟩
  | succ time after ih =>
    obtain ⟨record, present, point⟩ := ih
    rcases behaviour.next time with same | ⟨_, moved⟩
    · rw [same]
      exact ⟨record, present, point⟩
    · have unmoved : (trace (time + 1)).turns = (trace time).turns := by
        rw [still time after, still (time + 1) (Nat.le_succ_of_le after)]
      obtain ⟨next, reached, same⟩ := moved.phase_stays present unmoved
      exact ⟨next, reached, same.trans point⟩

theorem behaviour_ends (served : Served client index trace) :
    ∃ time sess, (trace time).st.heap[index]? = some sess ∧ sess.reader.stopped = true := by
  by_contra never
  push Not at never
  obtain ⟨begun, there⟩ := served.registered
  obtain ⟨done, sent⟩ := served.sent
  -- the moves of the loop are bounded, so from some time on there are none
  obtain ⟨settled, late, still⟩ :=
    settles (behaviour_grows behaviour) (behaviour_bounded behaviour) (max begun done)
  have present := behaviour.persists (P := fun w => w.st.heap[index]? ≠ none)
    FedMove.stays_registered ((Nat.le_max_left ..).trans late) there
  obtain ⟨sess, found⟩ := Option.ne_none_iff_exists'.mp present
  cases inside : sess.reader.inCallback with
  | true =>
    obtain ⟨time, later, outside⟩ := served.returns settled ⟨sess, found, inside⟩
    obtain ⟨record, reached, point⟩ := behaviour_rests behaviour still found later
    rw [ReadLoop.inCallback_iff, ← point, ← ReadLoop.inCallback_iff] at inside
    exact outside ⟨record, reached, inside⟩
  | false =>
    have possible (time : Nat) (later : settled ≤ time) : CanTurn client index (trace time) := by
      obtain ⟨record, reached, point⟩ := behaviour_rests behaviour still found later
      have outside : record.reader.inCallback ≠ true := by
        rw [ne_eq, ReadLoop.inCallback_iff, point, ← ReadLoop.inCallback_iff]
        simp [inside]
      have all := behaviour.persists (P := fun w => w.unsent = []) FedMove.stays_sent
        ((Nat.le_max_right ..).trans (late.trans later)) sent
      refine behaviour_canTurn behaviour reached ?_ all
      simp [ReadLoop.reading, never time record reached, outside]
    obtain ⟨time, later, moves⟩ := served.scheduled settled possible
    rw [still time later, still (time + 1) (Nat.le_succ_of_le later)] at moves
    omega

end Behaviours

/-- Every stream is, in one way only, a list of frames and a part of another
frame. At any time the calls readLoop has made are those of the control callback
with an initial segment of these frames, in order and under the session's DID, and
with all of them once readLoop has ended; and it ends. -/
theorem inbound_stream_delivered {trace : Nat → Watch W K}
    (behaviour : Behaviour (FedMove client index) (.start K world stream) trace) :
    ∃ frames tail, Decomposes stream frames tail ∧
      (∀ others rest, Decomposes stream others rest → others = frames ∧ rest = tail) ∧
      (∀ sent : List (UInt16 × List UInt8), (∀ frame ∈ sent, frame.2.length ≤ 65535) →
        stream = (sent.flatMap fun frame =>
          put 2 frame.1.toNat ++ (put 2 frame.2.length ++ frame.2)) →
        frames = sent ∧ tail = []) ∧
      (∀ time sess, (trace time).st.heap[index]? = some sess →
        (∃ handed, handed <+: frames ∧
          List.Forall₂ (Call.Hands sess.did) handed (trace time).calls) ∧
        (sess.reader.stopped = true →
          List.Forall₂ (Call.Hands sess.did) frames (trace time).calls)) ∧
      (Served client index trace → ∃ time sess, (trace time).st.heap[index]? = some sess ∧
        sess.reader.stopped = true ∧
        List.Forall₂ (Call.Hands sess.did) frames (trace time).calls) := by
  have unique (others rest) (parts : Decomposes stream others rest) :
      others = (requestFraming.readAll stream).1 ∧ rest = (requestFraming.readAll stream).2 := by
    rw [decomposes_iff.mp parts]
    exact ⟨rfl, rfl⟩
  refine ⟨_, _, decomposes_iff.mpr rfl, unique, ?_, ?_, ?_⟩
  · intro sent sizes whole
    obtain ⟨same, empty⟩ := unique sent []
      ⟨sizes, by rw [whole, List.append_nil], 0, [], _, Nat.zero_le _, by simp, rfl⟩
    exact ⟨same.symm, empty.symm⟩
  · intro time sess found
    obtain ⟨_, run⟩ := behaviour.reached time
    exact ⟨fed_calls run found, fed_all_calls run found⟩
  · intro served
    obtain ⟨time, sess, found, stopped⟩ := behaviour_ends behaviour served
    obtain ⟨_, run⟩ := behaviour.reached time
    exact ⟨time, sess, found, stopped, fed_all_calls run found stopped⟩

/-- A control callback whose activation is what it was given, and that returns at once. -/
def recording : ControlCallback (DID × UInt16 × List UInt8) :=
  fun did opcode payload => (did, opcode, payload)

def returning : Client Unit (DID × UInt16 × List UInt8) Unit where
  step _ _ _ _ act := act = .finish
  interfere _ _ _ := False

/-- One frame and the first byte of another, in two pieces that part its header. -/
theorem frame_runs : ∃ (events : List (Event (DID × UInt16 × List UInt8) Unit))
    (w : Watch Unit (DID × UInt16 × List UInt8)) (sess : SessionState (DID × UInt16 × List UInt8)),
    Run (FedMove returning 0) (.start _ () [0, 1, 0, 1, 65, 9]) events w ∧
    w.st.heap[0]? = some sess ∧ sess.reader = .deferred ∧ w.unsent = [] ∧
    w.calls = [⟨some recording, sess.did, 1, [65]⟩] := by
  have start : Run (FedMove returning 0) (.start _ () [0, 1, 0, 1, 65, 9]) [] _ := .refl
  have installed := start.next (.install recording rfl rfl rfl)
  have registered := installed.next (.going _ ⟨rfl, .register⟩ rfl rfl rfl rfl rfl)
  have begun := registered.next (.going [1, 65, 9]
    ⟨rfl, .arrive [0, 1, 0] (rfl : (State.heap _)[0]? = some _)⟩ rfl rfl rfl rfl rfl)
  have entered := begun.next (.reader rfl rfl rfl rfl (.proceed rfl rfl) rfl nofun)
  have complete := entered.next (.going []
    ⟨rfl, .arrive [1, 65, 9] (rfl : (State.heap _)[0]? = some _)⟩ rfl rfl rfl rfl rfl)
  have headed := complete.next (.reader rfl rfl rfl rfl (.readHeader rfl rfl) rfl nofun)
  have framed := headed.next (.reader rfl rfl rfl rfl (.readBody rfl rfl) rfl nofun)
  have called := framed.next (.reader rfl rfl rfl rfl (.call rfl rfl) rfl nofun)
  have finishes : returning.step () (1, 1, [65]) () () .finish := rfl
  have returned := called.next (.going []
    ⟨rfl, .control (rfl : (State.heap _)[0]? = some _) rfl finishes⟩ rfl rfl rfl rfl rfl)
  have again := returned.next (.reader rfl rfl rfl rfl (.proceed rfl rfl) rfl nofun)
  have ended := again.next (.reader rfl rfl rfl rfl (.headerFailed rfl) rfl
    fun _ => ⟨rfl, by decide⟩)
  exact ⟨_, _, _, ended, rfl, rfl, rfl, rfl⟩

/-- A run that ends with the loop is served whatever comes after it. -/
theorem served_of_rests {trace : Nat → Watch W K} {last : Nat}
    (rests : ∀ time, last ≤ time → trace time = w) (found : w.st.heap[index]? = some sess)
    (ended : sess.reader = .deferred) (sent : w.unsent = []) : Served client index trace where
  registered := ⟨last, by simp [rests last (Nat.le_refl _), found]⟩
  sent := ⟨last, by rw [rests last (Nat.le_refl _), sent]⟩
  returns := by
    intro time _
    refine ⟨max time last, Nat.le_max_left .., ?_⟩
    rw [rests _ (Nat.le_max_right ..)]
    rintro ⟨record, present, inside⟩
    cases Option.some.inj (found.symm.trans present)
    simp [ended, ReadLoop.inCallback] at inside
  scheduled := by
    intro start possible
    obtain ⟨record, present, reading, _⟩ := possible (max start last) (Nat.le_max_left ..)
    rw [rests _ (Nat.le_max_right ..)] at present
    cases Option.some.inj (found.symm.trans present)
    simp [ended, ReadLoop.reading, ReadLoop.stopped] at reading

theorem inbound_stream_delivered_frame :
    ∃ trace : Nat → Watch Unit (DID × UInt16 × List UInt8),
      Behaviour (FedMove returning 0) (.start _ () [0, 1, 0, 1, 65, 9]) trace ∧
      Served returning 0 trace ∧
      (∃ time sess, (trace time).st.heap[0]? = some sess ∧ sess.reader.stopped = true ∧
        List.Forall₂ (Call.Hands sess.did) [(1, [65])] (trace time).calls) ∧
      ∃ time sess, (trace time).st.heap[0]? = some sess ∧
        (trace time).calls = [⟨some recording, sess.did, 1, [65]⟩] := by
  obtain ⟨_, w, sess, run, found, ended, sent, calls⟩ := frame_runs
  obtain ⟨trace, last, behaviour, rests⟩ := run.behaviour
  obtain ⟨frames, tail, _, unique, _, _, ends⟩ := inbound_stream_delivered behaviour
  obtain ⟨rfl, rfl⟩ := unique [(1, [65])] [9]
    ⟨by simp, by decide, 2304, [], [0, 0, 0], by simp, by simp, by decide⟩
  have served : Served returning 0 trace := served_of_rests rests found ended sent
  have reached : trace last = w := rests last (Nat.le_refl last)
  refine ⟨trace, behaviour, served, ends served, last, sess, ?_, ?_⟩
  · rw [reached, found]
  · rw [reached, calls]

end GotaDaemon.Ipc
