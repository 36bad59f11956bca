import GotaDaemon.Ipc.Readers

/-! What readLoop reads: the frames it hands to the control callback are the
first complete frames of the bytes that have arrived on the connection. -/
namespace GotaDaemon.Ipc
open Go Transition

/-- The frames of readPacket: opcode and length in two bytes each, the payload. -/
def requestFraming : Framing (UInt16 × List UInt8) UInt8 :=
  (Framing.lengthPrefixed 2).rename
    (fun request => (BigEndian.put 2 request.1.toNat, request.2))
    (fun frame => (.ofNat (BigEndian.get frame.1), frame.2))
    (by
      rintro ⟨opcode, payload⟩
      rw [BigEndian.get_put_uint16])
    (by
      rintro ⟨header, payload⟩ ⟨two, _⟩
      dsimp only at two ⊢
      rw [BigEndian.put_get_uint16 two])

theorem requestFraming_encode (opcode : UInt16) (payload : List UInt8) :
    requestFraming.encode (opcode, payload) =
      BigEndian.put 2 opcode.toNat ++ (BigEndian.put 2 payload.length ++ payload) := rfl

theorem requestFraming_valid (opcode : UInt16) (payload : List UInt8) :
    requestFraming.Valid (opcode, payload) ↔ payload.length < 65536 := by
  simp [requestFraming, Framing.rename, Framing.lengthPrefixed]

def SessionEvent.request : SessionEvent → Option (UInt16 × List UInt8)
  | .frame opcode payload => some (opcode, payload)
  | _ => none

def framesRead (own : List SessionEvent) : List (UInt16 × List UInt8) :=
  own.filterMap SessionEvent.request

def SessionEvent.bytes : SessionEvent → List UInt8
  | .arrived bytes => bytes
  | _ => []

def arrivedBytes (own : List SessionEvent) : List UInt8 := own.flatMap SessionEvent.bytes

variable {W K L : Type} {client : Client W K L} {world : W} {st : State W K}
  {events : List (Event K L)}
  {index : Nat} {sess later : SessionState K} {own more : List SessionEvent}

@[simp] theorem framesRead_append :
    framesRead (own ++ more) = framesRead own ++ framesRead more := by
  simp only [framesRead, List.filterMap_append]

@[simp] theorem arrivedBytes_append :
    arrivedBytes (own ++ more) = arrivedBytes own ++ arrivedBytes more := by
  simp only [arrivedBytes, List.flatMap_append]

/-- Events that do not concern the session's loop tell of no frame. -/
theorem quiet_frames (quiet : ∀ event ∈ events, event.concerns index = false) :
    framesRead (sessionEvents index events) = [] := by
  apply List.filterMap_eq_nil_iff.mpr
  intro event member
  have apart := quiet _ (mem_sessionEvents.mp member)
  cases event with
  | frame => simp [Event.concerns] at apart
  | _ => rfl

/-- The header bytes readLoop has taken off the connection for the frame whose
payload it is waiting for; nothing between frames. -/
def ReadLoop.Holds : ReadLoop K → List UInt8 → Prop
  | .body opcode length, bytes =>
    bytes = BigEndian.put 2 opcode.toNat ++ BigEndian.put 2 length.toNat
  | .deferred, _ | .exited, _ => True
  | _, bytes => bytes = []

/-- The bytes that have arrived are the frames read so far, then what readLoop
holds of the next one, then what it has not taken yet. -/
structure Receiving (own : List SessionEvent) (sess : SessionState K) : Prop where
  valid : ∀ request ∈ framesRead own, requestFraming.Valid request
  split : ∃ held, sess.reader.Holds held ∧
    arrivedBytes own = requestFraming.stream (framesRead own) ++ held ++ sess.conn.inbound

/-- A step that reads nothing and stays within the same frame. -/
theorem Receiving.frame (receiving : Receiving own sess) (frames : framesRead more = [])
    (holds : ∀ held, sess.reader.Holds held → later.reader.Holds held)
    (inbound : sess.conn.inbound ++ arrivedBytes more = later.conn.inbound) :
    Receiving (own ++ more) later := by
  obtain ⟨valid, held, has, split⟩ := receiving
  refine ⟨by simpa [frames] using valid, held, holds held has, ?_⟩
  rw [framesRead_append, frames, List.append_nil, arrivedBytes_append, split, ← inbound]
  simp only [List.append_assoc]

theorem readFull_some {count : Nat} {input bytes rest : List UInt8}
    (read : readFull count input = some (bytes, rest)) :
    bytes.length = count ∧ input = bytes ++ rest := by
  unfold readFull at read
  split at read
  · rename_i enough
    simp only [Option.some.injEq, Prod.mk.injEq] at read
    obtain ⟨rfl, rfl⟩ := read
    exact ⟨List.length_take_of_le enough, (List.take_append_drop count input).symm⟩
  · contradiction

theorem reader_receiving (receiving : Receiving own sess)
    (moved : ReaderStep cancelled onControl sess more later) : Receiving (own ++ more) later := by
  cases moved with
  | cancelled | headerFailed | bodyFailed =>
    exact receiving.frame rfl (fun _ _ => trivial) (List.append_nil _)
  | proceed at_ | call at_ | ignore at_ =>
    refine receiving.frame rfl (fun held has => ?_) (List.append_nil _)
    rw [at_] at has
    exact has
  | readHeader at_ read =>
    rename_i bytes inbound
    obtain ⟨four, input⟩ := readFull_some read
    obtain ⟨valid, held, has, split⟩ := receiving
    rw [at_] at has
    obtain rfl : held = [] := has
    refine ⟨by simpa [framesRead] using valid, bytes, ?_, ?_⟩
    · simp only [ReadLoop.Holds]
      rw [BigEndian.put_get_uint16 (by simp [four]), BigEndian.put_get_uint16 (by simp [four]),
        List.take_append_drop]
    · simpa [framesRead, arrivedBytes, input] using split
  | readBody at_ read =>
    rename_i payload inbound opcode length
    obtain ⟨sized, input⟩ := readFull_some read
    obtain ⟨valid, held, has, split⟩ := receiving
    rw [at_] at has
    obtain rfl : held = BigEndian.put 2 opcode.toNat ++ BigEndian.put 2 length.toNat := has
    have frames : framesRead [.frame opcode payload] = [(opcode, payload)] := rfl
    have silent : arrivedBytes [.frame opcode payload] = [] := rfl
    refine ⟨?_, [], rfl, ?_⟩
    · have bound := length.toNat_lt
      simp only [framesRead_append, frames, List.forall_mem_append, List.forall_mem_singleton,
        requestFraming_valid]
      exact ⟨valid, by omega⟩
    · rw [arrivedBytes_append, silent, split, framesRead_append, frames, Framing.stream_append,
        Framing.stream_cons, Framing.stream_nil, requestFraming_encode, sized, input]
      simp only [List.append_assoc, List.append_nil]

theorem ReadLoop.inCallback_holds {reader : ReadLoop K} {held : List UInt8}
    (running : reader.inCallback = true) (has : reader.Holds held) : held = [] := by
  cases reader with
  | control | sending => exact has
  | _ => contradiction

theorem Receiving.step (receiving : Receiving own sess) (step : SessionStep sess more later) :
    Receiving (own ++ more) later := by
  cases step with
  | arrive bytes =>
    exact receiving.frame rfl (fun _ has => has) (by simp [arrivedBytes, SessionEvent.bytes])
  | accept offered =>
    obtain ⟨_, outbound, _, rfl⟩ := offer_ok offered
    exact receiving.frame rfl (fun _ has => has) (List.append_nil _)
  | block offered =>
    obtain ⟨_, _, _, rfl⟩ := offer_ok offered
    exact receiving.frame rfl (fun _ has => has) (List.append_nil _)
  | close isOpen closed =>
    obtain ⟨_, rfl⟩ := closeOutbound_ok isOpen closed
    exact receiving.frame rfl (fun _ has => has) (List.append_nil _)
  | writer moved => cases moved <;> exact receiving.frame rfl (fun _ has => has) (List.append_nil _)
  | reader moved => exact reader_receiving receiving moved
  | callback running point =>
    refine receiving.frame rfl (fun held has => ?_) (List.append_nil _)
    rw [ReadLoop.inCallback_holds running has]
    rcases point with inside | rfl
    · rename_i reader
      cases reader <;> first | rfl | contradiction
    · rfl
  | readerDone => exact receiving.frame rfl (fun _ _ => trivial) (List.append_nil _)
  | _ => exact receiving.frame rfl (fun _ has => has) (List.append_nil _)

theorem runs_receiving (run : Runs client world events st) (found : st.heap[index]? = some sess) :
    Receiving (sessionEvents index events) sess := by
  have path := (runs_session run index).2 sess found
  apply path.invariant (P := Receiving)
  · exact ⟨by simp [framesRead], [], rfl, rfl⟩
  · exact fun receiving step => receiving.step step

/-- The frames read are the first ones whatever arrives after them. -/
theorem Receiving.frames_of_stream (receiving : Receiving own sess) (unsent : List UInt8) :
    framesRead own <+: (requestFraming.readAll (arrivedBytes own ++ unsent)).1 := by
  obtain ⟨valid, held, _, split⟩ := receiving
  rw [split, List.append_assoc, List.append_assoc]
  exact Framing.prefix_readAll valid _

theorem Receiving.frames_initial (receiving : Receiving own sess) :
    framesRead own <+: (requestFraming.readAll (arrivedBytes own)).1 := by
  simpa only [List.append_nil] using receiving.frames_of_stream []

end GotaDaemon.Ipc
