import GotaDaemon.Ipc.SessionRuns

/-! What a step has to do with one session's readLoop: it is a move of the
loop or of the control callback it runs, or somebody else's, which leaves the
loop where it is. -/
namespace GotaDaemon.Ipc
open Go Transition

def Send.did : Send → DID
  | .lookup did _ | .enqueue did _ _ | .drop did _ => did

def ReadLoop.stopped {K : Type} : ReadLoop K → Bool
  | .deferred | .exited => true
  | _ => false

/-- The event tells of a frame the loop has read, of a move of its control
callback or of a packet accepted for its session. -/
def Event.concerns {K L : Type} (index : Nat) : Event K L → Bool
  | .session owner (.frame _ _) | .session owner (.accepted _) | .control owner _ => owner = index
  | _ => false

/-- A SendToLocal call that does not come from the session's own readLoop is
about to queue the packet on the session. -/
def SentByOther {W K : Type} (st : State W K) (index : Nat) (pkt : OutboundPacket) : Prop :=
  ∃ did, .send (.enqueue did index pkt) ∈ st.running ∨
    ∃ owner record resume, owner ≠ index ∧ st.heap[owner]? = some record ∧
      record.reader = .sending (.enqueue did index pkt) resume

inductive ReaderMove {W K L : Type} (client : Client W K L) (st next : State W K) (index : Nat)
    (sess later : SessionState K) : List (Event K L) → Prop where
  | aside : later.reader = sess.reader → (∀ event ∈ trace, event.concerns index = false) →
      ReaderMove client st next index sess later trace
  | left : later.reader = .exited → ReaderMove client st next index sess later []
  | read : ReaderStep st.cancelled st.onControl sess own later →
      ReaderMove client st next index sess later (own.map (.session index))
  | control : sess.reader = .control activation →
      client.step st.world activation label next.world act →
      later = { sess with reader := act.reader } →
      ReaderMove client st next index sess later [.control index label]
  | controlSend : sess.reader = .sending point resume → SendStep st point trace sent result →
      sent.heap[index]? = some middle → later = { middle with reader := result.reader resume } →
      ReaderMove client st next index sess later trace
  | accepted : SentByOther st index pkt → later.reader = sess.reader →
      ReaderMove client st next index sess later [.session index (.accepted pkt)]

variable {W K L : Type} {client : Client W K L} {st next : State W K} {events : List (Event K L)}
  {index : Nat}
  {sess later : SessionState K}

/-- Storing a record with the same reader. -/
theorem ReaderMove.stored {owner : Nat} {record new : SessionState K}
    (held : st.heap[owner]? = some record) (found : st.heap[index]? = some sess)
    (present : (st.heap.set owner new)[index]? = some later) (same : new.reader = record.reader)
    (quiet : ∀ event ∈ events, event.concerns index = false) :
    ReaderMove client st next index sess later events := by
  refine .aside ?_ quiet
  rcases set_cases held found present with ⟨_, rfl, rfl⟩ | ⟨_, rfl⟩
  · exact same
  · rfl

theorem send_concerns (index : Nat) {point : Send} {result : SendNext}
    (step : SendStep st point events next result) :
    (∀ event ∈ events, event.concerns index = false) ∨
      ∃ did pkt, point = .enqueue did index pkt ∧ events = [.session index (.accepted pkt)] := by
  cases step with
  | @accepted target =>
    by_cases same : target = index
    · subst same
      exact .inr ⟨_, _, rfl, rfl⟩
    · exact .inl (by simp [Event.concerns, same])
  | _ => exact .inl (by simp [Event.concerns])

theorem step_reader (step : Step client st events next) (found : st.heap[index]? = some sess)
    (present : next.heap[index]? = some later) :
    ReaderMove client st next index sess later events := by
  cases step with
  | register =>
    have bound := (List.getElem?_eq_some_iff.mp found).1
    simp only [State.registerSession, List.getElem?_append_left bound, found, Option.some.injEq]
      at present
    subst present
    exact .aside rfl (by simp [Event.concerns])
  | arrive bytes held | onceEnter _ held | closeConn _ _ held | closeNext _ held
  | onceLeave _ held =>
    exact .stored held found present rfl (by simp [Event.concerns])
  | closeOutbound _ held closed =>
    refine .stored held found present (closeOutbound_reader closed) ?_
    split <;> simp [Event.concerns]
  | @loopDone _ _ _ _ _ which _ _ held =>
    rcases set_cases held found present with ⟨_, rfl, rfl⟩ | ⟨_, rfl⟩
    · cases which with
      | read => exact .left rfl
      | write => exact .aside rfl (by simp)
    · exact .aside rfl (by simp)
  | send located sent =>
    have same := send_reader sent found present
    rcases send_concerns index sent with quiet | ⟨did, pkt, rfl, rfl⟩
    · exact .aside same quiet
    · exact .accepted ⟨did, .inl (by simp [located])⟩ same
  | writer held moved =>
    refine .stored held found present (writer_reader moved) ?_
    cases moved <;> simp
  | reader held moved =>
    rcases set_cases held found present with ⟨rfl, rfl, rfl⟩ | ⟨other, rfl⟩
    · exact .read moved
    · refine .aside rfl ?_
      cases moved <;> simp [Event.concerns, other]
  | control held running moved =>
    rcases set_cases held found present with ⟨rfl, rfl, rfl⟩ | ⟨other, rfl⟩
    · exact .control running moved rfl
    · exact .aside rfl (by simp [Event.concerns, other])
  | controlSend held running sent reached =>
    obtain ⟨middle, arrived, _⟩ := send_evolves sent found
    rcases set_cases reached arrived present with ⟨rfl, rfl, rfl⟩ | ⟨other, rfl⟩
    · cases Option.some.inj (held.symm.trans found)
      exact .controlSend running sent reached rfl
    · have same := send_reader sent found arrived
      rcases send_concerns index sent with quiet | ⟨did, pkt, rfl, rfl⟩
      · exact .aside same quiet
      · exact .accepted ⟨did, .inr ⟨_, _, _, other, held, running⟩⟩ same
  | _ =>
    cases Option.some.inj (found.symm.trans present)
    exact .aside rfl (by simp [Event.concerns])

end GotaDaemon.Ipc
