import GotaDaemon.Ipc.Allocation
import GotaDaemon.Ipc.Custody

/-! How a session leaves. A loop that ends runs UnregisterSession for its
session first, so a session with an ended loop is out of the map, whoever took
it out. -/
namespace GotaDaemon.Ipc
open Go Transition
variable {W K L : Type} {client : Client W K L} {world : W} {st next : State W K}
  {events : List (Event K L)} {index : Nat} {did : DID} {sess : SessionState K}

/-- The call is past its look into the map. -/
def Unregister.looked : Unregister → Bool
  | .enter _ => false
  | _ => true

theorem Unregister.Next.looked {before point : Unregister} (next : before.Next point) :
    before.looked = true := by
  cases next <;> rfl

/-- A loop of the session has been left for good. -/
def SessionState.Exited (sess : SessionState K) : Prop :=
  sess.reader = .exited ∨ sess.writer = .exited

/-- Where an UnregisterSession past its look into the map comes from. -/
theorem step_looked {origin : Origin} {point : Unregister} (step : Step client st events next)
    (running : .unregister origin point ∈ next.running) (looked : point.looked = true) :
    (∃ before, .unregister origin before ∈ st.running ∧ before.looked = true) ∨
    ∃ did, .unregister origin (.enter did) ∈ st.running ∧
      ((∃ held, st.sessions.lookup did = some held ∧ next.sessions = st.sessions.erase did) ∨
        (st.sessions.lookup did = none ∧ next.sessions = st.sessions)) := by
  rcases step_arises step _ running with old | arises
  · exact .inl ⟨point, old, looked⟩
  · cases arises with
    | unregister | deferred | dropped => contradiction
    | taken entering found erased => exact .inr ⟨_, entering, .inl ⟨_, found, erased⟩⟩
    | missing entering absent unchanged => exact .inr ⟨_, entering, .inr ⟨absent, unchanged⟩⟩
    | advanced before next => exact .inl ⟨_, before, next.looked⟩

section Exits
variable {later : SessionState K}

theorem exited_set {heap : List (SessionState K)} {owner : Nat} {old new : SessionState K}
    (found : (heap.set owner new)[index]? = some later) (exited : later.Exited)
    (held : heap[owner]? = some old) (stays : new.Exited → old.Exited) :
    ∃ sess, heap[index]? = some sess ∧ sess.Exited := by
  have bound := (List.getElem?_eq_some_iff.mp held).1
  by_cases same : owner = index
  · subst same
    rw [List.getElem?_set_self bound, Option.some.injEq] at found
    subst found
    exact ⟨old, held, stays exited⟩
  · rw [List.getElem?_set_ne same] at found
    exact ⟨later, found, exited⟩

theorem offer_exited {record new : SessionState K} {pkt : OutboundPacket} {outcome : Offer}
    (offered : record.offer pkt = .ok (outcome, new)) (exited : new.Exited) : record.Exited := by
  have done := offer_ok offered
  cases outcome with
  | closed =>
    obtain ⟨_, rfl⟩ := done
    exact exited
  | accepted =>
    obtain ⟨_, outbound, _, rfl⟩ := done
    exact exited
  | blocked =>
    obtain ⟨_, _, _, rfl⟩ := done
    exact exited

theorem send_exited {point : Send} {result : SendNext} (step : SendStep st point events next result)
    (found : next.heap[index]? = some later) (exited : later.Exited) :
    ∃ sess, st.heap[index]? = some sess ∧ sess.Exited := by
  cases step with
  | accepted held offered
  | blocked held offered => exact exited_set found exited held (offer_exited offered)
  | _ => exact ⟨later, found, exited⟩

theorem closeOutbound_exited {record new : SessionState K} (closed : record.closeOutbound = .ok new)
    (exited : new.Exited) : record.Exited := by
  cases wasClosed : record.isClosed with
  | false =>
    obtain ⟨_, rfl⟩ := closeOutbound_ok wasClosed closed
    exact exited
  | true =>
    simp only [SessionState.closeOutbound, wasClosed, if_true, Except.ok.injEq] at closed
    exact closed ▸ exited

theorem writer_exited {record new : SessionState K} {own : List SessionEvent}
    (moved : WriterStep cancelled record own new) (exited : new.Exited) : record.Exited := by
  cases moved <;> exact exited.imp id nofun

theorem reader_exited {record new : SessionState K} {own : List SessionEvent}
    (moved : ReaderStep cancelled onControl record own new) (exited : new.Exited) :
    record.Exited := by
  cases moved <;> exact exited.imp nofun id

theorem point_exited {record : SessionState K} {point : ReadLoop K} (running : point ≠ .exited)
    (exited : SessionState.Exited { record with reader := point }) : record.Exited :=
  .inr (exited.resolve_left running)

theorem act_running (act : Act K) : act.reader ≠ .exited := by
  cases act <;> simp [Act.reader]

theorem result_running (result : SendNext) (resume : Except SendError Unit → K) :
    result.reader resume ≠ .exited := by
  cases result <;> simp [SendNext.reader]

/-- A loop is left for good when its deferred UnregisterSession has returned. -/
theorem step_exited (step : Step client st events next) (found : next.heap[index]? = some later)
    (exited : later.Exited) : (∃ sess, st.heap[index]? = some sess ∧ sess.Exited) ∨
      ∃ which result, .unregister (.loop index which) (.finish result) ∈ st.running := by
  cases step with
  | register =>
    simp only [State.registerSession, List.getElem?_append] at found
    split at found
    · exact .inl ⟨later, found, exited⟩
    · rw [List.getElem?_singleton] at found
      split at found
      · cases found
        simp [SessionState.Exited, SessionState.new] at exited
      · contradiction
  | arrive _ held | onceEnter _ held | closeConn _ _ held | onceLeave _ held | closeNext _ held =>
    exact .inl (exited_set found exited held id)
  | closeOutbound _ held closed =>
    exact .inl (exited_set found exited held (closeOutbound_exited closed))
  | loopDone located held =>
    rename_i before after owner sess which result
    by_cases same : owner = index
    · subst same
      exact .inr ⟨which, result, Pool.mem located⟩
    · simp only [State.put_heap, List.getElem?_set_ne same] at found
      exact .inl ⟨later, found, exited⟩
  | send _ sent =>
    have kept := send_exited sent found exited
    exact .inl kept
  | writer held moved => exact .inl (exited_set found exited held (writer_exited moved))
  | reader held moved => exact .inl (exited_set found exited held (reader_exited moved))
  | control held running acted =>
    exact .inl (exited_set found exited held (point_exited (act_running _)))
  | controlSend held running sent reached =>
    obtain ⟨record, present, left⟩ :=
      exited_set found exited reached (point_exited (result_running _ _))
    exact .inl (send_exited sent present left)
  | _ => exact .inl ⟨later, found, exited⟩

end Exits

/-- A loop's deferred UnregisterSession has made sure that its session is not
in the map, and no session comes back. -/
structure Departed (st : State W K) : Prop where
  looked : ∀ {index which point}, .unregister (.loop index which) point ∈ st.running →
  point.looked = true →
    index < st.heap.length ∧ index ∉ st.sessions.values
  exited : ∀ {index sess}, st.heap[index]? = some sess → sess.Exited → index ∉ st.sessions.values

theorem step_values (step : Step client st events next) (mapped : index ∈ next.sessions.values) :
    index ∈ st.sessions.values ∨ index = st.heap.length := by
  obtain ⟨did, found⟩ := Map.exists_lookup_of_mem mapped
  cases step with
  | register =>
    simp only [State.registerSession] at found
    by_cases same : did = st.nextDID + 1
    · subst same
      rw [AList.lookup_insert, Option.some.injEq] at found
      exact .inr found.symm
    · rw [AList.lookup_insert_ne same] at found
      exact .inl (Map.mem_values_of_lookup found)
  | take => exact .inl (Map.mem_values_of_lookup (Map.lookup_of_erase found))
  | closeReset => simp at found
  | send _ sent | controlSend _ _ sent _ =>
    simp only [State.spawn_sessions, State.put_sessions, (send_frame sent).2.2.1] at mapped
    exact .inl mapped
  | _ => exact .inl mapped

theorem step_departed (step : Step client st events next) (addressed : Addressed st)
    (numbered : Numbered st) (lawful : ∀ index, (ledger index past st).Lawful)
    (few : st.heap.length < 2 ^ 32) (departed : Departed st) : Departed next := by
  have gone : ∀ {index}, index < st.heap.length → index ∉ st.sessions.values →
      index ∉ next.sessions.values := fun bound absent mapped =>
    (step_values step mapped).elim absent (Nat.ne_of_lt bound)
  constructor
  · intro index which point running looked
    rcases step_looked step running looked with ⟨before, member, was⟩ | ⟨did, member, outcome⟩
    · obtain ⟨bound, absent⟩ := departed.looked member was
      exact ⟨Nat.lt_of_lt_of_le bound (step_grows step), gone bound absent⟩
    · have owner := addressed.running _ member index rfl
      obtain ⟨bound, same⟩ := numbered.owns owner
      refine ⟨Nat.lt_of_lt_of_le bound (step_grows step), ?_⟩
      rcases outcome with ⟨held, found, erased⟩ | ⟨absent, unchanged⟩
      · obtain ⟨bound', same'⟩ := numbered.owns (addressed.entries found)
        obtain rfl := didOf_injective (by omega) (by omega) (same.symm.trans same')
        have counted := Map.count_erase found index
        have single := (lawful index).single
        have once := (lawful index).once
        simp only [ledger, if_true] at counted single once
        rw [erased]
        exact List.count_eq_zero.mp (by omega)
      · rw [unchanged]
        intro mapped
        obtain ⟨key, found⟩ := Map.exists_lookup_of_mem mapped
        rw [(numbered.owns (addressed.entries found)).2, ← same, absent] at found
        contradiction
  · intro index later found exited
    rcases step_exited step found exited with ⟨sess, present, was⟩ | ⟨which, result, member⟩
    · exact gone (List.getElem?_eq_some_iff.mp present).1 (departed.exited present was)
    · obtain ⟨bound, absent⟩ := departed.looked member rfl
      exact gone bound absent

theorem runs_departed (run : Runs client world events st) (few : st.heap.length < 2 ^ 32) :
    Departed st := by
  suffices st.heap.length < 2 ^ 32 → Departed st from this few
  apply run.invariant_reached (P := fun _ st => st.heap.length < 2 ^ 32 → Departed st)
  · intro _
    constructor <;> simp [State.initial]
  · intro events st more next run ih step few
    have before := Nat.lt_of_le_of_lt (step_grows step.2) few
    exact step_departed step.2 (runs_addressed run) (runs_numbered run)
      (runs_lawful run) before (ih before)

end GotaDaemon.Ipc
