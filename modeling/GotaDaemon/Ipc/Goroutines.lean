import GotaDaemon.Ipc.SessionRuns

/-! Where the goroutines of a state come from: each has been there before the
last step, or has been started by it, or is one of the former a step further. -/
namespace GotaDaemon.Ipc
open Go Transition

/-- Moves of UnregisterSession once it holds a session. -/
inductive Unregister.Next : Unregister → Unregister → Prop where
  | enter : Next (.once did session onClose) (.writeMu did session onClose)
  | skip : Next (.once did session onClose) (.finish result)
  | outbound : Next (.writeMu did session onClose) (.closeConn did session onClose)
  | conn : Next (.closeConn did session onClose) (.callback did session onClose closeErr)
  | callback : Next (.callback did session onClose closeErr) (.leave did session closeErr)
  | leave : Next (.leave did session closeErr) (.finish result)

def Goroutine.call : Goroutine → Option Send
  | .send point => some point
  | _ => none

def ReadLoop.call {K : Type} : ReadLoop K → Option Send
  | .sending point _ => some point
  | _ => none

variable {W K L : Type}

/-- All SendToLocal calls in flight. -/
def State.calls (st : State W K) : List Send :=
  st.running.filterMap Goroutine.call ++ st.heap.filterMap fun sess => sess.reader.call

/-- How a step has made a goroutine. -/
inductive Arises (st next : State W K) (events : List (Event K L)) : Goroutine → Prop where
  | unregister : Arises st next events (.unregister .caller (.enter did))
  | send : .sendCalled did ∈ events → Arises st next events (.send (.lookup did pkt))
  | close : Arises st next events (.close point)
  | deferred : st.heap[index]? = some sess →
      Arises st next events (.unregister (.loop index which) (.enter sess.did))
  | dropped : .drop did session ∈ st.calls →
      Arises st next events (.unregister (.dropped session) (.enter did))
  | found : .send (.lookup did pkt) ∈ st.running → st.sessions.lookup did = some session →
      Arises st next events (.send (.enqueue did session pkt))
  | blocked : .send (.enqueue did session pkt) ∈ st.running →
      Arises st next events (.send (.drop did session))
  | taken : .unregister origin (.enter did) ∈ st.running → st.sessions.lookup did = some session →
      next.sessions = st.sessions.erase did →
      Arises st next events (.unregister origin (.once did session st.onClose))
  | missing : .unregister origin (.enter did) ∈ st.running → st.sessions.lookup did = none →
      next.sessions = st.sessions →
        Arises st next events (.unregister origin (.finish (.error (.notFound did))))
  | advanced : .unregister origin before ∈ st.running → before.Next point →
      Arises st next events (.unregister origin point)

variable {client : Client W K L} {st next : State W K} {events : List (Event K L)} {index : Nat}
  {sess : SessionState K}

theorem replaced {before after : List Goroutine} {old new goroutine : Goroutine}
    (located : st.running = before ++ old :: after) (arises : Arises st next events new)
    (member : goroutine ∈ before ++ new :: after) :
    goroutine ∈ st.running ∨ Arises st next events goroutine := by
  rcases Pool.replaced located member with rfl | present
  · exact .inr arises
  · exact .inl present

theorem started {new goroutine : Goroutine} (arises : Arises st next events new)
    (member : goroutine ∈ st.running ++ [new]) :
    goroutine ∈ st.running ∨ Arises st next events goroutine := by
  rcases List.mem_append.mp member with old | last
  · exact .inl old
  · rw [List.mem_singleton.mp last]
    exact .inr arises

theorem calls_running {point : Send} (member : .send point ∈ st.running) : point ∈ st.calls :=
  List.mem_append_left _ (List.mem_filterMap.mpr ⟨_, member, rfl⟩)

theorem calls_reader {point : Send} {resume : Except SendError Unit → K}
    (held : st.heap[index]? = some sess) (sending : sess.reader = .sending point resume) :
    point ∈ st.calls :=
  List.mem_append_right _
    (List.mem_filterMap.mpr ⟨sess, List.mem_of_getElem? held, by rw [sending, ReadLoop.call]⟩)

section Send
variable {point : Send} {result : SendNext} {after : State W K} {more : List (Event K L)}
  {goroutine : Goroutine}

theorem spawned_arises (step : SendStep st point events next result) (call : point ∈ st.calls)
    (member : goroutine ∈ result.spawned) : Arises st after more goroutine := by
  cases step with
  | drop =>
    cases List.mem_singleton.mp member
    exact .dropped call
  | _ => simp [SendNext.spawned] at member

theorem caller_arises (step : SendStep st point events next result)
    (running : .send point ∈ st.running) (member : goroutine ∈ result.caller) :
    goroutine = .send point ∨ Arises st after more goroutine := by
  cases step with
  | found found =>
    cases List.mem_singleton.mp member
    exact .inr (.found running found)
  | blocked =>
    cases List.mem_singleton.mp member
    exact .inr (.blocked running)
  | panicked => exact .inl (List.mem_singleton.mp member)
  | _ => simp [SendNext.caller] at member

end Send

theorem deferredReader_arises {goroutine : Goroutine} {record : SessionState K}
    (held : st.heap[index]? = some record) (same : sess.did = record.did)
    (member : goroutine ∈ deferredReader index sess) : Arises st next events goroutine := by
  unfold deferredReader at member
  split at member
  · rw [List.mem_singleton.mp member, same]
    exact .deferred held
  · simp at member

theorem deferredWriter_arises {goroutine : Goroutine} {record : SessionState K}
    (held : st.heap[index]? = some record) (same : sess.did = record.did)
    (member : goroutine ∈ deferredWriter index sess) : Arises st next events goroutine := by
  unfold deferredWriter at member
  split at member
  · rw [List.mem_singleton.mp member, same]
    exact .deferred held
  · simp at member

theorem step_arises (step : Step client st events next) :
    ∀ goroutine ∈ next.running, goroutine ∈ st.running ∨ Arises st next events goroutine := by
  intro goroutine member
  cases step with
  | callUnregister => exact started .unregister member
  | callSend => exact started (.send (by simp)) member
  | callClose => exact started .close member
  | take located found => exact replaced located (.taken (Pool.mem located) found rfl) member
  | takeMissing located absent =>
    exact replaced located (.missing (Pool.mem located) absent rfl) member
  | onceEnter located => exact replaced located (.advanced (Pool.mem located) .enter) member
  | onceSkip located => exact replaced located (.advanced (Pool.mem located) .skip) member
  | closeOutbound located => exact replaced located (.advanced (Pool.mem located) .outbound) member
  | closeConn _ located => exact replaced located (.advanced (Pool.mem located) .conn) member
  | runOnClose located | skipOnClose located =>
    exact replaced located (.advanced (Pool.mem located) .callback) member
  | onceLeave located => exact replaced located (.advanced (Pool.mem located) .leave) member
  | closeCancel located | closeReset _ located
  | closeNext located => exact replaced located .close member
  | unregistered located | loopDone located
  | closeWait located => exact .inl ((Pool.fewer located).subset member)
  | send located sent =>
    have call := calls_running (Pool.mem located)
    simp only [List.append_assoc, List.mem_append] at member
    rcases member with old | caller | old | spawned
    · exact .inl ((Pool.fewer located).subset (List.mem_append_left _ old))
    · rcases caller_arises sent (Pool.mem located) caller with rfl | arises
      · exact .inl (Pool.mem located)
      · exact .inr arises
    · exact .inl ((Pool.fewer located).subset (List.mem_append_right _ old))
    · exact .inr (spawned_arises sent call spawned)
  | writer held moved =>
    exact (List.mem_append.mp member).imp_right
      (deferredWriter_arises held (session_did (.writer moved)))
  | reader held moved =>
    exact (List.mem_append.mp member).imp_right
      (deferredReader_arises held (session_did (.reader moved)))
  | controlSend held running sent =>
    rcases List.mem_append.mp member with old | spawned
    · rw [State.put_running, (send_frame sent).2.2.2.1] at old
      exact .inl old
    · exact .inr (spawned_arises sent (calls_reader held running) spawned)
  | _ => exact .inl member

end GotaDaemon.Ipc
