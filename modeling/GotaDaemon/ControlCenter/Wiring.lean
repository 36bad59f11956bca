import GotaDaemon.ControlCenter.Dispatcher
import GotaDaemon.Ipc.Goroutines
import GotaDaemon.Ipc.Readers

/-! A manager whose control callback is the dispatcher's and whose SendToLocal
nobody else calls: every readLoop works for the DID of its own session. -/
namespace GotaDaemon.ControlCenter
open Go Transition Ipc

abbrev WiredState (W : Type) := State (Dispatcher W × W) (Activation W)

abbrev WiredEvent (W : Type) := Event (Activation W) (Label W)

variable {W : Type}

def Activation.Serves (did : DID) : Activation W → Prop
  | .dispatch owner _ _ | .handler owner _ _ _ | .reply owner _ => owner = did
  | .done => True

/-- What a callback in progress does, it does for this DID. -/
def Serves (did : DID) : ReadLoop (Activation W) → Prop
  | .control activation => activation.Serves did
  | .sending call resume => call.did = did ∧ ∀ result, resume result = .done
  | _ => True

structure Wired (st : WiredState W) : Prop where
  installed : st.onControl = some onControl
  unsent : ∀ call, .send call ∉ st.running
  serving : ∀ {index : Nat} {sess : SessionState (Activation W)}, st.heap[index]? = some sess →
    Serves sess.did sess.reader

variable {st next : WiredState W} {events more : List (WiredEvent W)} {index : Nat}
  {sess later : SessionState (Activation W)} {did : DID}

theorem reader_serves {own : List SessionEvent}
    (moved : ReaderStep cancelled (some onControl) sess own later) :
    Serves later.did later.reader := by
  cases moved with
  | call at_ installed =>
    cases installed
    exact (rfl : sess.did = sess.did)
  | _ => trivial

theorem move_serves {activation : Activation W} {label : Label W} {world after : Dispatcher W × W}
    {act : Act (Activation W)} (served : activation.Serves did)
    (moved : (wired W).step world activation label after act) : Serves did act.reader := by
  have result : activation.move world.1 world.2 = (label, after, act) := moved
  cases activation with
  | dispatch owner opcode payload =>
    simp only [Activation.move] at result
    split at result <;> cases result <;> exact served
  | handler =>
    cases result
    exact served
  | reply =>
    cases result
    exact ⟨served, fun _ => rfl⟩
  | done =>
    cases result
    trivial

theorem send_serves {call : Send} {resume : Except SendError Unit → Activation W}
    {result : SendNext} (served : Serves did (.sending call resume))
    (step : SendStep st call events next result) :
    Serves did (result.reader resume) := by
  obtain ⟨same, returns⟩ := served
  cases step with
  | found | blocked | panicked => exact ⟨same, returns⟩
  | missing | accepted | closed | drop =>
    simp only [SendNext.reader, Serves, returns]
    trivial

theorem Wired.sentByOther (wired : Wired st) {pkt : OutboundPacket}
    (sent : SentByOther st index pkt) :
    ∃ owner record resume, owner ≠ index ∧ st.heap[owner]? = some record ∧
      record.reader = .sending (.enqueue record.did index pkt) resume := by
  obtain ⟨did, running | ⟨owner, record, resume, other, held, sending⟩⟩ := sent
  · exact absurd running (wired.unsent _)
  · have served := wired.serving held
    rw [sending] at served
    obtain ⟨rfl, _⟩ := served
    exact ⟨owner, record, resume, other, held, sending⟩

theorem step_serving (wired : Wired st) (step : Step (ControlCenter.wired W) st events next)
    (present : next.heap[index]? = some later) : Serves later.did later.reader := by
  rcases step_record step present with ⟨sess, found, same⟩ | ⟨_, did, _, rfl, _⟩
  · have served := wired.serving found
    cases step_reader step found present with
    | aside unmoved | accepted _ unmoved => rwa [unmoved, same]
    | left gone =>
      rw [gone]
      trivial
    | read moved =>
      rw [wired.installed] at moved
      exact reader_serves moved
    | control running moved made =>
      rw [running] at served
      subst made
      exact move_serves served moved
    | controlSend running sent reached made =>
      rw [running] at served
      subst made
      rw [same]
      exact send_serves served sent
  · trivial

theorem step_installed (step : Step (wired W) st events next)
    (kept : ∀ callback, .setControlCallback callback ∉ events) :
    next.onControl = st.onControl := by
  cases step with
  | setControlCallback callback => exact absurd (List.mem_singleton.mpr rfl) (kept callback)
  | send _ sent | controlSend _ _ sent => simpa using (send_frame sent).2.2.2.2.2
  | _ => rfl

theorem step_unsent (unsent : ∀ call, .send call ∉ st.running)
    (step : Step (wired W) st events next) (alone : ∀ did, .sendCalled did ∉ events) (call : Send) :
    .send call ∉ next.running := by
  intro member
  rcases step_arises step _ member with old | arises
  · exact unsent call old
  · cases arises with
    | send called => exact alone _ called
    | found running | blocked running => exact unsent _ running

theorem Wired.step (wired : Wired st) (step : Step (ControlCenter.wired W) st events next)
    (kept : ∀ callback, .setControlCallback callback ∉ events)
    (alone : ∀ did, .sendCalled did ∉ events) :
    Wired next where
  installed := (step_installed step kept).trans wired.installed
  unsent := step_unsent wired.unsent step alone
  serving := step_serving wired step

section Runs
variable {setup rest : List (WiredEvent W)} {start : WiredState W} {w : W}

theorem runs_unsent (run : Runs (wired W) (.new, w) events st)
    (alone : ∀ did, .sendCalled did ∉ events) :
    ∀ call, .send call ∉ st.running := by
  revert alone
  apply run.invariant (P := fun (events : List (WiredEvent W)) st =>
    (∀ did, .sendCalled did ∉ events) → ∀ call, .send call ∉ st.running)
  · simp [State.initial]
  · intro events st more next ih step alone
    simp only [List.mem_append, not_or, forall_and] at alone
    exact step_unsent (ih alone.1) step.2 alone.2

/-- The callback is set before any session is registered. -/
theorem wired_start (before : Runs (wired W) (.new, w) setup start)
    (alone : ∀ did, .sendCalled did ∉ setup) (empty : start.heap = []) :
    Wired { start with onControl := some onControl } := by
  have unsent := runs_unsent before alone
  exact ⟨rfl, unsent, fun found => by simp [empty] at found⟩

end Runs

end GotaDaemon.ControlCenter
