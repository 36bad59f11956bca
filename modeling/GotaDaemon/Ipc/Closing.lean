import GotaDaemon.Ipc.Departure
import GotaDaemon.Ipc.Teardown

/-! Who closes a connection. With unique DIDs no session drops out of the
manager's books: its connection is in the map, or in the hands of whoever took
it out of there, who can go on to close it, or closed. -/
namespace GotaDaemon.Ipc
open Go Transition
variable {W K L : Type} {client : Client W K L} {world : W} {st next : State W K}
  {events : List (Event K L)} {index : Nat} {did : DID} {sess : SessionState K}

theorem step_owed (step : Step client st events next) (lawful : (ledger index past st).Lawful)
    (unique : UniqueDids events) (owed : (ledger index past st).Owed) :
    (ledger index (past ++ events) next).Owed := by
  refine ((step_ledger step lawful).mono ?_ id).owed lawful owed
  rintro ⟨fresh, did, rfl⟩
  simpa using (unique.registered (List.mem_singleton.mpr rfl)).2

/-- Somebody owes the Conn.Close of every session that is not closed. -/
theorem runs_owed (run : Runs client world events st) (few : st.heap.length < 2 ^ 32)
    (index : Nat) :
    (ledger index events st).Owed := by
  suffices st.heap.length < 2 ^ 32 → (ledger index events st).Owed from this few
  apply run.invariant_reached (P := fun events st => st.heap.length < 2 ^ 32 →
    (ledger index events st).Owed)
  · exact fun _ => by simp [Ledger.Owed, ledger, State.initial, tally]
  · intro events st more next run ih step few
    have unique := step_unique step.2 (runs_addressed run) (runs_numbered run) few
    exact step_owed step.2 (runs_lawful run index) unique
      (ih (Nat.lt_of_le_of_lt (step_grows step.2) few))

/-- The goroutine has the session out of the map and its Conn.Close ahead. -/
def Goroutine.Removes (index : Nat) : Goroutine → Prop
  | .unregister _ (.once _ session _) | .unregister _ (.writeMu _ session _)
  | .unregister _ (.closeConn _ session _) => session = index
  | .close (.conns rest) => index ∈ rest
  | _ => False

theorem exists_hand {stage : Stage} (pending : 0 < inHand index stage st.running) :
    ∃ goroutine ∈ st.running, ∃ held, goroutine.inHand = some (stage, held) ∧ index ∈ held := by
  obtain ⟨count, member, positive⟩ := List.exists_mem_ne_zero_of_sum_ne_zero (Nat.ne_of_gt pending)
  obtain ⟨goroutine, running, rfl⟩ := List.mem_map.mp member
  refine ⟨goroutine, running, ?_⟩
  unfold Goroutine.hand at positive
  split at positive
  · rename_i at_ held has
    split at positive
    · rename_i same
      exact ⟨held, same ▸ has, List.count_pos_iff.mp (Nat.pos_of_ne_zero positive)⟩
    · contradiction
  · contradiction

theorem hand_le {goroutine : Goroutine} (running : goroutine ∈ st.running) (index : Nat)
    (stage : Stage) :
    goroutine.hand index stage ≤ inHand index stage st.running := by
  obtain ⟨before, after, located⟩ := List.append_of_mem running
  rw [located, inHand_append, inHand_cons]
  omega

/-- Between its removal and its Conn.Close a session is in somebody's hands. -/
theorem Ledger.Owed.cases (owed : (ledger index past st).Owed)
    (found : st.heap[index]? = some sess) :
    (∃ did, st.sessions.lookup did = some index) ∨
    (∃ goroutine ∈ st.running, goroutine.Removes index) ∨
      0 < sess.conn.closes := by
  have bound := (List.getElem?_eq_some_iff.mp found).1
  simp only [Ledger.Owed, ledger, if_pos bound, tally_held found, SessionState.closes] at owed
  have removes : ∀ stage, stage = .taken ∨ stage = .closing ∨ stage = .resetting →
      0 < inHand index stage st.running → ∃ goroutine ∈ st.running, goroutine.Removes index := by
    intro stage early pending
    obtain ⟨goroutine, running, held, has, member⟩ := exists_hand pending
    refine ⟨goroutine, running, ?_⟩
    unfold Goroutine.inHand at has
    split at has <;> cases has <;> simp_all [Goroutine.Removes]
  by_cases mapped : 0 < st.sessions.values.count index
  · exact .inl (Map.exists_lookup_of_mem (List.count_pos_iff.mp mapped))
  · by_cases closed : 0 < sess.conn.closes
    · exact .inr (.inr closed)
    · refine .inr (.inl ?_)
      by_cases taken : 0 < inHand index .taken st.running
      · exact removes _ (.inl rfl) taken
      · by_cases closing : 0 < inHand index .closing st.running
        · exact removes _ (.inr (.inl rfl)) closing
        · exact removes _ (.inr (.inr rfl)) (by omega)

section Progress

/-- Some continuation closes the session's connection. -/
def Closable (client : Client W K L) (index : Nat) (st : State W K) : Prop :=
  ∃ more later record, Run (Move client) st more later ∧ later.heap[index]? = some record ∧
    0 < record.conn.closes

theorem Closable.before (closable : Closable client index next)
    (move : Move client st events next) :
    Closable client index st := by
  obtain ⟨more, later, record, path, found, closed⟩ := closable
  exact ⟨_, later, record, (Run.single move).trans path, found, closed⟩

theorem held_allocated (run : Runs client world events st) {goroutine : Goroutine}
    (running : goroutine ∈ st.running) (stage : Stage)
    (early : stage ≠ .leaving ∧ stage ≠ .notifying) (held : 0 < goroutine.hand index stage) :
    ∃ sess, st.heap[index]? = some sess := by
  have owed := (runs_lawful run index).owed
  have counted := hand_le running index stage
  have bound : index < st.heap.length := by
    by_contra beyond
    simp only [ledger, if_neg beyond] at owed
    cases stage <;> simp_all
  exact ⟨_, List.getElem?_eq_getElem bound⟩

section Unregister
variable {before after : List Goroutine} {origin : Origin} {onClose : Bool}

theorem closable_closeConn (run : Runs client world events st)
    (located : st.running = before ++ .unregister origin (.closeConn did index onClose) :: after) :
    Closable client index st := by
  obtain ⟨sess, found⟩ : ∃ sess, st.heap[index]? = some sess :=
    held_allocated run (Pool.mem located)
    .closing (by simp) (by simp [Goroutine.hand, Goroutine.inHand])
  have bound := (List.getElem?_eq_some_iff.mp found).1
  exact ⟨_, _, _, .single ⟨(runs_no_panic run).1, .closeConn none located found⟩,
    List.getElem?_set_self bound, Nat.succ_pos _⟩

theorem closable_writeMu (run : Runs client world events st)
    (located : st.running = before ++ .unregister origin (.writeMu did index onClose) :: after) :
    Closable client index st := by
  obtain ⟨sess, found⟩ : ∃ sess, st.heap[index]? = some sess :=
    held_allocated run (Pool.mem located)
    .closing (by simp) (by simp [Goroutine.hand, Goroutine.inHand])
  have guarded := (runs_guarded run found).channel
  cases closing : sess.closeOutbound with
  | error reason =>
    obtain ⟨isOpen, closed⟩ := closeOutbound_panics closing
    simp [isOpen, closed] at guarded
  | ok later =>
    have move : Move client st _ _ := ⟨(runs_no_panic run).1, .closeOutbound located found closing⟩
    exact (closable_closeConn (run.next move) rfl).before move

theorem closable_once (run : Runs client world events st)
    (located : st.running = before ++ .unregister origin (.once did index onClose) :: after) :
    Closable client index st := by
  have held : 0 < Goroutine.hand index .taken (.unregister origin (.once did index onClose)) := by
    simp [Goroutine.hand, Goroutine.inHand]
  obtain ⟨sess, found⟩ := held_allocated run (Pool.mem located) .taken (by simp) held
  -- nobody else can have entered closeOnce.Do
  have fresh : sess.closeOnce = .fresh := by
    have single := (runs_lawful run index).single
    have once := (runs_lawful run index).once
    have counted := hand_le (Pool.mem located) index .taken
    simp only [ledger, tally_held found, SessionState.entered] at single once
    by_contra entered
    rw [if_neg entered] at single
    omega
  have move : Move client st _ _ := ⟨(runs_no_panic run).1, .onceEnter located found fresh⟩
  exact (closable_writeMu (run.next move) rfl).before move

end Unregister

theorem closable_conns {before after : List Goroutine} {rest : List Nat} (member : index ∈ rest)
    (run : Runs client world events st)
    (located : st.running = before ++ .close (.conns rest) :: after) :
    Closable client index st := by
  induction rest generalizing st events with
  | nil => simp at member
  | cons head rest ih =>
    obtain ⟨sess, found⟩ : ∃ sess, st.heap[head]? = some sess :=
      held_allocated run (Pool.mem located)
      .resetting (by simp) (by simp [Goroutine.hand, Goroutine.inHand])
    have bound := (List.getElem?_eq_some_iff.mp found).1
    have move : Move client st _ _ := ⟨(runs_no_panic run).1, .closeNext located found⟩
    rcases List.mem_cons.mp member with rfl | later
    · exact ⟨_, _, _, .single move, List.getElem?_set_self bound, Nat.succ_pos _⟩
    · exact (ih later (run.next move) rfl).before move

/-- A session in somebody's hands can be closed by that party's own moves. -/
theorem Goroutine.Removes.closable {goroutine : Goroutine} (removes : goroutine.Removes index)
    (run : Runs client world events st) (running : goroutine ∈ st.running) :
    Closable client index st := by
  obtain ⟨before, after, located⟩ := List.append_of_mem running
  cases goroutine with
  | unregister origin point =>
    cases point with
    | once => cases removes; exact closable_once run located
    | writeMu => cases removes; exact closable_writeMu run located
    | closeConn => cases removes; exact closable_closeConn run located
    | _ => exact removes.elim
  | send => exact removes.elim
  | close point =>
    cases point with
    | conns => exact closable_conns removes run located
    | _ => exact removes.elim

end Progress

/-- No API call, loop or started goroutine is in flight. -/
def Quiescent (st : State W K) : Prop :=
  st.running = [] ∧ ∀ sess ∈ st.heap, sess.reader = .exited ∧ sess.writer = .exited

theorem quiescent_single (quiet : st.running = []) (heap : st.heap = [sess])
    (reader : sess.reader = .exited) (writer : sess.writer = .exited) : Quiescent st :=
  ⟨quiet, by simp [heap, reader, writer]⟩

/-- A run goes on after SetOnClose. -/
theorem installed_runs {setup rest : List (Event K L)} {start : State W K}
    (before : Runs client world setup start)
    (after : Run (Move client) { start with onClose := true } rest st) :
    Runs client world (setup ++ [.setOnClose true] ++ rest) st :=
  (before.next ⟨(runs_no_panic before).1, .setOnClose true⟩).trans after

/-- A session is registered and unregistered, both loops end. -/
theorem departure_runs :
    ∃ (rest : List (Event Unit Unit)) (st : State Unit Unit) (sess : SessionState Unit),
    Run (Move idle) { State.initial Unit Unit () with onClose := true } rest st ∧
    rest = [.registered 0 1 none, .removed 0 1 none, .session 0 .closed, .onClose 0 1] ∧
    Quiescent st ∧ st.heap = [sess] ∧ sess.reader = .exited ∧ sess.writer = .exited ∧
    sess.conn.closes = 1 := by
  have start : Run (Move idle) { State.initial Unit Unit () with onClose := true } [] _ := .refl
  have registered := start.next ⟨rfl, .register⟩
  have called := registered.next ⟨rfl, .callUnregister 1⟩
  have taken :=
    called.next ⟨rfl, .take (rfl : _ = [] ++ Goroutine.unregister .caller (.enter 1) :: []) rfl⟩
  have entered :=
    taken.next
      ⟨rfl, .onceEnter (rfl : _ = [] ++ Goroutine.unregister .caller (.once 1 0 true) :: [])
    rfl rfl⟩
  have closed := entered.next ⟨rfl, .closeOutbound
    (rfl : _ = [] ++ Goroutine.unregister .caller (.writeMu 1 0 true) :: []) rfl rfl⟩
  have hungUp := closed.next ⟨rfl, .closeConn none
    (rfl : _ = [] ++ Goroutine.unregister .caller (.closeConn 1 0 true) :: []) rfl⟩
  have notified := hungUp.next ⟨rfl, .runOnClose
    (rfl : _ = [] ++ Goroutine.unregister .caller (.callback 1 0 true none) :: [])⟩
  have left :=
    notified.next
      ⟨rfl, .onceLeave (rfl : _ = [] ++ Goroutine.unregister .caller (.leave 1 0 none) :: []) rfl⟩
  have returned :=
    left.next ⟨rfl, .unregistered (rfl : _ = [] ++ Goroutine.unregister .caller (.finish _) :: [])
    (by simp)⟩
  have drained :=
    returned.next ⟨rfl, .writer (rfl : (State.heap _)[0]? = some _) (.drained rfl rfl)⟩
  have writerLooked := drained.next ⟨rfl, .takeMissing
    (rfl : _ = [] ++ Goroutine.unregister (.loop 0 .write) (.enter 1) :: []) rfl⟩
  have writerDone := writerLooked.next ⟨rfl, .loopDone
    (rfl : _ = [] ++ Goroutine.unregister (.loop 0 .write) (.finish _) :: []) rfl⟩
  have reading :=
    writerDone.next ⟨rfl, .reader (rfl : (State.heap _)[0]? = some _) (.proceed rfl rfl)⟩
  have failed := reading.next ⟨rfl, .reader (rfl : (State.heap _)[0]? = some _) (.headerFailed rfl)⟩
  have readerLooked := failed.next ⟨rfl, .takeMissing
    (rfl : _ = [] ++ Goroutine.unregister (.loop 0 .read) (.enter 1) :: []) rfl⟩
  have readerDone := readerLooked.next ⟨rfl, .loopDone
    (rfl : _ = [] ++ Goroutine.unregister (.loop 0 .read) (.finish _) :: []) rfl⟩
  exact ⟨_, _, _, readerDone, rfl, quiescent_single rfl rfl rfl rfl, rfl, rfl, rfl, rfl⟩

/-- No registered connection is lost: it is in the map under its DID, or in the
hands of a remover, which can go on to close it, or closed. Once the loops have
ended and nothing is in flight it is out of the map and closed. -/
theorem no_leaked_connection (run : Runs client world events st)
    (few : registrations events < 2 ^ 32) (found : st.heap[index]? = some sess) :
    (st.sessions.lookup sess.did = some index ∨
      ((∃ goroutine ∈ st.running, goroutine.Removes index) ∧ Closable client index st) ∨
      0 < sess.conn.closes) ∧
    (st.running = [] → sess.reader = .exited → sess.writer = .exited →
      (∀ did, st.sessions.lookup did ≠ some index) ∧ 0 < sess.conn.closes) := by
  rw [runs_registrations run] at few
  have owed := runs_owed run few index
  constructor
  · rcases owed.cases found with ⟨did, mapped⟩ | ⟨goroutine, running, removes⟩ | closed
    · obtain ⟨record, present, rfl⟩ := (runs_addressed run).entries mapped
      cases Option.some.inj (found.symm.trans present)
      exact .inl mapped
    · exact .inr (.inl ⟨⟨goroutine, running, removes⟩, removes.closable run running⟩)
    · exact .inr (.inr closed)
  · intro quiet reader _
    have absent := (runs_departed run few).exited found (.inl reader)
    have gone : ∀ did, st.sessions.lookup did ≠ some index := fun did mapped =>
      absent (Map.mem_values_of_lookup mapped)
    refine ⟨gone, ?_⟩
    rcases owed.cases found with ⟨did, mapped⟩ | ⟨goroutine, running, _⟩ | closed
    · exact absurd mapped (gone did)
    · simp [quiet] at running
    · exact closed

theorem no_leaked_connection_unregistered : ∃ (st : State Unit Unit) (sess : SessionState Unit),
    st.heap[0]? = some sess ∧ (∀ did, st.sessions.lookup did ≠ some 0) ∧ 0 < sess.conn.closes := by
  obtain ⟨rest, st, sess, run, rfl, quiescent, heap, reader, writer, _⟩ := departure_runs
  have start : Runs idle () [] (.initial Unit Unit ()) := .refl
  have found : st.heap[0]? = some sess := by simp [heap]
  have settled := no_leaked_connection (installed_runs start run) (by decide) found
  exact ⟨st, sess, found, settled.2 quiescent.1 reader writer⟩

end GotaDaemon.Ipc
