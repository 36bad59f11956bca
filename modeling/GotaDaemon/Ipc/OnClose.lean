import GotaDaemon.Ipc.Closing

/-! Who hears of a closed session. A session that Close takes out of the map is
the one kind of which onClose is never told. -/
namespace GotaDaemon.Ipc
open Go Transition
variable {W K L : Type} {client : Client W K L} {world : W} {st next : State W K}
  {events : List (Event K L)} {index : Nat} {did : DID} {sess : SessionState K}

/-- An installed callback stays installed, and every UnregisterSession that has
looked into the map has picked it up. -/
structure Listening (st : State W K) : Prop where
  installed : st.onClose = true
  running : ∀ goroutine ∈ st.running, ¬goroutine.Unnotified

theorem Unregister.Next.unnotified {origin : Origin} {before point : Unregister}
    (next : before.Next point) (silent : (Goroutine.unregister origin point).Unnotified) :
    (Goroutine.unregister origin before).Unnotified := by
  cases next with
  | skip | callback | leave => exact silent.elim
  | _ => exact silent

theorem step_onClose_installed (step : Step client st events next)
    (kept : .setOnClose false ∉ events) (installed : st.onClose = true) : next.onClose = true := by
  cases step with
  | setOnClose value =>
    cases value with
    | true => rfl
    | false => simp at kept
  | send _ sent | controlSend _ _ sent _ =>
    have same := (send_frame sent).2.2.2.2.1
    exact same.trans installed
  | _ => exact installed

theorem step_listening (step : Step client st events next) (kept : .setOnClose false ∉ events)
    (listening : Listening st) : Listening next := by
  refine ⟨step_onClose_installed step kept listening.installed, fun goroutine member silent => ?_⟩
  rcases step_arises step goroutine member with old | arises
  · exact listening.running goroutine old silent
  · cases arises with
    | taken => simp [Goroutine.Unnotified, listening.installed] at silent
    | advanced before next => exact listening.running _ before (next.unnotified silent)
    | _ => exact silent

theorem step_noticed (step : Step client st events next) (lawful : (ledger index past st).Lawful)
    (unique : UniqueDids events) (listening : Listening st)
    (noticed : (ledger index past st).Noticed) :
    (ledger index (past ++ events) next).Noticed := by
  refine ((step_ledger step lawful).mono ?_ ?_).noticed lawful noticed
  · rintro ⟨fresh, did, rfl⟩
    simpa using (unique.registered (List.mem_singleton.mpr rfl)).2
  · rintro ⟨goroutine, member, silent⟩
    exact listening.running goroutine member silent

section Installed
variable {setup rest : List (Event K L)} {start : State W K}

/-- Before the first registration nobody has picked up a callback. -/
theorem unregistered_listening (before : Runs client world setup start)
    (fresh : registrations setup = 0) :
    Listening { start with onClose := true } := by
  refine ⟨rfl, fun goroutine member silent => ?_⟩
  have empty : start.heap = [] :=
    List.length_eq_zero_iff.mp ((runs_registrations before).symm.trans fresh)
  have addressed := (runs_addressed before).running goroutine member
  have nobody : ∀ {index did}, ¬start.Owns index did := by simp [State.Owns, empty]
  unfold Goroutine.Unnotified at silent
  split at silent
  · exact nobody addressed
  · exact nobody addressed
  · exact nobody addressed
  · exact nobody addressed
  · exact silent

theorem runs_noticed (before : Runs client world setup start) (fresh : registrations setup = 0)
    (after : Run (Move client) { start with onClose := true } rest st)
    (kept : .setOnClose false ∉ rest) (few : st.heap.length < 2 ^ 32) (index : Nat) :
    (ledger index (setup ++ [.setOnClose true] ++ rest) st).Noticed := by
  suffices .setOnClose false ∉ rest → Listening st ∧ (st.heap.length < 2 ^ 32 →
      (ledger index (setup ++ [.setOnClose true] ++ rest) st).Noticed) from (this kept).2 few
  apply after.invariant_reached (P := fun (rest : List (Event K L)) st => .setOnClose false ∉ rest →
    Listening st ∧
    (st.heap.length < 2 ^ 32 →
    (ledger index (setup ++ [Event.setOnClose true] ++ rest) st).Noticed))
  · refine fun _ => ⟨unregistered_listening before fresh, fun _ => ?_⟩
    have lawful := runs_lawful (installed_runs before .refl) index
    have none :
        (ledger index (setup ++ [.setOnClose true] ++ [])
          { start with onClose := true }).registered = 0 := by
      simp [ledger, ← runs_registrations before, fresh]
    have notice := lawful.notice
    unfold Ledger.Noticed
    omega
  · intro rest st more next after ih step kept
    rw [List.mem_append, not_or] at kept
    obtain ⟨listening, noticed⟩ := ih kept.1
    refine ⟨step_listening step.2 kept.2 listening, fun few => ?_⟩
    have run := installed_runs before after
    have unique := step_unique step.2 (runs_addressed run) (runs_numbered run) few
    rw [← List.append_assoc]
    exact step_noticed step.2 (runs_lawful run index) unique listening
      (noticed (Nat.lt_of_le_of_lt (step_grows step.2) few))

theorem step_onClose (step : Step client st events next) (addressed : Addressed st)
    (member : .onClose index did ∈ events) : st.Owns index did := by
  cases step with
  | runOnClose located =>
    cases List.mem_singleton.mp member
    exact addressed.running _ (Pool.mem located)
  | send _ sent | controlSend _ _ sent _ => cases sent <;> simp at member
  | closeOutbound => split at member <;> simp at member
  | _ => simp at member

/-- onClose is run with the DID of the session that was closed. -/
theorem runs_onClose (run : Runs client world events st) (member : .onClose index did ∈ events) :
    st.Owns index did := by
  suffices .onClose index did ∈ events → st.Owns index did from this member
  apply run.invariant_reached (P := fun (events : List (Event K L)) st =>
    .onClose index did ∈ events → st.Owns index did)
  · simp
  · intro events st more next run ih step member
    apply step_owns step.2
    exact (List.mem_append.mp member).elim ih (step_onClose step.2 (runs_addressed run))

theorem onClose_of_count (once : 0 < onCloseCount index events) :
    ∃ did, .onClose index did ∈ events := by
  obtain ⟨count, member, positive⟩ := List.exists_mem_ne_zero_of_sum_ne_zero (Nat.ne_of_gt once)
  obtain ⟨event, inside, rfl⟩ := List.mem_map.mp member
  unfold Event.notified at positive
  split at positive
  · rename_i held did
    split at positive
    · rename_i same
      exact ⟨did, same ▸ inside⟩
    · contradiction
  · contradiction

theorem resets_pos {active : List Nat} (reset : .reset active ∈ events) (member : index ∈ active) :
    0 < (events.map (Event.resets index)).sum := by
  obtain ⟨before, after, rfl⟩ := List.append_of_mem reset
  have counted := List.count_pos_iff.mpr member
  simp only [List.map_append, List.map_cons, Event.resets, List.sum_append, List.sum_cons]
  omega

/-- With the callback installed before the first registration, every closed
session has had its onClose, once and with its DID, in exactly those runs in
which no Close found a session to remove. -/
theorem onClose_iff (before : Runs client world setup start) (fresh : registrations setup = 0)
    (after : Run (Move client) { start with onClose := true } rest st)
    (kept : .setOnClose false ∉ rest) (few : registrations rest < 2 ^ 32)
    (quiescent : Quiescent st) :
    (∀ index sess, st.heap[index]? = some sess → 0 < sess.conn.closes →
      onCloseCount index (setup ++ [.setOnClose true] ++ rest) = 1 ∧
      .onClose index sess.did ∈ setup ++ [.setOnClose true] ++ rest) ↔
    ∀ active, .reset active ∈ setup ++ [.setOnClose true] ++ rest → active = [] := by
  have run := installed_runs before after
  have length : st.heap.length < 2 ^ 32 := by
    rw [← runs_registrations run]
    simpa [registrations, Event.isRegistration, List.countP_append] using
      (show registrations setup + registrations rest < 2 ^ 32 by omega)
  -- nothing is in anybody's hands, so the ledgers come down to three columns
  have books : ∀ index sess, st.heap[index]? = some sess →
      st.sessions.values.count index + sess.conn.closes = 1 ∧
      st.sessions.values.count index + onCloseCount index (setup ++ [.setOnClose true] ++ rest) +
        ((setup ++ [Event.setOnClose true] ++ rest).map (Event.resets index)).sum = 1 := by
    intro index sess found
    have bound := (List.getElem?_eq_some_iff.mp found).1
    have owed := runs_owed run length index
    have noticed := runs_noticed before fresh after kept length index
    simp only [Ledger.Owed, Ledger.Noticed, ledger, quiescent.1, inHand_nil, if_pos bound,
      tally_held found,
      SessionState.closes, Nat.add_zero, onCloseCount] at owed noticed ⊢
    exact ⟨owed, noticed⟩
  constructor
  · intro told active reset
    by_contra nonempty
    obtain ⟨index, member⟩ := List.exists_mem_of_ne_nil active nonempty
    have positive := resets_pos reset member
    have bound : index < st.heap.length := by
      have notice := (runs_lawful run index).notice
      simp only [ledger] at notice
      by_contra beyond
      rw [if_neg beyond] at notice
      omega
    have found := List.getElem?_eq_getElem bound
    obtain ⟨owed, noticed⟩ := books index _ found
    have once := (told index _ found (by omega)).1
    omega
  · intro empty index sess found closed
    obtain ⟨owed, noticed⟩ := books index sess found
    have none : ((setup ++ [Event.setOnClose true] ++ rest).map (Event.resets index)).sum = 0 := by
      apply List.sum_eq_zero
      intro count member
      obtain ⟨event, inside, rfl⟩ := List.mem_map.mp member
      unfold Event.resets
      split
      · rename_i active
        rw [empty active inside, List.count_nil]
      · rfl
    have once : onCloseCount index (setup ++ [.setOnClose true] ++ rest) = 1 := by omega
    obtain ⟨did, member⟩ := onClose_of_count (Nat.lt_of_lt_of_eq Nat.one_pos once.symm)
    obtain ⟨record, present, rfl⟩ := runs_onClose run member
    cases Option.some.inj (found.symm.trans present)
    exact ⟨once, member⟩

end Installed

/-- A session is registered, the manager is closed, both loops end. -/
theorem shutdown_runs :
    ∃ (rest : List (Event Unit Unit)) (st : State Unit Unit) (sess : SessionState Unit),
    Run (Move idle) { State.initial Unit Unit () with onClose := true } rest st ∧
    rest = [.registered 0 1 none, .reset [0]] ∧ Quiescent st ∧ st.heap = [sess] ∧
    sess.conn.closes = 1 := by
  have start : Run (Move idle) { State.initial Unit Unit () with onClose := true } [] _ := .refl
  have registered := start.next ⟨rfl, .register⟩
  have called := registered.next ⟨rfl, .callClose⟩
  have cancelled := called.next ⟨rfl, .closeCancel (rfl : _ = [] ++ Goroutine.close .cancel :: [])⟩
  have reset :=
    cancelled.next ⟨rfl, .closeReset [0] (rfl : _ = [] ++ Goroutine.close .reset :: []) (.refl _)⟩
  have hungUp :=
    reset.next ⟨rfl, .closeNext (rfl : _ = [] ++ Goroutine.close (.conns [0]) :: []) rfl⟩
  have readerLeft :=
    hungUp.next ⟨rfl, .reader (rfl : (State.heap _)[0]? = some _) (.cancelled rfl rfl)⟩
  have readerLooked := readerLeft.next ⟨rfl, .takeMissing
    (rfl : _ = [Goroutine.close (.conns [])] ++
      Goroutine.unregister (.loop 0 .read) (.enter 1) :: []) rfl⟩
  have readerDone := readerLooked.next ⟨rfl, .loopDone
    (rfl : _ = [Goroutine.close (.conns [])] ++
      Goroutine.unregister (.loop 0 .read) (.finish _) :: []) rfl⟩
  have writerLeft :=
    readerDone.next ⟨rfl, .writer (rfl : (State.heap _)[0]? = some _) (.cancelled rfl rfl)⟩
  have writerLooked := writerLeft.next ⟨rfl, .takeMissing
    (rfl : _ = [Goroutine.close (.conns [])] ++
      Goroutine.unregister (.loop 0 .write) (.enter 1) :: []) rfl⟩
  have writerDone := writerLooked.next ⟨rfl, .loopDone
    (rfl : _ = [Goroutine.close (.conns [])] ++
      Goroutine.unregister (.loop 0 .write) (.finish _) :: []) rfl⟩
  have done :=
    writerDone.next ⟨rfl, .closeWait (rfl : _ = [] ++ Goroutine.close (.conns []) :: []) rfl⟩
  exact ⟨_, _, _, done, rfl, quiescent_single rfl rfl rfl rfl, rfl, rfl⟩

/-- Close closes the connection and nobody calls onClose. -/
theorem shutdown_unnoticed :
    ∃ (rest : List (Event Unit Unit)) (st : State Unit Unit) (sess : SessionState Unit),
    Run (Move idle) { State.initial Unit Unit () with onClose := true } rest st ∧
    .setOnClose false ∉ rest ∧ registrations rest < 2 ^ 32 ∧ Quiescent st ∧
    st.heap[0]? = some sess ∧ 0 < sess.conn.closes ∧
    onCloseCount 0 ([.setOnClose true] ++ rest) = 0 := by
  obtain ⟨rest, st, sess, run, rfl, quiescent, heap, closed⟩ := shutdown_runs
  exact ⟨_, st, sess, run, by simp, by decide, quiescent, by simp [heap], by omega, rfl⟩

theorem onClose_iff_unregistered : ∃ (rest : List (Event Unit Unit)) (st : State Unit Unit)
    (sess : SessionState Unit), st.heap[0]? = some sess ∧
    onCloseCount 0 ([] ++ [.setOnClose true] ++ rest) = 1 ∧
    .onClose 0 sess.did ∈ [] ++ [Event.setOnClose true] ++ rest := by
  obtain ⟨rest, st, sess, run, rfl, quiescent, heap, _, _, closed⟩ := departure_runs
  have start : Runs idle () [] (.initial Unit Unit ()) := .refl
  have told := (onClose_iff start rfl run (by simp) (by decide) quiescent).mpr (by simp)
  exact ⟨_, st, sess, by simp [heap], told 0 sess (by simp [heap]) (by omega)⟩

end GotaDaemon.Ipc
