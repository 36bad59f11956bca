import GotaDaemon.Ipc.Draining

/-! Until everybody is gone, somebody can move: no two goroutines wait for each
other, and a Close waits for loops that can all be left. -/
namespace GotaDaemon.Ipc
open Go Transition

variable {W K L : Type} {client : Client W K L} {world : W} {st next : State W K}
  {events more : List (Event K L)} {index : Nat} {sess later : SessionState K}

section Sweeping

end Sweeping

section Moves
variable {before after : List Goroutine} {old new : Goroutine}

/-- The step takes no readLoop out of a read. -/
def ReadersStay (st next : State W K) : Prop :=
  ∀ (index : Nat) (sess later : SessionState K), st.heap[index]? = some sess →
    next.heap[index]? = some later → later.reader = sess.reader ∨ later.reader ≠ .deferred

theorem ReadersStay.same (heap : next.heap = st.heap) : ReadersStay st next := by
  intro index sess later found present
  rw [heap, found, Option.some.injEq] at present
  exact .inl (congrArg SessionState.reader present.symm)

theorem ReadersStay.stored {owner : Nat} {record stored : SessionState K}
    (held : st.heap[owner]? = some record) (heap : next.heap = st.heap.set owner stored)
    (kept : stored.reader = record.reader ∨ stored.reader ≠ .deferred) : ReadersStay st next := by
  intro index sess later found present
  rw [heap] at present
  rcases set_cases held found present with ⟨_, rfl, rfl⟩ | ⟨_, rfl⟩
  · exact kept
  · exact .inl rfl

theorem Inner.of_step (run : Runs client world events st) (step : Step client st more next)
    (changed : next ≠ st) (quiet : ∀ event ∈ more, event.external = false)
    (uncalled : next.called ≤ st.called) (stay : ReadersStay st next) :
    Inner client st more next where
  move := ⟨(runs_no_panic run).1, step⟩
  changed := changed
  quiet := quiet
  uncalled := uncalled
  reads := by
    intro index sess later found present reading left
    rcases stay index sess later found present with same | other
    · rw [← same, left] at reading
      contradiction
    · exact absurd left other

/-- A goroutine goes on. -/
theorem Inner.replaced (run : Runs client world events st)
    (located : st.running = before ++ old :: after) (step : Step client st more next)
    (moved : next.running = before ++ new :: after) (other : new ≠ old)
    (same : new.isCall = old.isCall) (quiet : ∀ event ∈ more, event.external = false)
    (stay : ReadersStay st next) : Inner client st more next := by
  refine .of_step run step ?_ quiet (Nat.le_of_eq ?_) stay
  · rintro rfl
    exact Pool.replaced_ne located other moved.symm
  · rw [State.called, State.called, located, moved, List.countP_append, List.countP_append,
      List.countP_cons, List.countP_cons, same]

/-- A goroutine ends. -/
theorem Inner.removed (run : Runs client world events st)
    (located : st.running = before ++ old :: after) (step : Step client st more next)
    (moved : next.running = before ++ after) (quiet : ∀ event ∈ more, event.external = false)
    (stay : ReadersStay st next) : Inner client st more next := by
  refine .of_step run step ?_ quiet ?_ stay
  · rintro rfl
    exact Pool.fewer_ne located moved.symm
  · rw [State.called, State.called, moved]
    exact (Pool.fewer located).countP_le

/-- A loop moves, perhaps to its deferred call. -/
theorem Inner.loop {started : List Goroutine} (run : Runs client world events st)
    (found : st.heap[index]? = some sess) (step : Step client st more next)
    (heap : next.heap = st.heap.set index later) (moved : later ≠ sess)
    (goroutines : next.running = st.running ++ started)
    (uncalled : started.countP Goroutine.isCall = 0)
    (quiet : ∀ event ∈ more, event.external = false)
    (reads : sess.reader.awaiting = true → later.reader = .deferred → 0 < sess.conn.closes) :
    Inner client st more next where
  move := ⟨(runs_no_panic run).1, step⟩
  changed := by
    rintro rfl
    have present := congrArg (fun records => records[index]?) heap
    have bound := (List.getElem?_eq_some_iff.mp found).1
    simp only [List.getElem?_set_self bound, found, Option.some.injEq] at present
    exact moved present.symm
  quiet := quiet
  uncalled := by
    rw [State.called, State.called, goroutines, List.countP_append, uncalled]
    omega
  reads := by
    intro owner record after present later reading left
    rw [heap] at later
    rcases set_cases found present later with ⟨_, rfl, rfl⟩ | ⟨_, rfl⟩
    · exact reads reading left
    · rw [left] at reading
      contradiction

end Moves

section Quiet

theorem Attended.zero (attended : Attended st) (ended : ∀ sess ∈ st.heap, sess.Ended) :
    st.wg = 0 := by
  have none : ∀ which, (st.crew which).live = 0 := by
    intro which
    refine List.countP_eq_zero.mpr fun phase member => ?_
    obtain ⟨sess, held, rfl⟩ := List.mem_map.mp member
    obtain ⟨reader, writer⟩ := ended sess held
    cases which <;> simp [SessionState.phase, reader, writer, ReadLoop.worker, WriteLoop.worker]
  rw [attended.counted, none, none]

/-- With no deferred call in flight, loops run or have ended. -/
theorem Attended.settled (attended : Attended st) {which : Loop}
    (idle : ∀ goroutine ∈ st.running, goroutine.leaves which = none)
    (found : st.heap[index]? = some sess) :
    sess.phase which = .running ∨ sess.phase which = .exited := by
  cases at_ : sess.phase which with
  | running => exact .inl rfl
  | exited => exact .inr rfl
  | deferred =>
    have counted := attended.kept which index
    have tokens : (st.crew which).tokens = [] := List.filterMap_eq_nil_iff.mpr idle
    rw [tokens] at counted
    simp [State.crew, found, at_] at counted

end Quiet

theorem Inner.length (inner : Inner client st more next) :
    next.heap.length = st.heap.length := by
  rcases step_alloc inner.move.2 with ⟨_, rfl⟩ | ⟨same, _⟩
  · simpa [Event.external] using inner.quiet
  · exact same

/-- A Close is in progress, or has returned. -/
def Closing (client : Client W K L) (world : W) (st : State W K) : Prop :=
  (∃ events, Runs client world events st) ∧ st.heap.length < 2 ^ 32 ∧
    (0 < st.closes ∨ ∀ sess ∈ st.heap, sess.Ended)

theorem Closing.inner (closing : Closing client world st) (inner : Inner client st more next) :
    Closing client world next := by
  obtain ⟨⟨events, run⟩, few, progress⟩ := closing
  have length := inner.length
  refine ⟨⟨_, run.next inner.move⟩, by omega, ?_⟩
  have stays : (∀ sess ∈ st.heap, sess.Ended) → ∀ sess ∈ next.heap, sess.Ended := by
    intro ended later member
    obtain ⟨index, present⟩ := List.getElem?_of_mem member
    have bound := (List.getElem?_eq_some_iff.mp present).1
    have found : st.heap[index]? = some st.heap[index] := List.getElem?_eq_getElem (by omega)
    obtain ⟨record, reached, path⟩ := step_evolves inner.move.2 found
    cases Option.some.inj (reached.symm.trans present)
    exact (session_run_silent (ended _ (List.mem_of_getElem? found)) path).ended
  rcases progress with calls | ended
  · rcases step_closes inner.move.2 with more | zero
    · exact .inl (by omega)
    · refine .inr (stays fun sess member => ?_)
      obtain ⟨index, found⟩ := List.getElem?_of_mem member
      exact (runs_attended run).ended zero found
  · exact .inr (stays ended)

end GotaDaemon.Ipc
