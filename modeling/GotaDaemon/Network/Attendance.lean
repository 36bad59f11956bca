import GotaDaemon.Network.Lifecycle

/-! A listener that calls itself running has somebody on its socket, as long as
StopListener does not overtake StartListener and the caller's context lasts. -/
namespace GotaDaemon.Network
open Go Transition
variable {W : Type} {st next : State W} {events : List (Event W)} {world : W} {c d : Control}

/-- StopListener does not overtake the wg.Add of a StartListener, and the context
given to StartListener is not cancelled while the listener runs. -/
structure Control.Orderly (c d : Control) : Prop where
  stops : c.isListening = true → d.isListening = false → ∀ conn ctx, .start conn ctx ∉ c.roles
  parent : ∀ k context, d.isListening = true → d.cancel = some k → d.contexts[k]? = some context →
    context.parent ∉ d.cancelled

/-- While the listener runs somebody is there for its socket; when it does not,
whoever is left has a StopListener waiting for it. -/
structure Attended (c : Control) : Prop where
  listening : c.isListening = true → ∃ k role context, c.conn = some k ∧ c.cancel = some k ∧
  role ∈ c.roles ∧
    role.conn = some k ∧ c.contexts[k]? = some context ∧ context.done = false
  started : c.isListening = false → ∀ conn ctx, .start conn ctx ∉ c.roles
  waited : c.isListening = false → ∀ role ∈ c.roles, role.counted = true → .stop ∈ c.roles

theorem Attended.replace {before after : List Role} {old new : Role} {wg : Nat} (held : Attended c)
    (at_ : c.roles = before ++ old :: after) (conn : new.conn = old.conn)
    (counted : new.counted = true) (past : c.isListening = false → old.counted = true) :
    Attended { c with wg := wg, roles := before ++ new :: after } := by
  constructor
  · intro listening
    obtain ⟨k, role, context, current, cancel, member, owned, found⟩ := held.listening listening
    rcases Pool.others at_ member with rfl | stays
    · exact ⟨k, new, context, current, cancel, Pool.mem rfl, conn.trans owned, found⟩
    · exact ⟨k, role, context, current, cancel, (Pool.fewer rfl).subset stays, owned, found⟩
  · intro idle other ctx member
    rcases Pool.replaced at_ member with rfl | present
    · cases counted
    · exact held.started idle other ctx present
  · intro idle _ _ _
    have counts := past idle
    rcases Pool.others at_ (held.waited idle old (Pool.mem at_) counts) with rfl | stays
    · cases counts
    · exact (Pool.fewer rfl).subset stays

theorem Attended.remove {before after : List Role} {old : Role} {wg : Nat} (held : Attended c)
    (at_ : c.roles = before ++ old :: after)
    (spared : c.isListening = true → ∀ k context, c.contexts[k]? = some context →
    context.done = false → old.conn ≠ some k)
    (waited : c.isListening = false → ∀ role ∈ before ++ after, role.counted = true →
    .stop ∈ before ++ after) :
    Attended { c with wg := wg, roles := before ++ after } := by
  refine ⟨?_, ?_, waited⟩
  · intro listening
    obtain ⟨k, role, context, current, cancel, member, owned, found, lasting⟩ :=
      held.listening listening
    rcases Pool.others at_ member with rfl | stays
    · exact absurd owned (spared listening k context found lasting)
    · exact ⟨k, role, context, current, cancel, stays, owned, found, lasting⟩
  · intro idle conn ctx member
    exact held.started idle conn ctx ((Pool.fewer at_).subset member)

theorem ControlStep.attended (step : ControlStep c d) (sockets : Sockets c) (crew : Crew c)
    (orderly : c.Orderly d) (held : Attended c) : Attended d := by
  cases step with
  | start parent done idle ended =>
    have last : (c.contexts ++ [(⟨parent, done⟩ : Context)])[c.contexts.length]? =
        some ⟨parent, done⟩ := by simp
    have lasting : parent ∉ c.cancelled := orderly.parent _ _ rfl rfl last
    refine ⟨fun _ => ?_, fun h => absurd h.symm Bool.false_ne_true, fun h =>
      absurd h.symm Bool.false_ne_true⟩
    refine ⟨_, _, ⟨parent, done⟩, rfl,
      by rw [sockets.paired], List.mem_append_right _ List.mem_cons_self, rfl, ?_, ?_⟩
    · rw [← sockets.paired]
      exact last
    · cases done with
      | false => rfl
      | true => exact absurd (ended rfl) lasting
  | add at_ =>
    refine held.replace at_ rfl rfl fun idle => ?_
    exact absurd (Pool.mem at_) (held.started idle _ _)
  | spawn at_ | enter at_ | return_ at_ => exact held.replace at_ rfl rfl fun _ => rfl
  | stop listening =>
    refine ⟨fun h => absurd h Bool.false_ne_true, fun _ conn ctx member => ?_, fun _ _ _ _ => ?_⟩
    · exact orderly.stops listening rfl conn ctx (by simpa using member)
    · exact List.mem_append_right _ List.mem_cons_self
  | stopped at_ idle =>
    refine held.remove at_ (fun _ _ _ _ _ owned => by cases owned) fun _ role member counts => ?_
    have waiting := crew.waiting ((Pool.fewer at_).subset member) counts
    omega
  | @leave before after _ conn ctx at_ reason =>
    have leaving : .loop conn ctx false ∈ c.roles := Pool.mem at_
    refine held.remove at_ (fun listening k context found lasting owned => ?_) fun idle _ _ _ => ?_
    · -- the reader of a listener that runs cannot leave: its context lasts
      obtain rfl : conn = k := Option.some.inj owned
      rcases reason with idle | ⟨other, same, ended⟩
      · rw [idle] at listening
        contradiction
      · rw [crew.loop at_, found] at same
        cases Option.some.inj same
        rw [lasting] at ended
        contradiction
    · have stop := held.waited idle _ leaving rfl
      rw [at_] at stop
      simpa using stop
  | @propagate ctx other _ found ended =>
    refine ⟨fun listening => ?_, held.started, held.waited⟩
    obtain ⟨k, role, context, current, cancel, member, owned, here, lasting⟩ :=
      held.listening listening
    by_cases same : ctx = k
    · subst same
      have inside := (List.getElem?_eq_some_iff.mp found).1
      have parent :=
        orderly.parent ctx { other with done := true } listening cancel (by simp [inside])
      exact absurd ended parent
    · exact ⟨k, role, context, current, cancel, member, owned,
        by rwa [List.getElem?_set_ne same], lasting⟩
  | cancel | stay => exact ⟨held.listening, held.started, held.waited⟩

/-- StopListener does not overtake the wg.Add of a StartListener, and no step
cancels the context that the running listener was started with. -/
structure Orderly (st next : State W) : Prop where
  stops : st.listener.isListening = true → next.listener.isListening = false → ∀ conn ctx,
    .start conn ctx ∉ st.running
  parent : ∀ ctx context, next.listener.isListening = true → next.listener.cancel = some ctx →
    next.contexts[ctx]? = some context → context.parent ∉ next.cancelled

def OrderlyMove (st : State W) (events : List (Event W)) (next : State W) : Prop :=
  Move st events next ∧ Orderly st next

theorem Orderly.control (orderly : Orderly st next) : st.control.Orderly next.control := by
  refine ⟨fun listening idle conn ctx member => ?_, orderly.parent⟩
  obtain ⟨goroutine, member, role⟩ := mem_roles.mp member
  cases goroutine with
  | start =>
    cases role
    exact orderly.stops listening idle _ _ member
  | _ => cases role

theorem runs_attended (run : Run OrderlyMove (.initial world) events st) :
    Sockets st.control ∧ Crew st.control ∧ Attended st.control := by
  apply Run.invariant (P := fun _ st => Sockets st.control ∧ Crew st.control ∧
    Attended st.control) _ _ run
  · obtain ⟨sockets, crew⟩ := runs_sound (.refl : Runs world [] _)
    exact ⟨sockets, crew, nofun, nofun, nofun⟩
  · rintro past before events next ⟨sockets, crew, attended⟩ ⟨move, orderly⟩
    have step := step_control move.2
    exact ⟨step.sockets sockets, step.crew sockets.paired crew,
      step.attended sockets crew orderly.control attended⟩

def Goroutine.inCall : Goroutine W → Bool
  | .start _ _ | .spawn _ _ | .stop => true
  | _ => false

/-- No StartListener or StopListener is in progress. -/
def State.Settled (st : State W) : Prop := ∀ goroutine ∈ st.running, goroutine.inCall = false

/-- A readLoop on this socket has not exited. -/
def State.Reads (st : State W) (conn : Nat) : Prop :=
  ∃ ctx buf point, .readLoop conn ctx buf point ∈ st.running

theorem settled_reading {conn ctx : Nat} {buf : ReadBuffer} {point : ReadLoop W}
    (alone : st.running = [.readLoop conn ctx buf point]) : st.Settled := by
  intro goroutine member
  rw [alone, List.mem_singleton] at member
  rw [member]
  rfl

theorem State.Settled.loop (settled : st.Settled) {role : Role} {conn : Nat}
    (member : role ∈ st.roles) (owned : role.conn = some conn) : st.Reads conn := by
  obtain ⟨goroutine, running, same⟩ := mem_roles.mp member
  cases goroutine with
  | readLoop =>
    cases same
    cases owned
    exact ⟨_, _, _, running⟩
  | start | spawn | stop => cases settled _ running
  | callback | deliver => cases same

theorem State.Reads.role {conn : Nat} (reads : st.Reads conn) :
    ∃ ctx reading, .loop conn ctx reading ∈ st.roles := by
  obtain ⟨ctx, buf, point, running⟩ := reads
  exact ⟨ctx, point.reading, mem_roles.mpr ⟨_, running, rfl⟩⟩

/-- In an orderly run a listener that calls itself running has its reader, and a
stopped one has none. -/
theorem orderly_listening_iff_read (world : W) (events : List (Event W)) (st : State W)
    (run : Run OrderlyMove (.initial world) events st) (settled : st.Settled) :
    (st.listener.isListening = true ↔ ∃ conn, st.listener.conn = some conn ∧ st.Reads conn) ∧
    (∀ conn, st.listener.sendPacketTo = .ok conn → st.Reads conn) ∧
    (∀ ctx port binding, st.startListener ctx port binding = .error .alreadyRunning →
      ∃ conn, st.listener.conn = some conn ∧ st.Reads conn) := by
  obtain ⟨_, _, attended⟩ := runs_attended run
  have reader : st.listener.isListening = true → ∃ conn, st.listener.conn = some conn ∧
      st.Reads conn := by
    intro listening
    obtain ⟨conn, role, _, current, _, member, owned, _⟩ := attended.listening listening
    exact ⟨conn, current, settled.loop member owned⟩
  refine ⟨⟨reader, ?_⟩, fun conn sent => ?_, fun ctx port binding refused => ?_⟩
  · rintro ⟨conn, _, reads⟩
    obtain ⟨ctx, reading, member⟩ := reads.role
    cases listening : st.listener.isListening with
    | true => rfl
    | false =>
      -- somebody still waits in StopListener
      obtain ⟨goroutine, running, same⟩ := mem_roles.mp (attended.waited listening _ member rfl)
      cases goroutine with
      | stop => cases settled _ running
      | _ => cases same
  · unfold UDPListener.sendPacketTo at sent
    split at sent
    next listening current =>
      obtain ⟨other, found, reads⟩ := reader listening
      cases Option.some.inj (current.symm.trans found)
      cases sent
      exact reads
    · contradiction
  · apply reader
    unfold State.startListener at refused
    split at refused
    next listening => exact listening
    · cases binding <;> cases refused

theorem started_listener_is_read : ∃ events st, Run OrderlyMove (.initial ()) events st ∧
    st.Settled ∧ st.listener.isListening = true ∧ st.listener.conn = some 0 ∧ st.Reads 0 := by
  have run : Run OrderlyMove (.initial ()) _ _ := .refl
  have run := run.next ⟨⟨rfl, .start 0 4000 rfl⟩, by simp [State.initial], by simp [State.initial]⟩
  have run :=
    run.next ⟨⟨rfl, .addWaitGroup (rfl : _ = [] ++ _ :: [])⟩, by simp, by simp [State.initial]⟩
  have run := run.next ⟨⟨rfl, .spawn (rfl : _ = [] ++ _ :: [])⟩, by simp, by simp [State.initial]⟩
  obtain ⟨conn, current, reads⟩ :=
    (orderly_listening_iff_read () _ _ run (settled_reading rfl)).1.mp rfl
  cases current
  exact ⟨_, _, run, settled_reading rfl, rfl, rfl, reads⟩

/-- The end of the caller's context leaves a listener that runs without a reader,
and a StopListener before wg.Add leaves a reader of a listener that does not run. -/
theorem listener_without_reader :
    (∃ events st, Runs () events st ∧ st.Settled ∧ st.listener.isListening = true ∧
      st.listener.sendPacketTo = .ok 0 ∧ ∀ conn, ¬ st.Reads conn) ∧
    (∃ events st, Runs () events st ∧ st.Settled ∧ st.listener.isListening = false ∧
      st.listener.conn = some 0 ∧ st.Reads 0) := by
  have begin : Runs () _ _ := .refl
  have begin := begin.next ⟨rfl, .start 0 4000 rfl⟩
  refine ⟨?_, ?_⟩
  · have run := begin.next ⟨rfl, .addWaitGroup (rfl : _ = [] ++ _ :: [])⟩
    have run := run.next ⟨rfl, .spawn (rfl : _ = [] ++ _ :: [])⟩
    have run := run.next ⟨rfl, .cancel 0⟩
    have run := run.next ⟨rfl, .propagate (rfl : [_][0]? = some _) List.mem_cons_self⟩
    have run := run.next ⟨rfl, .leave (rfl : _ = [] ++ _ :: []) rfl rfl⟩
    exact ⟨_, _, run, nofun, rfl, rfl, by rintro conn ⟨_, _, _, member⟩; cases member⟩
  · have run := begin.next ⟨rfl, .stop rfl⟩
    have run := run.next ⟨rfl, .stopped (rfl : _ = [_] ++ _ :: []) rfl⟩
    have run := run.next ⟨rfl, .addWaitGroup (rfl : _ = [] ++ _ :: [])⟩
    have run := run.next ⟨rfl, .spawn (rfl : _ = [] ++ _ :: [])⟩
    exact ⟨_, _, run, settled_reading rfl, rfl, rfl, _, _, _, List.mem_cons_self⟩

end GotaDaemon.Network
