import GotaDaemon.Network.Lifecycle

/-! Generations of the listener, one for each StartListener. What StopListener has
closed stays closed, and its reader never returns to the socket even when the
next generation has set isListening again. -/
namespace GotaDaemon.Network
open Go Transition
variable {W : Type} {st next : State W} {events : List (Event W)} {world : W} {c d : Control}

theorem ControlStep.closed (step : ControlStep c d) {k : Nat} (closed : c.conns[k]? = some ⟨true⟩) :
    d.conns[k]? = some ⟨true⟩ := by
  cases step with
  | start =>
    rw [List.getElem?_append_left (List.getElem?_eq_some_iff.mp closed).1]
    exact closed
  | stop =>
    cases current : c.conn with
    | none => simpa [Control.closeConn, current] using closed
    | some own =>
      by_cases same : own = k
      · simp [Control.closeConn, current, same, closed]
      · simp [Control.closeConn, current, same, closed]
  | _ => exact closed

/-- Nobody is in ReadFromUDP on a socket whose context has ended. -/
structure Quiet (k : Nat) (c : Control) : Prop where
  finished : c.finished k
  outside : ∀ ctx, .loop k ctx true ∉ c.roles

theorem Quiet.replace {k wg : Nat} {before after : List Role} {old new : Role} (held : Quiet k c)
    (at_ : c.roles = before ++ old :: after) (other : ∀ ctx, new ≠ .loop k ctx true) :
    Quiet k { c with wg := wg, roles := before ++ new :: after } := by
  refine ⟨held.finished, ?_⟩
  intro ctx member
  rcases Pool.replaced at_ member with here | present
  · exact other ctx here.symm
  · exact held.outside ctx present

theorem Quiet.remove {k wg : Nat} {before after : List Role} {old : Role} (held : Quiet k c)
    (at_ : c.roles = before ++ old :: after) :
    Quiet k { c with wg := wg, roles := before ++ after } :=
  ⟨held.finished, fun ctx member => held.outside ctx ((Pool.fewer at_).subset member)⟩

theorem ControlStep.quiet (step : ControlStep c d) (crew : Crew c) {k : Nat} (held : Quiet k c) :
    Quiet k d := by
  have finished := step.finished held.finished
  cases step with
  | start | stop => exact ⟨finished, fun ctx member => held.outside ctx (by simpa using member)⟩
  | add at_ | spawn at_ | return_ at_ => exact held.replace at_ nofun
  | stopped at_ | leave at_ => exact held.remove at_
  | enter at_ lasting =>
    refine held.replace at_ fun other same => ?_
    obtain ⟨rfl, -⟩ := Role.loop.inj same
    exact lasting (crew.loop at_ ▸ held.finished)
  | cancel | propagate | stay => exact ⟨finished, held.outside⟩

/-- The socket and the context a goroutine of the listener works with. -/
def Goroutine.holds : Goroutine W → Option (Nat × Nat)
  | .start conn ctx | .spawn conn ctx | .readLoop conn ctx _ _ => some (conn, ctx)
  | _ => none

/-- A readLoop whose socket is open. -/
def State.readsOpen (st : State W) : Goroutine W → Bool
  | .readLoop conn _ _ _ => st.conns[conn]? == some ⟨false⟩
  | _ => false

theorem step_stopped {conn : Nat} (step : Step st events next) (sockets : Sockets st.control)
    (stopped : .stopped (some conn) ∈ events) : next.conns[conn]? = some ⟨true⟩ := by
  cases step with
  | stop listening =>
    obtain ⟨own, current, _, opened⟩ := sockets.current listening
    have same : some conn = some own :=
      (Event.stopped.inj (List.mem_singleton.mp stopped)).trans current
    cases same
    have current : st.listener.conn = some conn := current
    have opened : st.conns[conn]? = some ⟨false⟩ := opened
    simp [State.stopListener, State.closeConn, current, opened]
  | _ => simp at stopped

theorem runs_stopped {conn : Nat} (run : Runs world events st) :
    .stopped (some conn) ∈ events → st.conns[conn]? = some ⟨true⟩ := by
  apply Run.invariant_reached
    (P := fun (events : List (Event W)) st => Event.stopped (some conn) ∈ events →
    st.conns[conn]? = some ⟨true⟩) _ _ run
  · exact fun member => absurd member List.not_mem_nil
  · intro past before events next earlier held move member
    rcases List.mem_append.mp member with old | new
    · exact (step_control move.2).closed (held old)
    · exact step_stopped move.2 (runs_sound earlier).1 new

/-- The readers of open sockets are goroutines of one socket. -/
theorem runs_readsOpen (run : Runs world events st) : st.running.countP st.readsOpen ≤ 1 := by
  obtain ⟨sockets, crew⟩ := runs_sound run
  by_cases some_ : ∃ k : Nat, st.conns[k]? = some ⟨false⟩
  · obtain ⟨own, opened⟩ := some_
    have single : (st.running.filterMap fun goroutine => goroutine.role.bind Role.conn).Nodup := by
      rw [← List.filterMap_filterMap]
      exact crew.single
    have once := List.nodup_iff_count_le_one.mp single own
    rw [List.count_filterMap] at once
    refine le_trans (List.countP_mono_left fun goroutine _ reads => ?_) once
    cases goroutine with
    | readLoop conn =>
      have here : st.conns[conn]? = some ⟨false⟩ := by simpa [State.readsOpen] using reads
      have same := (sockets.unique conn here).2.symm.trans (sockets.unique own opened).2
      simpa [Goroutine.role, Role.conn] using same
    | _ => cases reads
  · rw [List.countP_eq_zero.mpr]
    · exact Nat.zero_le 1
    · intro goroutine _ reads
      cases goroutine with
      | readLoop conn => exact some_ ⟨conn, by simpa [State.readsOpen] using reads⟩
      | _ => cases reads

theorem runs_quiet {past later : List (Event W)} {final : State W} {conn : Nat}
    (run : Runs world past st) (rest : Run Move st later final) (held : Quiet conn st.control) :
    Quiet conn final.control := by
  apply Run.invariant_reached (P := fun _ st => Quiet conn st.control) _ _ rest
  · exact held
  · exact fun before held move => (step_control move.2).quiet (runs_sound (run.trans before)).2 held

/-- After a failed ReadFromUDP the reader of the socket is outside it. -/
theorem readFailed_outside {conn : Nat} (step : Step st events next)
    (failed : .readFailed conn ∈ events) (crew : Crew next.control) (ctx : Nat) :
    .loop conn ctx true ∉ next.roles := by
  intro inside
  obtain ⟨other, outside⟩ : ∃ other, .loop conn other false ∈ next.roles := by
    cases step with
    | readFails at_ =>
      obtain rfl := Event.readFailed.inj (List.mem_singleton.mp failed)
      exact ⟨_, mem_roles.mpr ⟨_, List.mem_append_right _ List.mem_cons_self, rfl⟩⟩
    | _ => simp at failed
  cases crew.same outside inside rfl rfl

/-- What StopListener has closed has its context cancelled, at most one readLoop
has an open socket, and a readLoop whose ReadFromUDP failed on a socket that
StopListener closed never calls it again. -/
theorem stopped_stays_stopped (world : W) (events : List (Event W)) (st : State W)
    (run : Runs world events st) :
    (∀ conn, .stopped (some conn) ∈ events →
      st.conns[conn]? = some ⟨true⟩ ∧
      (∃ context, st.contexts[conn]? = some context ∧ context.done = true) ∧
      ∀ goroutine ∈ st.running, ∀ ctx, goroutine.holds = some (conn, ctx) → ctx = conn) ∧
    st.running.countP st.readsOpen ≤ 1 ∧
    (∀ conn next later final, .stopped (some conn) ∈ events → Move st [.readFailed conn] next →
      Run Move next later final → ∀ ctx buf, .readLoop conn ctx buf .read ∉ final.running) := by
  obtain ⟨sockets, crew⟩ := runs_sound run
  refine ⟨fun conn stopped => ⟨runs_stopped run stopped, ?_, ?_⟩, runs_readsOpen run, ?_⟩
  · exact sockets.cancelled conn (runs_stopped run stopped)
  · intro goroutine member ctx held
    cases goroutine with
    | start | spawn | readLoop =>
      obtain ⟨rfl, rfl⟩ := Prod.mk.inj (Option.some.inj held)
      exact Option.some.inj (crew.known _ (mem_roles.mpr ⟨_, member, rfl⟩)).1
    | _ => cases held
  · intro conn next later final stopped move rest ctx buf member
    have reached : Runs world (events ++ [.readFailed conn]) next := run.next move
    have ended : next.control.finished conn :=
      (step_control move.2).finished (sockets.cancelled conn (runs_stopped run stopped))
    have outside := readFailed_outside move.2 List.mem_cons_self (runs_sound reached).2
    have quiet := runs_quiet reached rest ⟨ended, outside⟩
    exact quiet.outside ctx (mem_roles.mpr ⟨_, member, rfl⟩)

theorem stopped_stays_stopped_restarted :
    ∃ events st next, Runs () events st ∧ .stopped (some 0) ∈ events ∧ st.listener.isListening =
      true ∧ Move st [.readFailed 0] next ∧
    ∀ later final, Run Move next later final → ∀ ctx buf,
      .readLoop 0 ctx buf .read ∉ final.running := by
  -- the next generation is listening before the old reader has seen its socket closed
  obtain ⟨events, st, buf, after, run, stopped, listening, sane, at_⟩ : ∃ events st buf after,
    Runs () events st ∧
      .stopped (some 0) ∈ events ∧ st.listener.isListening = true ∧ st.panicked = none ∧
      st.running = [] ++ .readLoop 0 0 buf .read :: after := by
    have run : Runs () _ _ := .refl
    have run := run.next ⟨rfl, .start 0 4000 rfl⟩
    have run := run.next ⟨rfl, .addWaitGroup (rfl : _ = [] ++ _ :: [])⟩
    have run := run.next ⟨rfl, .spawn (rfl : _ = [] ++ _ :: [])⟩
    have run := run.next ⟨rfl, .enter (rfl : _ = [] ++ _ :: []) rfl rfl⟩
    have run := run.next ⟨rfl, .stop rfl⟩
    have run := run.next ⟨rfl, .start 0 4000 rfl⟩
    exact ⟨_, _, _, _, run, List.mem_append_left _ (List.mem_append_right _ List.mem_cons_self),
      rfl, rfl, rfl⟩
  have failing := And.intro sane (Step.readFails at_)
  exact ⟨events, st, _, run, stopped, listening, failing, fun later final rest =>
    (stopped_stays_stopped () events st run).2.2 0 _ later final stopped failing rest⟩

end GotaDaemon.Network
