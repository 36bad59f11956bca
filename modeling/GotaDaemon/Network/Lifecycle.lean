import GotaDaemon.Network.Registry

/-! What StartListener, StopListener and the readLoops do to each other, apart from
packets and subscriptions. The control part of a state is a transition system of
its own that every step of the listener maps to, and the invariants of sockets,
contexts and readers are proved there. -/
namespace GotaDaemon.Network
open Go Transition

/-- A goroutine as far as the life of the listener goes. -/
inductive Role where
  | start (conn ctx : Nat)
  | spawn (conn ctx : Nat)
  /-- A readLoop, in ReadFromUDP or not. -/
  | loop (conn ctx : Nat) (reading : Bool)
  | stop

namespace Role

def conn : Role → Option Nat
  | .start conn _ | .spawn conn _ | .loop conn _ _ => some conn
  | .stop => none

def ctx : Role → Option Nat
  | .start _ ctx | .spawn _ ctx | .loop _ ctx _ => some ctx
  | .stop => none

/-- What the wait group counts. -/
def counted : Role → Bool
  | .spawn _ _ | .loop _ _ _ => true
  | .start _ _ | .stop => false

end Role

def ReadLoop.reading {W : Type} : ReadLoop W → Bool
  | .read => true
  | _ => false

def Goroutine.role {W : Type} : Goroutine W → Option Role
  | .start conn ctx => some (.start conn ctx)
  | .spawn conn ctx => some (.spawn conn ctx)
  | .readLoop conn ctx _ point => some (.loop conn ctx point.reading)
  | .stop => some .stop
  | .callback _ | .deliver _ => none

structure Control where
  isListening : Bool
  conn : Option Nat
  cancel : Option Nat
  wg : Nat
  conns : List Conn
  contexts : List Context
  cancelled : List Nat
  roles : List Role

namespace Control

def initial : Control := ⟨false, none, none, 0, [], [], [], []⟩

def finished (c : Control) (ctx : Nat) : Prop :=
  ∃ context, c.contexts[ctx]? = some context ∧ context.done = true

def closeConn (c : Control) : List Conn :=
  c.conn.elim c.conns fun k => c.conns.modify k fun _ => ⟨true⟩

def cancelContext (c : Control) : List Context :=
  c.cancel.elim c.contexts fun k => c.contexts.modify k fun context => { context with done := true }

end Control

inductive ControlStep : Control → Control → Prop where
  | start (parent done) : c.isListening = false → (done = true → parent ∈ c.cancelled) →
      ControlStep c { c with
        isListening := true, conn := some c.conns.length, cancel := some c.contexts.length
        conns := c.conns ++ [⟨false⟩], contexts := c.contexts ++ [⟨parent, done⟩]
        roles := c.roles ++ [.start c.conns.length c.contexts.length] }
  | add : c.roles = before ++ .start conn ctx :: after →
      ControlStep c { c with wg := c.wg + 1, roles := before ++ .spawn conn ctx :: after }
  | spawn : c.roles = before ++ .spawn conn ctx :: after →
      ControlStep c { c with roles := before ++ .loop conn ctx false :: after }
  | stop : c.isListening = true → ControlStep c { c with
      isListening := false, conns := c.closeConn, contexts := c.cancelContext, roles :=
        c.roles ++ [.stop] }
  | stopped : c.roles = before ++ .stop :: after → c.wg = 0 →
      ControlStep c { c with roles := before ++ after }
  | leave : c.roles = before ++ .loop conn ctx false :: after → c.isListening = false ∨
      c.finished ctx → ControlStep c { c with wg := c.wg - 1, roles := before ++ after }
  | enter : c.roles = before ++ .loop conn ctx false :: after → ¬ c.finished ctx →
      ControlStep c { c with roles := before ++ .loop conn ctx true :: after }
  | return_ : c.roles = before ++ .loop conn ctx true :: after →
      ControlStep c { c with roles := before ++ .loop conn ctx false :: after }
  | cancel (parent) : ControlStep c { c with cancelled := parent :: c.cancelled }
  | propagate : c.contexts[ctx]? = some context → context.parent ∈ c.cancelled →
      ControlStep c { c with contexts := c.contexts.set ctx { context with done := true } }
  | stay : ControlStep c c

def State.roles {W : Type} (st : State W) : List Role := st.running.filterMap Goroutine.role

def State.control {W : Type} (st : State W) : Control where
  isListening := st.listener.isListening
  conn := st.listener.conn
  cancel := st.listener.cancel
  wg := st.listener.wg
  conns := st.conns
  contexts := st.contexts
  cancelled := st.cancelled
  roles := st.roles

variable {W : Type} {st next : State W} {events : List (Event W)} {world : W}

theorem mem_roles {role : Role} : role ∈ st.roles ↔ ∃ goroutine ∈ st.running,
    goroutine.role = some role :=
  List.mem_filterMap

theorem roles_split {before after : List (Goroutine W)} {moving : Goroutine W}
    (at_ : st.running = before ++ moving :: after) :
    st.roles = before.filterMap Goroutine.role ++
      (moving.role.toList ++ after.filterMap Goroutine.role) := by
  simp only [State.roles, at_, List.filterMap_append, List.filterMap_cons]
  cases moving.role <;> rfl

/-- A goroutine that keeps its role, or never had one, leaves the control part as it is. -/
theorem control_stays {before after : List (Goroutine W)} {moving : Goroutine W}
    (rest : List (Goroutine W)) (at_ : st.running = before ++ moving :: after)
    (kept : rest.filterMap Goroutine.role = moving.role.toList) :
    ControlStep st.control
      { st.control with roles := (before ++ (rest ++ after)).filterMap Goroutine.role } := by
  have same : (before ++ (rest ++ after)).filterMap Goroutine.role = st.roles := by
    rw [roles_split at_, List.filterMap_append, List.filterMap_append, kept]
  rw [same]
  exact .stay

theorem stopListener_control : st.stopListener.control = { st.control with
    isListening := false, conns := st.control.closeConn, contexts := st.control.cancelContext
    roles := st.control.roles ++ [.stop] } := by
  have conns : st.closeConn st.listener.conn = st.control.closeConn := by
    rw [Control.closeConn, State.control]
    cases st.listener.conn <;> rfl
  have contexts : st.cancelContext st.listener.cancel = st.control.cancelContext := by
    rw [Control.cancelContext, State.control]
    cases st.listener.cancel <;> rfl
  have roles : st.stopListener.roles = st.roles ++ [.stop] := by
    simp [State.roles, State.stopListener, Goroutine.role]
  rw [← conns, ← contexts, State.control, roles]
  rfl

/-- Every step of the listener is one of its control part. -/
theorem step_control (step : Step st events next) : ControlStep st.control next.control := by
  cases step with
  | start ctx port started =>
    have idle : st.listener.isListening = false := by
      unfold State.startListener at started
      split at started
      · contradiction
      next idle => simpa using idle
    have moved : ControlStep st.control _ :=
      .start ctx (decide (ctx ∈ st.cancelled)) idle of_decide_eq_true
    rw [startListener_ok started]
    simpa [State.control, State.roles, Goroutine.role] using moved
  | addWaitGroup at_ =>
    have moved : ControlStep st.control _ := .add (roles_split at_)
    simpa [State.control, State.roles, Goroutine.role] using moved
  | spawn at_ =>
    have moved : ControlStep st.control _ := .spawn (roles_split at_)
    simpa [State.control, State.roles, Goroutine.role, ReadLoop.reading] using moved
  | stop running =>
    rw [stopListener_control]
    exact .stop running
  | stopped at_ none =>
    have moved : ControlStep st.control _ := .stopped (roles_split at_) none
    simpa [State.control, State.roles, Goroutine.role] using moved
  | cancel ctx => exact .cancel ctx
  | propagate found ended => exact .propagate found ended
  | leave at_ found ended =>
    have moved : ControlStep st.control _ := .leave (roles_split at_) (.inr ⟨_, found, ended⟩)
    simpa [State.control, State.roles, Goroutine.role] using moved
  | abandon at_ idle =>
    have moved : ControlStep st.control _ := .leave (roles_split at_) (.inl idle)
    simpa [State.control, State.roles, Goroutine.role] using moved
  | enter at_ found lasting =>
    have moved : ControlStep st.control _ := .enter (roles_split at_) (by
      rintro ⟨other, same, ended⟩
      cases Option.some.inj (found.symm.trans same)
      rw [lasting] at ended
      contradiction)
    simpa [State.control, State.roles, Goroutine.role, ReadLoop.reading] using moved
  | receive source payload at_ | readFails at_ =>
    have moved : ControlStep st.control _ := .return_ (roles_split at_)
    simpa [State.control, State.roles, Goroutine.role, ReadLoop.reading] using moved
  | subscribe added =>
    obtain ⟨_, rfl⟩ := Prod.mk.inj (Except.ok.inj added)
    exact .stay
  | unsubscribe removed =>
    rw [unsubscribe_ok removed]
    exact .stay
  | retry at_ | copy at_ | snapshot _ at_ | offered at_ => exact control_stays [_] at_ rfl
  | offer at_ =>
    have moved : ControlStep st.control { st.control with roles := st.roles } := .stay
    rw [roles_split at_] at moved
    simpa [State.control, State.roles, Goroutine.role, ReadLoop.reading, List.filterMap_cons]
      using moved
  | accept at_ => exact control_stays [_] at_ rfl
  | reject at_ | deliver at_ | handOver at_ | drop at_ => exact control_stays [] at_ rfl
  | startFails | stopIdle | subscribeFails | unsubscribeFails | make | take | wait | close
  | closePanics
    | interfere | deliverPanics => exact .stay

theorem runs_control (run : Runs world events st) {P : Control → Prop} (initial : P .initial)
    (preserves : ∀ {c d}, P c → ControlStep c d → P d) : P st.control := by
  apply Run.invariant (P := fun _ st => P st.control) _ _ run
  · exact initial
  · exact fun held move => preserves held (step_control move.2)

variable {c d : Control}

theorem ControlStep.finished (step : ControlStep c d) {k : Nat} : c.finished k → d.finished k := by
  rintro ⟨context, found, ended⟩
  cases step with
  | start =>
    exact ⟨context,
      by rw [List.getElem?_append_left (List.getElem?_eq_some_iff.mp found).1, found], ended⟩
  | stop =>
    cases canceller : c.cancel with
    | none => exact ⟨context, by simpa [Control.cancelContext, canceller] using found, ended⟩
    | some ctx =>
      by_cases same : ctx = k
      · exact ⟨{ context with done := true },
          by simp [Control.cancelContext, canceller, same, found], rfl⟩
      · exact ⟨context, by simp [Control.cancelContext, canceller, same, found], ended⟩
  | @propagate ctx other _ at_ =>
    by_cases same : ctx = k
    · subst same
      have here := (List.getElem?_eq_some_iff.mp at_).1
      exact ⟨{ other with done := true }, by simp [here], rfl⟩
    · exact ⟨context, by rwa [List.getElem?_set_ne same], ended⟩
  | _ => exact ⟨context, found, ended⟩

/-- Sockets and contexts are made in pairs; a socket is open only while it is the
listener's, and a closed one has its context cancelled. -/
structure Sockets (c : Control) : Prop where
  paired : c.contexts.length = c.conns.length
  cancelled : ∀ k : Nat, c.conns[k]? = some ⟨true⟩ → c.finished k
  current : c.isListening = true → ∃ k, c.conn = some k ∧ c.cancel = some k ∧
  c.conns[k]? = some ⟨false⟩
  unique : ∀ k : Nat, c.conns[k]? = some ⟨false⟩ → c.isListening = true ∧ c.conn = some k

theorem ControlStep.sockets (step : ControlStep c d) (held : Sockets c) : Sockets d := by
  have kept : ∀ k : Nat, c.conns[k]? = some ⟨true⟩ → d.finished k :=
    fun k closed => step.finished (held.cancelled k closed)
  cases step with
  | start parent done idle =>
    have alone : ∀ k : Nat, c.conns[k]? ≠ some ⟨false⟩ := by
      intro k opened
      rw [(held.unique k opened).1] at idle
      contradiction
    refine ⟨by simp [held.paired], fun k closed => ?_, fun _ => ?_, fun k opened => ?_⟩
    · rcases earlier_or_last closed with old | ⟨_, new⟩
      · exact kept k old
      · cases new
    · exact ⟨_, rfl, by rw [held.paired], by simp⟩
    · rcases earlier_or_last opened with old | ⟨rfl, _⟩
      · exact absurd old (alone k)
      · exact ⟨rfl, rfl⟩
  | stop listening =>
    obtain ⟨own, conn, cancel, opened⟩ := held.current listening
    have conns : c.closeConn = c.conns.modify own fun _ => ⟨true⟩ := by
      rw [Control.closeConn, conn]; rfl
    have contexts : c.cancelContext = c.contexts.modify own fun context =>
        { context with done := true } := by
      rw [Control.cancelContext, cancel]; rfl
    refine ⟨by simp [conns, contexts, held.paired], fun k closed => ?_, ?_, fun k still => ?_⟩
    · by_cases same : own = k
      · subst same
        have inside : own < c.contexts.length :=
          held.paired ▸ (List.getElem?_eq_some_iff.mp opened).1
        refine ⟨{ c.contexts[own] with done := true }, ?_, rfl⟩
        simp only [contexts, List.getElem?_modify_eq, List.getElem?_eq_getElem inside]
        rfl
      · exact kept k (by simpa [conns, List.getElem?_modify, same] using closed)
    · exact fun listens => absurd listens Bool.false_ne_true
    · by_cases same : own = k
      · subst same
        simp [conns, opened] at still
      · have was : c.conns[k]? = some ⟨false⟩ := by
          simpa [conns, List.getElem?_modify, same] using still
        exact absurd (Option.some.inj (conn.symm.trans (held.unique k was).2)) same
  | propagate => exact ⟨by simp [held.paired], kept, held.current, held.unique⟩
  | _ => exact ⟨held.paired, kept, held.current, held.unique⟩

/-- Each socket has at most one goroutine, which was given the context of the
same index, and the wait group counts those past wg.Add. -/
structure Crew (c : Control) : Prop where
  known : ∀ role ∈ c.roles, role.ctx = role.conn ∧ ∀ k ∈ role.conn, k < c.conns.length
  single : (c.roles.filterMap Role.conn).Nodup
  counted : c.wg = c.roles.countP Role.counted

namespace Crew
variable {before after : List Role} {old new : Role} {wg : Nat}

theorem replace (held : Crew c) (at_ : c.roles = before ++ old :: after)
    (conn : new.conn = old.conn) (ctx : new.ctx = old.ctx)
    (count : wg + (if old.counted then 1 else 0) = c.wg + if new.counted then 1 else 0) :
    Crew { c with wg := wg, roles := before ++ new :: after } := by
  obtain ⟨known, single, counted⟩ := held
  rw [at_] at single counted
  constructor
  · intro role member
    rcases Pool.replaced at_ member with rfl | present
    · rw [conn, ctx]
      exact known old (Pool.mem at_)
    · exact known role present
  · simpa only [List.filterMap_append, List.filterMap_cons, conn] using single
  · simp only [List.countP_append, List.countP_cons] at counted ⊢
    omega

theorem remove (held : Crew c) (at_ : c.roles = before ++ old :: after)
    (count : wg + (if old.counted then 1 else 0) = c.wg) :
    Crew { c with wg := wg, roles := before ++ after } := by
  constructor
  · intro role member
    exact held.known role ((Pool.fewer at_).subset member)
  · exact held.single.sublist ((Pool.fewer at_).filterMap _)
  · have counted := held.counted
    rw [at_] at counted
    simp only [List.countP_append, List.countP_cons] at counted ⊢
    omega

/-- A goroutine past wg.Add keeps the wait group above zero. -/
theorem waiting (held : Crew c) {role : Role} (member : role ∈ c.roles)
    (counts : role.counted = true) : 0 < c.wg := by
  rw [held.counted]
  exact List.countP_pos_iff.mpr ⟨role, member, counts⟩

/-- The context of a readLoop is the one made with its socket. -/
theorem loop {conn ctx : Nat} {reading : Bool} (held : Crew c)
    (at_ : c.roles = before ++ .loop conn ctx reading :: after) : ctx = conn :=
  Option.some.inj (held.known (.loop conn ctx reading) (Pool.mem at_)).1

/-- Two goroutines of one socket are one. -/
theorem same (held : Crew c) {role other : Role} {k : Nat} (member : role ∈ c.roles)
    (also : other ∈ c.roles) (owned : role.conn = some k) (shared : other.conn = some k) :
    other = role := by
  obtain ⟨before, after, at_⟩ := List.append_of_mem member
  have single := held.single
  rw [at_, List.filterMap_append, List.filterMap_cons_some owned, List.nodup_append] at single
  obtain ⟨_, right, apart⟩ := single
  rcases Pool.others at_ also with here | elsewhere
  · exact here
  · rcases List.mem_append.mp elsewhere with left | later
    · exact absurd rfl (apart k (List.mem_filterMap.mpr ⟨other, left, shared⟩) k List.mem_cons_self)
    · exact absurd (List.mem_filterMap.mpr ⟨other, later, shared⟩) (List.nodup_cons.mp right).1

end Crew

theorem ControlStep.crew (step : ControlStep c d) (paired : c.contexts.length = c.conns.length)
    (held : Crew c) :
    Crew d := by
  cases step with
  | start =>
    refine ⟨fun role member => ?_, ?_, ?_⟩
    · simp only [List.length_append, List.length_singleton]
      rcases List.mem_append.mp member with old | new
      · obtain ⟨same, bound⟩ := held.known role old
        exact ⟨same, fun k owned => Nat.lt_succ_of_lt (bound k owned)⟩
      · obtain rfl := List.mem_singleton.mp new
        exact ⟨congrArg some paired, fun k owned => by cases owned; exact Nat.lt_succ_self _⟩
    · rw [List.filterMap_append, List.nodup_append]
      refine ⟨held.single, List.nodup_singleton _, fun k old other new same => ?_⟩
      obtain ⟨role, member, owned⟩ := List.mem_filterMap.mp old
      have bound := (held.known role member).2 k owned
      have last : other = c.conns.length := by simpa [Role.conn] using new
      omega
    · simpa [Role.counted] using held.counted
  | add at_ => exact held.replace at_ rfl rfl rfl
  | spawn at_ | enter at_ | return_ at_ => exact held.replace at_ rfl rfl rfl
  | stop =>
    have sockets : c.closeConn.length = c.conns.length := by
      rw [Control.closeConn]
      cases c.conn <;> simp
    refine ⟨fun role member => ?_, ?_, ?_⟩
    · rcases List.mem_append.mp member with old | new
      · simpa only [sockets] using held.known role old
      · obtain rfl := List.mem_singleton.mp new
        exact ⟨rfl, fun k owned => by cases owned⟩
    · simpa [Role.conn, List.filterMap_cons] using held.single
    · simpa [Role.counted] using held.counted
  | stopped at_ => exact held.remove at_ rfl
  | leave at_ =>
    have counted := held.waiting (Pool.mem at_) rfl
    exact held.remove at_ (Nat.sub_add_cancel counted)
  | cancel | propagate | stay => exact ⟨held.known, held.single, held.counted⟩

theorem runs_sound (run : Runs world events st) : Sockets st.control ∧ Crew st.control := by
  apply runs_control (P := fun c => Sockets c ∧ Crew c) run
  · refine ⟨⟨rfl, ?_, ?_, ?_⟩, ⟨?_, List.nodup_nil, rfl⟩⟩ <;> simp [Control.initial]
  · exact fun held step => ⟨step.sockets held.1, step.crew held.1.paired held.2⟩

end GotaDaemon.Network
