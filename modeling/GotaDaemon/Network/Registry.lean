import GotaDaemon.Network.UDPListener

/-! The subscription table of the listener. Only SubscribeToPacketReceived and
UnsubscribeFromPacketReceived change it, and while fewer than 2^32 subscriptions
have been made no id is handed out twice. -/
namespace GotaDaemon.Network
open Go Transition
variable {W : Type}

/-- What an event does to the table. -/
def Event.register (table : Map UInt32 (Subscription W)) : Event W → Map UInt32 (Subscription W)
  | .subscribed id sub => table.insert id sub
  | .unsubscribed id _ => table.erase id
  | _ => table

def Event.subscribes : Event W → Bool
  | .subscribed _ _ => true
  | _ => false

def Event.unsubscribes : Event W → Bool
  | .unsubscribed _ _ => true
  | _ => false

def subscriptions (events : List (Event W)) : Nat := events.countP Event.subscribes

@[simp] theorem subscriptions_append (first second : List (Event W)) :
    subscriptions (first ++ second) = subscriptions first + subscriptions second :=
      List.countP_append

@[simp] theorem subscriptions_subscribed {subID : UInt32} {sub : Subscription W} :
    subscriptions [.subscribed subID sub] = 1 := rfl

@[simp] theorem subscriptions_unsubscribed {subID : UInt32} {found : Bool} :
    subscriptions (W := W) [.unsubscribed subID found] = 0 := rfl

/-- The three things a step may do to the table. -/
inductive TableMove (st : State W) : List (Event W) → State W → Prop where
  | quiet : (∀ event ∈ events, event.subscribes = false ∧ event.unsubscribes = false) →
      next.listener.subscriptions = st.listener.subscriptions →
        next.listener.nextSubID = st.listener.nextSubID →
      TableMove st events next
  | subscribed :
      next.listener.subscriptions =
        st.listener.subscriptions.insert (st.listener.nextSubID + 1) sub →
      next.listener.nextSubID = st.listener.nextSubID + 1 →
      sub.ch < st.channels.length → TableMove st [.subscribed (st.listener.nextSubID + 1) sub] next
  | unsubscribed : next.listener.subscriptions = st.listener.subscriptions.erase subID →
      next.listener.nextSubID = st.listener.nextSubID →
        TableMove st [.unsubscribed subID found] next

variable {st next : State W} {events : List (Event W)} {world : W}

theorem startListener_ok {ctx : Nat} {port : UInt16} {binding : Binding}
    (started : st.startListener ctx port binding = .ok next) :
    next = { st with
      listener := { st.listener with
        conn := some st.conns.length, isListening := true, cancel := some st.contexts.length }
      conns := st.conns ++ [⟨false⟩]
      contexts := st.contexts ++ [⟨ctx, ctx ∈ st.cancelled⟩]
      running := st.running ++ [.start st.conns.length st.contexts.length] } := by
  unfold State.startListener at started
  split at started
  · contradiction
  · cases binding with
    | bound => exact (Except.ok.inj started).symm
    | unresolved | refused => contradiction

theorem unsubscribe_ok {listener next : UDPListener W} {subID : UInt32}
    (removed : listener.unsubscribeFromPacketReceived subID = .ok next) :
    next = { listener with subscriptions := listener.subscriptions.erase subID } := by
  unfold UDPListener.unsubscribeFromPacketReceived at removed
  split at removed
  · contradiction
  · exact (Except.ok.inj removed).symm

theorem unsubscribe_error {listener : UDPListener W} {subID : UInt32} {err : String}
    (missing : listener.unsubscribeFromPacketReceived subID = .error err) :
    listener.subscriptions.lookup subID = none := by
  unfold UDPListener.unsubscribeFromPacketReceived at missing
  split at missing
  · assumption
  · contradiction

theorem step_table (step : Step st events next) : TableMove st events next := by
  cases step with
  | start ctx port started =>
    rw [startListener_ok started]
    exact .quiet (by simp [Event.subscribes, Event.unsubscribes]) rfl rfl
  | subscribe added known =>
    obtain ⟨rfl, rfl⟩ := Prod.mk.inj (Except.ok.inj added)
    exact .subscribed rfl rfl known
  | unsubscribe removed =>
    rw [unsubscribe_ok removed]
    exact .unsubscribed rfl rfl
  | unsubscribeFails missing =>
    exact .unsubscribed (Map.erase_absent (unsubscribe_error missing)).symm rfl
  | _ => exact .quiet (by simp [Event.subscribes, Event.unsubscribes]) rfl rfl

theorem register_quiet {table : Map UInt32 (Subscription W)}
    (silent : ∀ event ∈ events, event.subscribes = false ∧ event.unsubscribes = false) :
    events.foldl Event.register table = table := by
  induction events with
  | nil => rfl
  | cons event events ih =>
    have unchanged : event.register table = table := by
      have quiet := silent event List.mem_cons_self
      cases event with
      | subscribed => cases quiet.1
      | unsubscribed => cases quiet.2
      | _ => rfl
    rw [List.foldl_cons, unchanged]
    exact ih fun event member => silent event (List.mem_cons_of_mem _ member)

/-- The table follows the events. -/
theorem TableMove.register (moved : TableMove st events next) :
    next.listener.subscriptions = events.foldl Event.register st.listener.subscriptions := by
  cases moved with
  | quiet silent table => rw [table, register_quiet silent]
  | subscribed table => exact table
  | unsubscribed table => exact table

/-- So does the table without one of its older entries. -/
theorem TableMove.register_erase (moved : TableMove st events next) {subID : UInt32}
    (older : 0 < subscriptions events → subID ≠ st.listener.nextSubID + 1) :
    next.listener.subscriptions.erase subID =
      events.foldl Event.register (st.listener.subscriptions.erase subID) := by
  cases moved with
  | quiet silent table => rw [table, register_quiet silent]
  | subscribed table =>
    rw [table, Map.erase_insert_ne _ _ (older (by simp)).symm]
    rfl
  | unsubscribed table =>
    rw [table, AList.erase_erase]
    rfl

/-- The counter has not wrapped and no id of the table lies beyond it. -/
structure Numbered (events : List (Event W)) (st : State W) : Prop where
  count : st.listener.nextSubID.toNat = subscriptions events
  keys : ∀ subID sub, st.listener.subscriptions.lookup subID = some sub →
  subID.toNat ≤ subscriptions events

theorem Numbered.succ {past : List (Event W)} (before : Numbered past st)
    (few : subscriptions past + 1 < 2 ^ 32) :
    (st.listener.nextSubID + 1).toNat = subscriptions past + 1 := by
  rw [UInt32.toNat_add, before.count]
  exact Nat.mod_eq_of_lt few

theorem TableMove.numbered {past : List (Event W)} (moved : TableMove st events next)
    (before : Numbered past st) (few : subscriptions (past ++ events) < 2 ^ 32) :
    Numbered (past ++ events) next := by
  cases moved with
  | quiet silent table counter =>
    have total : subscriptions (past ++ events) = subscriptions past := by
      rw [subscriptions_append]
      exact Nat.add_eq_left.mpr (List.countP_eq_zero.mpr fun event member =>
        by simp [(silent event member).1])
    constructor
    · rw [counter, total, before.count]
    · rw [table, total]
      exact before.keys
  | subscribed table counter =>
    rw [subscriptions_append, subscriptions_subscribed] at few
    have number := before.succ few
    constructor
    · rw [counter, number, subscriptions_append, subscriptions_subscribed]
    · intro subID held found
      rw [subscriptions_append, subscriptions_subscribed]
      rw [table] at found
      by_cases same : subID = st.listener.nextSubID + 1
      · rw [same, number]
      · rw [AList.lookup_insert_ne same] at found
        exact Nat.le_succ_of_le (before.keys subID held found)
  | unsubscribed table counter =>
    constructor
    · rw [counter, subscriptions_append, subscriptions_unsubscribed, before.count, Nat.add_zero]
    · intro subID held found
      rw [subscriptions_append, subscriptions_unsubscribed]
      rw [table] at found
      exact before.keys subID held (Map.lookup_of_erase found)

theorem runs_numbered (run : Runs world events st) :
    subscriptions events < 2 ^ 32 → Numbered events st := by
  apply Run.invariant (P := fun events st => subscriptions events < 2 ^ 32 →
    Numbered events st) _ _ run
  · intro _
    exact ⟨rfl, fun subID sub found => by simp [State.initial, UDPListener.new] at found⟩
  · intro past before events next held move few
    have earlier : subscriptions past < 2 ^ 32 := by
      rw [subscriptions_append] at few
      omega
    exact (step_table move.2).numbered (held earlier) few

/-- The table is what the events so far have made of the empty one. -/
theorem runs_register (run : Runs world events st) :
    st.listener.subscriptions = events.foldl Event.register ∅ := by
  apply Run.invariant (P := fun events st =>
    st.listener.subscriptions = events.foldl Event.register ∅) _ _ run
  · rfl
  · intro past before events next held move
    rw [List.foldl_append, ← held]
    exact (step_table move.2).register

/-- An id that was given up is not in the table and will not be handed out again. -/
theorem TableMove.unsubscribed_absent {past : List (Event W)} {subID : UInt32}
    (moved : TableMove st events next) (numbered : Numbered past st)
    (few : subscriptions (past ++ events) < 2 ^ 32)
    (absent : st.listener.subscriptions.lookup subID = none)
    (old : subID.toNat ≤ subscriptions past) :
    next.listener.subscriptions.lookup subID = none := by
  cases moved with
  | quiet _ table => rw [table, absent]
  | subscribed table =>
    rw [subscriptions_append, subscriptions_subscribed] at few
    have fresh : subID ≠ st.listener.nextSubID + 1 := by
      rintro rfl
      rw [numbered.succ few] at old
      omega
    rw [table, AList.lookup_insert_ne fresh, absent]
  | unsubscribed table =>
    cases found : next.listener.subscriptions.lookup subID with
    | none => rfl
    | some sub =>
      rw [table] at found
      rw [Map.lookup_of_erase found] at absent
      contradiction

theorem step_unsubscribed {subID : UInt32} (step : Step st events next)
    (gone : .unsubscribed subID true ∈ events) :
    (∃ sub, st.listener.subscriptions.lookup subID = some sub) ∧
    next.listener.subscriptions.lookup subID = none := by
  cases step with
  | unsubscribe removed =>
    obtain ⟨rfl, -⟩ := Event.unsubscribed.inj (List.mem_singleton.mp gone)
    rw [unsubscribe_ok removed]
    refine ⟨?_, AList.lookup_erase ..⟩
    unfold UDPListener.unsubscribeFromPacketReceived at removed
    split at removed
    · contradiction
    next sub found => exact ⟨sub, found⟩
  | _ => simp at gone

theorem runs_unsubscribed (run : Runs world events st) {subID : UInt32} :
    subscriptions events < 2 ^ 32 → .unsubscribed subID true ∈ events →
      st.listener.subscriptions.lookup subID = none ∧ subID.toNat ≤ subscriptions events := by
  apply Run.invariant_reached
    (P := fun (events : List (Event W)) st => subscriptions events < 2 ^ 32 →
    Event.unsubscribed subID true ∈ events →
      st.listener.subscriptions.lookup subID = none ∧ subID.toNat ≤ subscriptions events) _ _ run
  · exact fun _ member => absurd member List.not_mem_nil
  · intro past before events next earlier held move few member
    have grown : subscriptions past ≤ subscriptions (past ++ events) := by
      rw [subscriptions_append]
      omega
    have numbered := runs_numbered earlier (by omega)
    rcases List.mem_append.mp member with old | new
    · obtain ⟨absent, below⟩ := held (by omega) old
      exact ⟨(step_table move.2).unsubscribed_absent numbered few absent below, by omega⟩
    · obtain ⟨⟨sub, found⟩, absent⟩ := step_unsubscribed move.2 new
      have below := numbered.keys subID sub found
      exact ⟨absent, by omega⟩

theorem step_channels (step : Step st events next) : st.channels.length ≤ next.channels.length := by
  cases step with
  | start ctx port started => rw [startListener_ok started]
  | make => simp
  | take | wait | close | deliver | handOver => simp [State.setChannel]
  | _ => exact Nat.le_refl _

/-- A subscription names a channel that has been made before. -/
theorem runs_known (run : Runs world events st) {subID : UInt32} {sub : Subscription W} :
    .subscribed subID sub ∈ events → sub.ch < st.channels.length := by
  apply Run.invariant
    (P := fun (events : List (Event W)) st => Event.subscribed subID sub ∈ events →
    sub.ch < st.channels.length) _ _ run
  · exact fun member => absurd member List.not_mem_nil
  · intro past before events next held move member
    have grown := step_channels move.2
    rcases List.mem_append.mp member with old | new
    · exact Nat.lt_of_lt_of_le (held old) grown
    · cases step_table move.2 with
      | quiet silent => simpa [Event.subscribes] using (silent _ new).1
      | subscribed _ _ known =>
        obtain ⟨rfl, rfl⟩ := Event.subscribed.inj (List.mem_singleton.mp new)
        exact Nat.lt_of_lt_of_le known grown
      | unsubscribed => simp at new

end GotaDaemon.Network
