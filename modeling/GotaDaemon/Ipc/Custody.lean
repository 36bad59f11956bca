import GotaDaemon.Ipc.Goroutines
import Mathlib.Algebra.BigOperators.Group.List.Basic

/-! Who is responsible for closing a session. For one session the ledger counts
its map entries, the goroutines that have it in hand at each stage of teardown
and what has been done to it. Every step of the manager is a move of every
ledger, and the moves only ever pass the responsibility on. -/
namespace GotaDaemon.Ipc
open Go Transition

@[ext] structure Ledger where
  /-- whether RegisterSession has returned it -/
  registered : Nat
  /-- entries of the sessions map -/
  mapped : Nat
  /-- UnregisterSession calls between their delete and closeOnce.Do -/
  taken : Nat
  /-- UnregisterSession calls inside closeOnce.Do, before Conn.Close -/
  closing : Nat
  /-- UnregisterSession calls between Conn.Close and the onClose callback -/
  notifying : Nat
  /-- UnregisterSession calls past the onClose callback, still inside closeOnce.Do -/
  leaving : Nat
  /-- occurrences in the lists of the Close calls -/
  resetting : Nat
  /-- calls of Conn.Close -/
  closed : Nat
  /-- whether closeOnce.Do has been entered -/
  entered : Nat
  /-- invocations of onClose -/
  notified : Nat
  /-- removals from the map by Close -/
  resets : Nat
  deriving DecidableEq, Repr

namespace Ledger

/-- One move of a ledger. Only a registration that overwrites a map entry and
a teardown without an onClose callback lose something on the way. -/
inductive Move (overwritten unnotified : Prop) : Ledger → Ledger → Prop where
  | stay : Move overwritten unnotified l l
  | register : l.registered = 0 →
      Move overwritten unnotified l { l with registered := 1, mapped := l.mapped + 1 }
  | overwrite : overwritten → l.mapped = m + 1 →
      Move overwritten unnotified l { l with mapped := m }
  | take : l.mapped = m + 1 →
      Move overwritten unnotified l { l with mapped := m, taken := l.taken + 1 }
  | enter : l.taken = t + 1 → l.entered = 0 →
      Move overwritten unnotified l
        { l with taken := t, closing := l.closing + 1, entered := 1 }
  | skip : l.taken = t + 1 → l.entered = 1 → Move overwritten unnotified l { l with taken := t }
  | close : l.closing = c + 1 →
      Move overwritten unnotified l
        { l with closing := c, notifying := l.notifying + 1, closed := l.closed + 1 }
  | notify : l.notifying = n + 1 →
      Move overwritten unnotified l
        { l with notifying := n, leaving := l.leaving + 1, notified := l.notified + 1 }
  | pass : unnotified → l.notifying = n + 1 →
      Move overwritten unnotified l { l with notifying := n, leaving := l.leaving + 1 }
  | leave : l.leaving = n + 1 → Move overwritten unnotified l { l with leaving := n }
  | reset : Move overwritten unnotified l
        { l with mapped := 0, resetting := l.resetting + l.mapped, resets := l.resets + l.mapped }
  | closeReset : l.resetting = r + 1 →
      Move overwritten unnotified l { l with resetting := r, closed := l.closed + 1 }

/-- A session is in one place at a time and closeOnce.Do is entered once; its
connection is closed and onClose is run at most once, and at most one party
still has to do it. -/
structure Lawful (l : Ledger) : Prop where
  once : l.registered ≤ 1
  single : l.mapped + l.taken + l.entered + l.resets ≤ l.registered
  inside : l.closing + l.notifying + l.leaving ≤ l.entered
  owed : l.mapped + l.taken + l.closing + l.resetting + l.closed ≤ l.registered
  notice : l.mapped + l.taken + l.closing + l.notifying + l.notified + l.resets ≤ l.registered

variable {overwritten unnotified : Prop} {l next : Ledger}

theorem Move.of_eq {reached : Ledger} (move : Move overwritten unnotified l reached)
    (same : next = reached) : Move overwritten unnotified l next :=
  same ▸ move

theorem Move.mono {overwritten' unnotified' : Prop} (move : Move overwritten unnotified l next)
    (first : overwritten → overwritten') (second : unnotified → unnotified') :
    Move overwritten' unnotified' l next := by
  cases move with
  | stay => exact .stay
  | register fresh => exact .register fresh
  | overwrite lost entry => exact .overwrite (first lost) entry
  | take entry => exact .take entry
  | enter held fresh => exact .enter held fresh
  | skip held done => exact .skip held done
  | close held => exact .close held
  | notify held => exact .notify held
  | pass silent held => exact .pass (second silent) held
  | leave held => exact .leave held
  | reset => exact .reset
  | closeReset held => exact .closeReset held

theorem Move.lawful (move : Move overwritten unnotified l next) (lawful : l.Lawful) :
    next.Lawful := by
  obtain ⟨once, single, inside, owed, notice⟩ := lawful
  cases move with
  | stay => exact ⟨once, single, inside, owed, notice⟩
  | _ => constructor <;> dsimp only <;> omega

/-- Nothing is lost: somebody owes the Conn.Close of every registered session
whose connection is still open. -/
def Owed (l : Ledger) : Prop :=
  l.mapped + l.taken + l.closing + l.resetting + l.closed = l.registered

theorem Move.owed (move : Move False unnotified l next) (lawful : l.Lawful) (owed : l.Owed) :
    next.Owed := by
  have single := lawful.single
  have once := lawful.once
  unfold Owed at owed ⊢
  cases move with
  | stay => exact owed
  | overwrite lost => exact lost.elim
  | _ => dsimp only; omega

/-- Every registered session is notified, or somebody still has to, or Close
has removed it from the map. -/
def Noticed (l : Ledger) : Prop :=
  l.mapped + l.taken + l.closing + l.notifying + l.notified + l.resets = l.registered

theorem Move.noticed (move : Move False False l next) (lawful : l.Lawful) (noticed : l.Noticed) :
    next.Noticed := by
  have single := lawful.single
  have once := lawful.once
  unfold Noticed at noticed ⊢
  cases move with
  | stay => exact noticed
  | overwrite lost => exact lost.elim
  | pass silent => exact silent.elim
  | _ => dsimp only; omega

end Ledger

/-! The ledger of a session in a state of the manager. -/

inductive Stage where
  | taken | closing | notifying | leaving | resetting
  deriving DecidableEq, Repr

/-- The sessions a goroutine has in hand, and at which stage. -/
def Goroutine.inHand : Goroutine → Option (Stage × List Nat)
  | .unregister _ (.once _ held _) => some (.taken, [held])
  | .unregister _ (.writeMu _ held _) | .unregister _ (.closeConn _ held _) =>
    some (.closing, [held])
  | .unregister _ (.callback _ held _ _) => some (.notifying, [held])
  | .unregister _ (.leave _ held _) => some (.leaving, [held])
  | .close (.conns rest) => some (.resetting, rest)
  | _ => none

def Goroutine.hand (index : Nat) (stage : Stage) (goroutine : Goroutine) : Nat :=
  match goroutine.inHand with
  | some (at_, held) => if at_ = stage then held.count index else 0
  | none => 0

def inHand (index : Nat) (stage : Stage) (running : List Goroutine) : Nat :=
  (running.map (Goroutine.hand index stage)).sum

@[simp] theorem inHand_append (index : Nat) (stage : Stage) (first second : List Goroutine) :
    inHand index stage (first ++ second) =
      inHand index stage first + inHand index stage second := by
  simp only [inHand, List.map_append, List.sum_append]

@[simp] theorem inHand_cons (index : Nat) (stage : Stage) (goroutine : Goroutine)
    (rest : List Goroutine) : inHand index stage (goroutine :: rest) =
      goroutine.hand index stage + inHand index stage rest := by
  simp only [inHand, List.map_cons, List.sum_cons]

@[simp] theorem inHand_nil (index : Nat) (stage : Stage) : inHand index stage [] = 0 := rfl

/-- The goroutine has found no onClose callback in its sm.mu section. -/
def Goroutine.Unnotified : Goroutine → Prop
  | .unregister _ (.once _ _ onClose) | .unregister _ (.writeMu _ _ onClose)
  | .unregister _ (.closeConn _ _ onClose) | .unregister _ (.callback _ _ onClose _) =>
    onClose = false
  | _ => False

variable {W K L : Type} {client : Client W K L} {st next : State W K}
  {events past : List (Event K L)} {index : Nat}

def Event.notified (index : Nat) : Event K L → Nat
  | .onClose held _ => if held = index then 1 else 0
  | _ => 0

def Event.resets (index : Nat) : Event K L → Nat
  | .reset active => active.count index
  | _ => 0

/-- A number read off one record; 0 before it is allocated. -/
def tally (count : SessionState K → Nat) (heap : List (SessionState K)) (index : Nat) : Nat :=
  (heap[index]?.map count).getD 0

def SessionState.closes (sess : SessionState K) : Nat := sess.conn.closes

def SessionState.entered (sess : SessionState K) : Nat := if sess.closeOnce = .fresh then 0 else 1

def ledger (index : Nat) (past : List (Event K L)) (st : State W K) : Ledger where
  registered := if index < st.heap.length then 1 else 0
  mapped := st.sessions.values.count index
  taken := inHand index .taken st.running
  closing := inHand index .closing st.running
  notifying := inHand index .notifying st.running
  leaving := inHand index .leaving st.running
  resetting := inHand index .resetting st.running
  closed := tally SessionState.closes st.heap index
  entered := tally SessionState.entered st.heap index
  notified := (past.map (Event.notified index)).sum
  resets := (past.map (Event.resets index)).sum

section Records
variable {heap : List (SessionState K)} {owner : Nat} {old : SessionState K}
  {count : SessionState K → Nat}

theorem tally_held (held : heap[owner]? = some old) : tally count heap owner = count old := by
  simp only [tally, held, Option.map_some, Option.getD_some]

theorem tally_set (held : heap[owner]? = some old) (new : SessionState K) :
    tally count (heap.set owner new) index =
      if owner = index then count new else tally count heap index := by
  have bound := (List.getElem?_eq_some_iff.mp held).1
  by_cases same : owner = index
  · subst same
    simp [tally, bound]
  · simp [tally, same]

theorem tally_new (heap : List (SessionState K)) {new : SessionState K} (zero : count new = 0) :
    tally count (heap ++ [new]) index = tally count heap index := by
  unfold tally
  rw [List.getElem?_append]
  split
  · rfl
  · rename_i beyond
    rw [List.getElem?_singleton, List.getElem?_eq_none (Nat.le_of_not_lt beyond)]
    split <;> simp [zero]

/-- The record may change in every other respect. -/
def SessionState.SameTeardown (old new : SessionState K) : Prop :=
  new.closes = old.closes ∧ new.entered = old.entered

theorem tally_same (held : heap[owner]? = some old) {new : SessionState K}
    (same : count new = count old) :
    tally count (heap.set owner new) index = tally count heap index := by
  have before : tally count heap owner = count old := tally_held held
  rw [tally_set held]
  split <;> simp_all

theorem offer_same {new : SessionState K} {outcome : Offer}
    (offered : old.offer pkt = .ok (outcome, new)) : old.SameTeardown new := by
  have done := offer_ok offered
  cases outcome with
  | closed => rw [done.2]; exact ⟨rfl, rfl⟩
  | accepted =>
    obtain ⟨_, outbound, _, rfl⟩ := done
    exact ⟨rfl, rfl⟩
  | blocked =>
    obtain ⟨_, _, _, rfl⟩ := done
    exact ⟨rfl, rfl⟩

theorem closeOutbound_same {new : SessionState K} (closed : old.closeOutbound = .ok new) :
    old.SameTeardown new := by
  cases wasClosed : old.isClosed with
  | false =>
    obtain ⟨_, rfl⟩ := closeOutbound_ok wasClosed closed
    exact ⟨rfl, rfl⟩
  | true =>
    simp only [SessionState.closeOutbound, wasClosed, if_true, Except.ok.injEq] at closed
    rw [closed]
    exact ⟨rfl, rfl⟩

theorem writer_same {new : SessionState K} (moved : WriterStep cancelled old own new) :
    old.SameTeardown new := by
  cases moved <;> exact ⟨rfl, rfl⟩

theorem reader_same {new : SessionState K} (moved : ReaderStep cancelled onControl old own new) :
    old.SameTeardown new := by
  cases moved <;> exact ⟨rfl, rfl⟩

theorem loopDone_same (which : Loop) : old.SameTeardown (old.loopDone which) := by
  cases which <;> exact ⟨rfl, rfl⟩

end Records

/-- Everything the ledgers count is left alone. -/
structure Quiet (index : Nat) (st : State W K) (events : List (Event K L)) (next : State W K) :
    Prop where
  length : next.heap.length = st.heap.length
  sessions : next.sessions.values.count index = st.sessions.values.count index
  running : ∀ stage, inHand index stage next.running = inHand index stage st.running
  closed : tally SessionState.closes next.heap index = tally SessionState.closes st.heap index
  entered : tally SessionState.entered next.heap index = tally SessionState.entered st.heap index
  events : ∀ event ∈ events, event.notified index = 0 ∧ event.resets index = 0

theorem Quiet.ledger_eq (quiet : Quiet index st events next) :
    ledger index (past ++ events) next = ledger index past st := by
  have notified : (events.map (Event.notified index)).sum = 0 :=
    List.sum_eq_zero (by simpa using fun event member => (quiet.events event member).1)
  have resets : (events.map (Event.resets index)).sum = 0 :=
    List.sum_eq_zero (by simpa using fun event member => (quiet.events event member).2)
  ext <;> simp [ledger, quiet.length, quiet.sessions, quiet.running, quiet.closed, quiet.entered,
    notified, resets]

theorem Quiet.move {overwritten unnotified : Prop} (quiet : Quiet index st events next) :
    Ledger.Move overwritten unnotified (ledger index past st)
      (ledger index (past ++ events) next) := by
  rw [quiet.ledger_eq]
  exact .stay

theorem send_quiet {point : Send} {result : SendNext}
    (step : SendStep st point events next result) :
    tally SessionState.closes next.heap index = tally SessionState.closes st.heap index ∧
    tally SessionState.entered next.heap index = tally SessionState.entered st.heap index ∧
    ∀ event ∈ events, event.notified index = 0 ∧ event.resets index = 0 := by
  cases step with
  | accepted held offered | blocked held offered =>
    exact ⟨tally_same held (offer_same offered).1, tally_same held (offer_same offered).2,
      by simp [Event.notified, Event.resets]⟩
  | _ => exact ⟨rfl, rfl, by simp [Event.notified, Event.resets]⟩

/-- Steps that change no entry of the map and no stage of a teardown. -/
theorem put_quiet {owner : Nat} {old new : SessionState K} (held : st.heap[owner]? = some old)
    (same : old.SameTeardown new) (own : List SessionEvent) (started : List Goroutine)
    (idle : ∀ stage, inHand index stage started = 0) :
    Quiet index st (own.map (Event.session (K := K) (L := L) owner))
      ((st.put owner new).spawn started) where
  length := by simp
  sessions := rfl
  running := by simp [idle]
  closed := tally_same held same.1
  entered := tally_same held same.2
  events := by
    intro event member
    obtain ⟨_, _, rfl⟩ := List.mem_map.mp member
    exact ⟨rfl, rfl⟩

section Teardown
variable {overwritten unnotified : Prop} {before after : List Goroutine}
  {origin : Origin} {did : DID}
  {held : Nat} {onClose : Bool} {closeErr : Option String} {sess : SessionState K}

theorem take_ledger (located : st.running = before ++ .unregister origin (.enter did) :: after)
    (found : st.sessions.lookup did = some held) :
    Ledger.Move overwritten unnotified (ledger index past st)
      (ledger index (past ++ [.removed held did origin.session])
        { st with sessions := st.sessions.erase did
                  running :=
                    before ++ .unregister origin (.once did held st.onClose) :: after }) := by
  have counted := Map.count_erase found index
  by_cases same : held = index
  · rw [if_pos same] at counted
    refine .of_eq (.take counted) ?_
    ext <;> simp [ledger, located, same, Goroutine.hand, Goroutine.inHand, Event.notified,
      Event.resets]
    omega
  · rw [if_neg same, Nat.add_zero] at counted
    exact Quiet.move ⟨rfl, counted.symm,
      by simp [located, same, Goroutine.hand, Goroutine.inHand], rfl, rfl,
      by simp [Event.notified, Event.resets]⟩

theorem enter_ledger
    (located : st.running = before ++ .unregister origin (.once did held onClose) :: after)
    (record : st.heap[held]? = some sess) (fresh : sess.closeOnce = .fresh) :
    Ledger.Move overwritten unnotified (ledger index past st)
      (ledger index (past ++ ([] : List (Event K L)))
        { st.put held { sess with closeOnce := .running } with
          running := before ++ .unregister origin (.writeMu did held onClose) :: after }) := by
  by_cases same : held = index
  · subst same
    have taken : inHand held .taken st.running = inHand held .taken (before ++ after) + 1 := by
      simp [located, Goroutine.hand, Goroutine.inHand]
      omega
    refine .of_eq
      (.enter taken (by simp [ledger, tally_held record, SessionState.entered, fresh])) ?_
    ext <;> simp [ledger, located, Goroutine.hand, Goroutine.inHand, tally_set record,
      tally_held record, SessionState.closes, SessionState.entered]
    omega
  · exact Quiet.move ⟨by simp, rfl, by simp [located, same, Goroutine.hand, Goroutine.inHand],
      by simp [tally_set record, same], by simp [tally_set record, same], by simp⟩

theorem skip_ledger
    (located : st.running = before ++ .unregister origin (.once did held onClose) :: after)
    (record : st.heap[held]? = some sess) (done : sess.closeOnce = .done)
    (result : Except UnregisterError Unit) :
    Ledger.Move overwritten unnotified (ledger index past st)
      (ledger index (past ++ ([] : List (Event K L)))
        { st with running := before ++ .unregister origin (.finish result) :: after }) := by
  by_cases same : held = index
  · subst same
    have taken : inHand held .taken st.running = inHand held .taken (before ++ after) + 1 := by
      simp [located, Goroutine.hand, Goroutine.inHand]
      omega
    refine .of_eq (.skip taken (by simp [ledger, tally_held record, SessionState.entered, done])) ?_
    ext <;> simp [ledger, located, Goroutine.hand, Goroutine.inHand]
  · exact Quiet.move
      ⟨rfl, rfl, by simp [located, same, Goroutine.hand, Goroutine.inHand], rfl, rfl, by simp⟩

theorem closeConn_ledger
    (located : st.running = before ++ .unregister origin (.closeConn did held onClose) :: after)
    (record : st.heap[held]? = some sess) :
    Ledger.Move overwritten unnotified (ledger index past st)
      (ledger index (past ++ ([] : List (Event K L)))
        { st.put held { sess with conn.closes := sess.conn.closes + 1 } with
          running :=
            before ++ .unregister origin (.callback did held onClose closeErr) :: after }) := by
  by_cases same : held = index
  · subst same
    have closing :
        inHand held .closing st.running = inHand held .closing (before ++ after) + 1 := by
      simp [located, Goroutine.hand, Goroutine.inHand]
      omega
    refine .of_eq (.close closing) ?_
    ext <;> simp [ledger, located, Goroutine.hand, Goroutine.inHand, tally_set record,
      tally_held record, SessionState.closes, SessionState.entered]
    omega
  · exact Quiet.move ⟨by simp, rfl, by simp [located, same, Goroutine.hand, Goroutine.inHand],
      by simp [tally_set record, same], by simp [tally_set record, same], by simp⟩

theorem callback_ledger
    (located : st.running =
      before ++ .unregister origin (.callback did held onClose closeErr) :: after)
    (silent : onClose = false → unnotified) :
    Ledger.Move overwritten unnotified (ledger index past st)
      (ledger index (past ++ (if onClose then [Event.onClose (K := K) (L := L) held did] else []))
        { st with
          running := before ++ .unregister origin (.leave did held closeErr) :: after }) := by
  by_cases same : held = index
  · subst same
    have notifying :
        inHand held .notifying st.running = inHand held .notifying (before ++ after) + 1 := by
      simp [located, Goroutine.hand, Goroutine.inHand]
      omega
    cases onClose with
    | true =>
      refine .of_eq (.notify notifying) ?_
      ext <;> simp [ledger, located, Goroutine.hand, Goroutine.inHand, Event.notified, Event.resets]
      omega
    | false =>
      refine .of_eq (.pass (silent rfl) notifying) ?_
      ext <;> simp [ledger, located, Goroutine.hand, Goroutine.inHand]
      omega
  · refine Quiet.move
      ⟨rfl, rfl, by simp [located, same, Goroutine.hand, Goroutine.inHand], rfl, rfl, ?_⟩
    cases onClose <;> simp [Event.notified, Event.resets, same]

theorem leave_ledger
    (located : st.running = before ++ .unregister origin (.leave did held closeErr) :: after)
    (record : st.heap[held]? = some sess) (lawful : (ledger index past st).Lawful)
    (result : Except UnregisterError Unit) :
    Ledger.Move overwritten unnotified (ledger index past st)
      (ledger index (past ++ ([] : List (Event K L)))
        { st.put held { sess with closeOnce := .done } with
          running := before ++ .unregister origin (.finish result) :: after }) := by
  by_cases same : held = index
  · subst same
    have leaving :
        inHand held .leaving st.running = inHand held .leaving (before ++ after) + 1 := by
      simp [located, Goroutine.hand, Goroutine.inHand]
      omega
    -- whoever is leaving closeOnce.Do has entered it
    have entered : sess.entered = 1 := by
      have inside := lawful.inside
      simp only [ledger, leaving, tally_held record, SessionState.entered] at inside ⊢
      split at inside <;> simp_all
    refine .of_eq (.leave leaving) ?_
    ext <;> simp [ledger, located, Goroutine.hand, Goroutine.inHand, tally_set record,
      tally_held record, SessionState.closes, entered]
    rfl
  · exact Quiet.move ⟨by simp, rfl, by simp [located, same, Goroutine.hand, Goroutine.inHand],
      by simp [tally_set record, same], by simp [tally_set record, same], by simp⟩

theorem reset_ledger (located : st.running = before ++ .close .reset :: after) {active : List Nat}
    (perm : active.Perm st.sessions.values) :
    Ledger.Move overwritten unnotified (ledger index past st)
      (ledger index (past ++ [.reset active])
        { st with sessions := ∅, running := before ++ .close (.conns active) :: after }) := by
  refine .of_eq .reset ?_
  have counted := perm.count_eq index
  ext <;> simp [ledger, located, counted, Goroutine.hand, Goroutine.inHand, Event.notified,
    Event.resets]
  omega

theorem closeNext_ledger (located : st.running = before ++ .close (.conns (held :: rest)) :: after)
    (record : st.heap[held]? = some sess) :
    Ledger.Move overwritten unnotified (ledger index past st)
      (ledger index (past ++ ([] : List (Event K L)))
        { st.put held { sess with conn.closes := sess.conn.closes + 1 } with
          running := before ++ .close (.conns rest) :: after }) := by
  by_cases same : held = index
  · subst same
    have resetting : inHand held .resetting st.running =
        inHand held .resetting (before ++ .close (.conns rest) :: after) + 1 := by
      simp [located, Goroutine.hand, Goroutine.inHand]
      omega
    refine .of_eq (.closeReset resetting) ?_
    ext <;> simp [ledger, located, Goroutine.hand, Goroutine.inHand, tally_set record,
      tally_held record, SessionState.closes, SessionState.entered]
  · exact Quiet.move ⟨by simp, rfl, by simp [located, same, Goroutine.hand, Goroutine.inHand],
      by simp [tally_set record, same], by simp [tally_set record, same], by simp⟩

end Teardown

theorem register_ledger {unnotified : Prop} (lawful : (ledger index past st).Lawful) :
    Ledger.Move (st.sessions.lookup (st.nextDID + 1) = some index) unnotified (ledger index past st)
      (ledger index (past ++ [.registered st.heap.length (st.nextDID + 1)
        (st.sessions.lookup (st.nextDID + 1))]) (st.registerSession (some {})).2) := by
  have counted := Map.count_insert st.sessions (st.nextDID + 1) st.heap.length index
  have closed : tally SessionState.closes (st.heap ++ [.new K (st.nextDID + 1) {}]) index =
      tally SessionState.closes st.heap index := tally_new _ rfl
  have entered : tally SessionState.entered (st.heap ++ [.new K (st.nextDID + 1) {}]) index =
      tally SessionState.entered st.heap index := tally_new _ rfl
  have single := lawful.single
  by_cases fresh : index = st.heap.length
  · subst fresh
    have absent : st.sessions.values.count st.heap.length = 0 := by
      simp only [ledger, Nat.lt_irrefl, if_false] at single
      omega
    have unseen : st.sessions.lookup (st.nextDID + 1) ≠ some st.heap.length := fun found =>
      List.count_eq_zero.mp absent (Map.mem_values_of_lookup found)
    rw [if_neg unseen, if_pos rfl] at counted
    refine .of_eq (.register (by simp [ledger])) ?_
    ext <;> simp [ledger, State.registerSession, closed, entered, Event.notified, Event.resets]
    exact counted
  · rw [if_neg (Ne.symm fresh), Nat.add_zero] at counted
    have length : (index < st.heap.length + 1) = (index < st.heap.length) := by
      simp only [eq_iff_iff]
      omega
    by_cases found : st.sessions.lookup (st.nextDID + 1) = some index
    · rw [if_pos found] at counted
      refine .of_eq (.overwrite found counted.symm) ?_
      ext <;> simp [ledger, State.registerSession, closed, entered, length, Event.notified,
        Event.resets]
    · rw [if_neg found, Nat.add_zero] at counted
      refine .of_eq .stay ?_
      ext <;> simp [ledger, State.registerSession, closed, entered, length, counted, Event.notified,
        Event.resets]

theorem caller_idle (result : SendNext) (stage : Stage) : inHand index stage result.caller = 0 := by
  cases result <;> simp [SendNext.caller, Goroutine.hand, Goroutine.inHand]

theorem spawned_idle (result : SendNext) (stage : Stage) :
    inHand index stage result.spawned = 0 := by
  cases result <;> simp [SendNext.spawned, Goroutine.hand, Goroutine.inHand]

theorem deferredReader_idle (owner : Nat) (sess : SessionState K) (stage : Stage) :
    inHand index stage (deferredReader owner sess) = 0 := by
  unfold deferredReader
  split <;> simp [Goroutine.hand, Goroutine.inHand]

theorem deferredWriter_idle (owner : Nat) (sess : SessionState K) (stage : Stage) :
    inHand index stage (deferredWriter owner sess) = 0 := by
  unfold deferredWriter
  split <;> simp [Goroutine.hand, Goroutine.inHand]

/-- Every step of the manager is a move of every session's ledger. -/
theorem step_ledger (step : Step client st events next) (lawful : (ledger index past st).Lawful) :
    Ledger.Move (∃ fresh did, events = [.registered fresh did (some index)])
      (∃ goroutine ∈ st.running, goroutine.Unnotified)
      (ledger index past st) (ledger index (past ++ events) next) := by
  cases step with
  | register =>
    exact (register_ledger lawful).mono (fun found => ⟨_, _, by rw [found]⟩) id
  | registerNil | setOnClose | setControlCallback | cancel | interfere | closeOutboundPanics =>
    exact Quiet.move ⟨rfl, rfl, fun _ => rfl, rfl, rfl, by simp [Event.notified, Event.resets]⟩
  | callUnregister | callSend | callClose =>
    exact Quiet.move ⟨rfl, rfl, by simp [Goroutine.hand, Goroutine.inHand], rfl, rfl,
      by simp [Event.notified, Event.resets]⟩
  | arrive bytes held =>
    exact Quiet.move ⟨by simp, rfl, fun _ => rfl, tally_same held rfl, tally_same held rfl,
      by simp [Event.notified, Event.resets]⟩
  | control held running acted =>
    exact Quiet.move ⟨by simp, rfl, fun _ => rfl, tally_same held rfl, tally_same held rfl,
      by simp [Event.notified, Event.resets]⟩
  | take located found => exact take_ledger located found
  | takeMissing located absent =>
    exact Quiet.move
      ⟨rfl, rfl, by simp [located, Goroutine.hand, Goroutine.inHand], rfl, rfl, by simp⟩
  | onceEnter located held fresh => exact enter_ledger located held fresh
  | onceSkip located held done => exact skip_ledger located held done _
  | closeOutbound located held closed =>
    refine Quiet.move ⟨by simp, rfl, by simp [located, Goroutine.hand, Goroutine.inHand],
      tally_same held (closeOutbound_same closed).1,
        tally_same held (closeOutbound_same closed).2, ?_⟩
    split <;> simp [Event.notified, Event.resets]
  | closeConn closeErr located held => exact closeConn_ledger located held
  | runOnClose located =>
    exact callback_ledger located fun silent => Bool.noConfusion silent
  | skipOnClose located =>
    exact callback_ledger located fun _ => ⟨_, Pool.mem located, rfl⟩
  | onceLeave located held => exact leave_ledger located held lawful _
  | unregistered located =>
    exact Quiet.move
      ⟨rfl, rfl, by simp [located, Goroutine.hand, Goroutine.inHand], rfl, rfl, by simp⟩
  | loopDone located held =>
    exact Quiet.move ⟨by simp, rfl, by simp [located, Goroutine.hand, Goroutine.inHand],
      tally_same held (loopDone_same _).1, tally_same held (loopDone_same _).2, by simp⟩
  | send located sent =>
    obtain ⟨length, _, sessions, _⟩ := send_frame sent
    obtain ⟨closed, entered, quiet⟩ := send_quiet sent
    exact Quiet.move
      ⟨length, by rw [sessions], by simp [located, caller_idle, spawned_idle, Goroutine.hand,
      Goroutine.inHand], closed, entered, quiet⟩
  | closeCancel located =>
    exact Quiet.move
      ⟨rfl, rfl, by simp [located, Goroutine.hand, Goroutine.inHand], rfl, rfl, by simp⟩
  | closeReset active located perm => exact reset_ledger located perm
  | closeNext located held => exact closeNext_ledger located held
  | closeWait located =>
    exact Quiet.move
      ⟨rfl, rfl, by simp [located, Goroutine.hand, Goroutine.inHand], rfl, rfl, by simp⟩
  | writer held moved =>
    exact (put_quiet held (writer_same moved) _ _ (deferredWriter_idle _ _)).move
  | reader held moved =>
    exact (put_quiet held (reader_same moved) _ _ (deferredReader_idle _ _)).move
  | controlSend held running sent reached =>
    obtain ⟨length, _, sessions, running, _⟩ := send_frame sent
    obtain ⟨closed, entered, quiet⟩ := send_quiet sent
    refine Quiet.move
      ⟨by simpa using length, by simp [sessions], by simp [running, spawned_idle], ?_, ?_, quiet⟩
    · exact (tally_same reached (by rfl)).trans closed
    · exact (tally_same reached (by rfl)).trans entered

/-- In every run, whatever the callbacks and DIDs, the ledgers are lawful. -/
theorem runs_lawful (run : Runs client world events st) (index : Nat) :
    (ledger index events st).Lawful := by
  apply run.invariant (P := fun events st => (ledger index events st).Lawful)
  · constructor <;> simp [ledger, State.initial, tally]
  · intro events st more next lawful step
    exact (step_ledger step.2 lawful).lawful lawful

end GotaDaemon.Ipc
