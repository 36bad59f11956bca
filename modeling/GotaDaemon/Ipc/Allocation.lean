import GotaDaemon.Ipc.Goroutines

/-! DIDs. Every reference to a session that the manager holds, in its map and
in the calls and goroutines in flight, was made under the DID of that session,
and RegisterSession hands out the numbers 1, 2, 3 and so on modulo 2^32. -/
namespace GotaDaemon.Ipc
open Go Transition

variable {W K L : Type} {client : Client W K L} {world : W} {st next : State W K}
  {events : List (Event K L)} {index : Nat} {did : DID} {sess : SessionState K}

def State.Owns (st : State W K) (index : Nat) (did : DID) : Prop :=
  ∃ sess, st.heap[index]? = some sess ∧ sess.did = did

section References
variable (owns : Nat → DID → Prop)

def Send.Addressed : Send → Prop
  | .lookup _ _ => True
  | .enqueue did session _ | .drop did session => owns session did

def Goroutine.Addressed : Goroutine → Prop
  | .unregister origin (.enter did) => ∀ session, origin.session = some session → owns session did
  | .unregister _ (.once did session _) | .unregister _ (.writeMu did session _)
  | .unregister _ (.closeConn did session _) | .unregister _ (.callback did session _ _)
  | .unregister _ (.leave did session _) => owns session did
  | .unregister _ (.finish _) | .close _ => True
  | .send point => point.Addressed owns

/-- The SendToLocal of a running control callback. -/
def ReadLoop.Addressed : ReadLoop K → Prop
  | .sending point _ => point.Addressed owns
  | _ => True

end References

structure Addressed (st : State W K) : Prop where
  entries : ∀ {did index}, st.sessions.lookup did = some index → st.Owns index did
  running : ∀ goroutine ∈ st.running, goroutine.Addressed st.Owns
  readers : ∀ sess ∈ st.heap, sess.reader.Addressed st.Owns

section Mono
variable {owns more : Nat → DID → Prop} (keep : ∀ {index did}, owns index did → more index did)
include keep

theorem Send.Addressed.mono {point : Send} (held : point.Addressed owns) :
    point.Addressed more := by
  cases point with
  | lookup => trivial
  | enqueue | drop => exact keep held

theorem Goroutine.Addressed.mono {goroutine : Goroutine} (held : goroutine.Addressed owns) :
    goroutine.Addressed more := by
  cases goroutine with
  | unregister origin point =>
    cases point with
    | enter => exact fun session is => keep (held session is)
    | finish => trivial
    | _ => exact keep held
  | send point => exact Send.Addressed.mono keep held
  | close => trivial

theorem ReadLoop.Addressed.mono {reader : ReadLoop K} (held : reader.Addressed owns) :
    reader.Addressed more := by
  cases reader with
  | sending => exact Send.Addressed.mono keep held
  | _ => trivial

end Mono

theorem step_owns (step : Step client st events next) (owns : st.Owns index did) :
    next.Owns index did := by
  obtain ⟨sess, found, rfl⟩ := owns
  obtain ⟨later, present, path⟩ := step_evolves step found
  exact ⟨later, present, session_run_did path⟩

section Send
variable {point : Send} {result : SendNext}

/-- SendToLocal goes on with the session it found under its DID. -/
def SendNext.Addressed (owns : Nat → DID → Prop) : SendNext → Prop
  | .running point => point.Addressed owns
  | .returned _ => True
  | .dropped did session => owns session did

theorem send_addressed (step : SendStep st point events next result) (addressed : Addressed st)
    (held : point.Addressed st.Owns) : result.Addressed st.Owns := by
  cases step with
  | found found => exact addressed.entries found
  | missing | accepted | closed => trivial
  | blocked | panicked | drop => exact held

theorem reader_addressed {owns : Nat → DID → Prop} {resume : Except SendError Unit → K}
    (held : result.Addressed owns) : (result.reader resume).Addressed owns := by
  cases result with
  | running => exact held
  | _ => trivial

end Send

theorem step_entries (step : Step client st events next) (addressed : Addressed st)
    (found : next.sessions.lookup did = some index) : next.Owns index did := by
  have kept : st.sessions.lookup did = some index → next.Owns index did := fun before =>
    step_owns step (addressed.entries before)
  cases step with
  | register =>
    simp only [State.registerSession] at found
    by_cases same : did = st.nextDID + 1
    · subst same
      rw [AList.lookup_insert, Option.some.injEq] at found
      subst found
      exact ⟨.new K (st.nextDID + 1) {}, by simp [State.registerSession], rfl⟩
    · rw [AList.lookup_insert_ne same] at found
      exact kept found
  | take => exact kept (Map.lookup_of_erase found)
  | closeReset => simp at found
  | send _ sent | controlSend _ _ sent _ =>
    obtain ⟨_, _, sessions, _⟩ := send_frame sent
    simp only [State.spawn_sessions, State.put_sessions, sessions] at found
    exact kept found
  | _ => exact kept found

theorem Addressed.calls (addressed : Addressed st) :
    ∀ point ∈ st.calls, point.Addressed st.Owns := by
  intro point member
  rcases List.mem_append.mp member with running | reading
  · obtain ⟨goroutine, held, same⟩ := List.mem_filterMap.mp running
    cases goroutine with
    | send =>
      cases same
      exact addressed.running _ held
    | _ => simp [Goroutine.call] at same
  · obtain ⟨sess, held, same⟩ := List.mem_filterMap.mp reading
    have reader := addressed.readers sess held
    cases at_ : sess.reader with
    | sending =>
      simp only [at_, ReadLoop.call, Option.some.injEq] at same reader
      subst same
      exact reader
    | _ => simp [at_, ReadLoop.call] at same

theorem Unregister.Next.addressed {owns : Nat → DID → Prop} {origin : Origin}
    {before point : Unregister} (next : before.Next point)
    (held : (Goroutine.unregister origin before).Addressed owns) :
    (Goroutine.unregister origin point).Addressed owns := by
  cases next with
  | skip | leave => trivial
  | _ => exact held

theorem step_running (step : Step client st events next) (addressed : Addressed st) :
    ∀ goroutine ∈ next.running, goroutine.Addressed st.Owns := by
  intro goroutine member
  rcases step_arises step goroutine member with old | arises
  · exact addressed.running goroutine old
  · cases arises with
    | unregister => simp [Goroutine.Addressed, Origin.session]
    | send | close | missing => trivial
    | deferred held =>
      rintro session ⟨⟩
      exact ⟨_, held, rfl⟩
    | dropped call =>
      rintro session ⟨⟩
      exact addressed.calls _ call
    | found _ found => exact addressed.entries found
    | blocked running => exact addressed.calls _ (calls_running running)
    | taken _ found => exact addressed.entries found
    | advanced running next => exact next.addressed (addressed.running _ running)

theorem readers_set {owns : Nat → DID → Prop} {heap : List (SessionState K)} {new : SessionState K}
    (old : ∀ sess ∈ heap, sess.reader.Addressed owns) (addressed : new.reader.Addressed owns) :
    ∀ sess ∈ heap.set index new, sess.reader.Addressed owns := by
  intro sess member
  rcases List.mem_or_eq_of_mem_set member with before | rfl
  · exact old sess before
  · exact addressed

theorem readers_keep {owns : Nat → DID → Prop} {heap : List (SessionState K)}
    {record new : SessionState K} (old : ∀ sess ∈ heap, sess.reader.Addressed owns)
    (held : heap[index]? = some record) (same : new.reader = record.reader) :
    ∀ sess ∈ heap.set index new, sess.reader.Addressed owns :=
  readers_set old (same ▸ old record (List.mem_of_getElem? held))

theorem loopDone_addressed {owns : Nat → DID → Prop} (which : Loop)
    (held : sess.reader.Addressed owns) :
    (sess.loopDone which).reader.Addressed owns := by
  cases which with
  | read => trivial
  | write => exact held

theorem send_readers {point : Send} {result : SendNext} {owns : Nat → DID → Prop}
    (step : SendStep st point events next result)
    (old : ∀ sess ∈ st.heap, sess.reader.Addressed owns) :
    ∀ sess ∈ next.heap, sess.reader.Addressed owns := by
  cases step with
  | accepted held offered | blocked held offered =>
    exact readers_keep old held (offer_reader offered)
  | _ => exact old

theorem step_readers (step : Step client st events next) (addressed : Addressed st) :
    ∀ sess ∈ next.heap, sess.reader.Addressed st.Owns := by
  have old := addressed.readers
  cases step with
  | register =>
    simp only [State.registerSession, List.forall_mem_append, List.forall_mem_singleton]
    exact ⟨old, trivial⟩
  | arrive _ held | onceEnter _ held | closeConn _ _ held | onceLeave _ held | closeNext _ held =>
    exact readers_keep old held rfl
  | closeOutbound _ held closed => exact readers_keep old held (closeOutbound_reader closed)
  | loopDone _ held =>
    exact readers_set old (loopDone_addressed _ (old _ (List.mem_of_getElem? held)))
  | send _ sent =>
    have kept := send_readers sent old
    exact kept
  | writer held moved => exact readers_keep old held (writer_reader moved)
  | reader held moved =>
    refine readers_set old ?_
    cases moved <;> trivial
  | control held running acted =>
    rename_i act
    cases act <;> exact readers_set old trivial
  | controlSend held running sent reached =>
    have outcome := send_addressed sent addressed
      (by simpa [running, ReadLoop.Addressed] using old _ (List.mem_of_getElem? held))
    exact readers_set (send_readers sent old) (reader_addressed outcome)
  | _ => exact old

theorem step_addressed (step : Step client st events next) (addressed : Addressed st) :
    Addressed next where
  entries := step_entries step addressed
  running goroutine member := (step_running step addressed goroutine member).mono (step_owns step)
  readers sess member := (step_readers step addressed sess member).mono (step_owns step)

theorem runs_addressed (run : Runs client world events st) : Addressed st := by
  apply run.invariant (P := fun _ st => Addressed st)
  · constructor <;> simp [State.initial]
  · exact fun addressed step => step_addressed step.2 addressed

/-- The DID RegisterSession returns for the session with this index. -/
def didOf (index : Nat) : DID := .ofNat (index + 1)

theorem didOf_injective {other : Nat} (bound : index + 1 < 2 ^ 32) (bound' : other + 1 < 2 ^ 32)
    (same : didOf index = didOf other) : index = other := by
  have := congrArg UInt32.toNat same
  simp only [didOf, UInt32.toNat_ofNat'] at this
  omega

theorem didOf_ne_zero (bound : index + 1 < 2 ^ 32) : didOf index ≠ 0 := by
  intro zero
  have := congrArg UInt32.toNat zero
  simp only [didOf, UInt32.toNat_ofNat', UInt32.toNat_zero] at this
  omega

structure Numbered (st : State W K) : Prop where
  counter : st.nextDID = .ofNat st.heap.length
  dids : ∀ {index sess}, st.heap[index]? = some sess → sess.did = didOf index

theorem Numbered.nextDID (numbered : Numbered st) : st.nextDID + 1 = didOf st.heap.length := by
  rw [numbered.counter, didOf]
  simp

theorem Numbered.owns (numbered : Numbered st) (owns : st.Owns index did) :
    index < st.heap.length ∧ did = didOf index := by
  obtain ⟨sess, found, rfl⟩ := owns
  exact ⟨(List.getElem?_eq_some_iff.mp found).1, numbered.dids found⟩

theorem step_numbered (step : Step client st events next) (numbered : Numbered st) :
    Numbered next := by
  have kept : ∀ {index sess}, index < st.heap.length → next.heap[index]? = some sess →
      sess.did = didOf index := by
    intro index sess bound found
    obtain ⟨before, present⟩ : ∃ before, st.heap[index]? = some before :=
      ⟨_, List.getElem?_eq_getElem bound⟩
    obtain ⟨later, arrived, path⟩ := step_evolves step present
    cases Option.some.inj (arrived.symm.trans found)
    rw [session_run_did path, numbered.dids present]
  rcases step_alloc step with ⟨rfl, _⟩ | ⟨length, counter, _⟩
  · refine ⟨?_, fun {index sess} found => ?_⟩
    · simp only [State.registerSession, numbered.nextDID, didOf, List.length_append,
        List.length_singleton]
    · have bound := (List.getElem?_eq_some_iff.mp found).1
      simp only [State.registerSession, List.length_append, List.length_singleton] at bound
      by_cases old : index < st.heap.length
      · exact kept old found
      · obtain rfl : index = st.heap.length := by omega
        simp only [State.registerSession, List.getElem?_concat_length, Option.some.injEq] at found
        rw [← found, ← numbered.nextDID]
        rfl
  · refine ⟨by rw [length, counter, numbered.counter], fun found => ?_⟩
    exact kept (length ▸ (List.getElem?_eq_some_iff.mp found).1) found

theorem runs_numbered (run : Runs client world events st) : Numbered st := by
  apply run.invariant (P := fun _ st => Numbered st)
  · constructor <;> simp [State.initial]
  · exact fun numbered step => step_numbered step.2 numbered

def registrations (events : List (Event K L)) : Nat := events.countP Event.isRegistration

theorem runs_registrations (run : Runs client world events st) :
    registrations events = st.heap.length := by
  apply run.invariant (P := fun events st => registrations events = st.heap.length)
  · rfl
  · intro events st more next counted step
    simp only [registrations, List.countP_append] at counted ⊢
    rcases step_alloc step.2 with ⟨rfl, rfl⟩ | ⟨length, _, silent⟩
    · simp [State.registerSession, Event.isRegistration, counted]
    · rw [length, counted, List.countP_eq_zero.mpr (by simpa using silent), Nat.add_zero]

/-- The DIDs in a trace: RegisterSession returns none that is 0 or still in the
map, and the teardown of a session removes no other one. -/
structure UniqueDids (events : List (Event K L)) : Prop where
  registered : ∀ {index did overwritten}, .registered index did overwritten ∈ events →
    did ≠ 0 ∧ overwritten = none
  removed : ∀ {index did owner}, .removed index did (some owner) ∈ events → index = owner

theorem UniqueDids.append {more : List (Event K L)} (first : UniqueDids events)
    (second : UniqueDids more) :
    UniqueDids (events ++ more) where
  registered member := (List.mem_append.mp member).elim first.registered second.registered
  removed member := (List.mem_append.mp member).elim first.removed second.removed

theorem step_removed {teardownOf : Option Nat} (step : Step client st events next)
    (member : .removed index did teardownOf ∈ events) : st.sessions.lookup did = some index ∧
      ∃ origin, .unregister origin (.enter did) ∈ st.running ∧ origin.session = teardownOf := by
  cases step with
  | take located found =>
    simp only [List.mem_singleton, Event.removed.injEq] at member
    obtain ⟨rfl, rfl, rfl⟩ := member
    exact ⟨found, _, by simp [located], rfl⟩
  | send _ sent | controlSend _ _ sent _ => cases sent <;> simp at member
  | closeOutbound => split at member <;> simp at member
  | _ => simp at member

theorem step_unique (step : Step client st events next) (addressed : Addressed st)
    (numbered : Numbered st) (few : next.heap.length < 2 ^ 32) : UniqueDids events where
  registered := by
    intro index did overwritten member
    rcases step_alloc step with ⟨rfl, rfl⟩ | ⟨_, _, silent⟩
    · simp only [State.registerSession, List.length_append, List.length_singleton] at few
      simp only [List.mem_singleton, Event.registered.injEq, numbered.nextDID] at member
      obtain ⟨_, rfl, rfl⟩ := member
      refine ⟨didOf_ne_zero few, Option.eq_none_iff_forall_ne_some.mpr fun other found => ?_⟩
      obtain ⟨bound, same⟩ := numbered.owns (addressed.entries found)
      have := didOf_injective few (by omega) (numbered.nextDID.symm.trans same)
      omega
    · simpa [Event.isRegistration] using silent _ member
  removed := by
    intro index did owner member
    obtain ⟨found, origin, running, session⟩ := step_removed step member
    obtain ⟨bound, rfl⟩ := numbered.owns (addressed.entries found)
    obtain ⟨bound', same⟩ := numbered.owns (addressed.running _ running owner session)
    have length := step_grows step
    exact didOf_injective (by omega) (by omega) same

theorem runs_unique (run : Runs client world events st) (few : st.heap.length < 2 ^ 32) :
    UniqueDids events := by
  suffices st.heap.length < 2 ^ 32 → UniqueDids events from this few
  apply run.invariant_reached (P := fun events st => st.heap.length < 2 ^ 32 → UniqueDids events)
  · exact fun _ => ⟨by simp, by simp⟩
  · intro events st more next run ih step few
    have before := ih (Nat.lt_of_le_of_lt (step_grows step.2) few)
    exact before.append (step_unique step.2 (runs_addressed run) (runs_numbered run) few)

/-- Registration number `index + 1` returns the DID `index + 1` modulo 2^32. -/
theorem runs_registered (run : Runs client world events st) :
    ∀ index < st.heap.length, ∃ overwritten,
      .registered index (didOf index) overwritten ∈ events := by
  apply run.invariant_reached (P := fun events st => ∀ index < st.heap.length, ∃ overwritten,
    .registered index (didOf index) overwritten ∈ events)
  · simp [State.initial]
  · intro events st more next run ih step index bound
    by_cases old : index < st.heap.length
    · obtain ⟨overwritten, member⟩ := ih index old
      exact ⟨overwritten, List.mem_append_left _ member⟩
    · rcases step_alloc step.2 with ⟨rfl, rfl⟩ | ⟨length, _, _⟩
      · simp only [State.registerSession, List.length_append, List.length_singleton] at bound
        obtain rfl : index = st.heap.length := by omega
        exact ⟨st.sessions.lookup (st.nextDID + 1),
          List.mem_append_right _ (by simp [(runs_numbered run).nextDID])⟩
      · omega

/-- The 32-bit counter is what decides: DIDs stay unique exactly as long as
fewer than 2^32 sessions have been registered. -/
theorem unique_dids_iff (run : Runs client world events st) :
    UniqueDids events ↔ registrations events < 2 ^ 32 := by
  rw [runs_registrations run]
  refine ⟨fun unique => ?_, runs_unique run⟩
  by_contra many
  obtain ⟨overwritten, member⟩ := runs_registered run (2 ^ 32 - 1) (by omega)
  exact (unique.registered member).1 (by decide)

section Visits

/-- A step after which the loops of no more than two sessions are running. -/
def Sparse (st : State Unit Unit) (events : List (Event Unit Unit)) (next : State Unit Unit) :
    Prop :=
  Move idle st events next ∧ next.wg ≤ 4

/-- The manager while the session of one more client comes and goes, its record the last. -/
def State.visited (st : State Unit Unit) (sess : SessionState Unit) (sessions : Map DID Nat)
    (running : List Goroutine) (wg : Nat) : State Unit Unit :=
  { st with nextDID := st.nextDID + 1, heap := st.heap ++ [sess], sessions, running, wg }

variable {st : State Unit Unit} {sess record : SessionState Unit} {sessions : Map DID Nat}
  {running : List Goroutine} {wg count : Nat}

theorem visited_last : (st.visited sess sessions running wg).heap[st.heap.length]? = some sess := by
  simp [State.visited]

theorem visited_put : (st.visited sess sessions running wg).put st.heap.length record =
    st.visited record sessions running wg := by
  simp [State.visited, State.put]

theorem visit_reader {moves : List SessionEvent}
    (moved : ReaderStep st.cancelled st.onControl sess moves record) :
    Step idle (st.visited sess sessions running wg) (moves.map (.session st.heap.length))
      (st.visited record sessions (running ++ deferredReader st.heap.length record) wg) := by
  have step : Step idle (st.visited sess sessions running wg) _ _ := .reader visited_last moved
  rw [visited_put] at step
  exact step

theorem visit_writer {moves : List SessionEvent}
    (moved : WriterStep st.cancelled sess moves record) :
    Step idle (st.visited sess sessions running wg) (moves.map (.session st.heap.length))
      (st.visited record sessions (running ++ deferredWriter st.heap.length record) wg) := by
  have step : Step idle (st.visited sess sessions running wg) _ _ := .writer visited_last moved
  rw [visited_put] at step
  exact step

/-- The UnregisterSession of a loop goes on, with the session's record in its hands. -/
theorem visit_next {which : Loop} {before after : Unregister} {events : List (Event Unit Unit)}
    (step : Step idle
      (st.visited sess sessions [.unregister (.loop st.heap.length which) before] wg) events
      { (st.visited sess sessions [.unregister (.loop st.heap.length which) before] wg).put
          st.heap.length record with
        running := [.unregister (.loop st.heap.length which) after] }) :
    Step idle (st.visited sess sessions [.unregister (.loop st.heap.length which) before] wg) events
      (st.visited record sessions [.unregister (.loop st.heap.length which) after] wg) := by
  rw [visited_put] at step
  exact step

theorem visit_done {which : Loop} {result : Except UnregisterError Unit} :
    Step idle
      (st.visited sess sessions [.unregister (.loop st.heap.length which) (.finish result)] wg) []
      (st.visited (sess.loopDone which) sessions [] (wg - 1)) := by
  have step : Step idle (st.visited sess sessions
      [.unregister (.loop st.heap.length which) (.finish result)] wg) [] _ :=
    .loopDone (show _ = [] ++ _ :: [] from rfl) visited_last
  rw [visited_put] at step
  exact step

theorem visit_take {origin : Origin} (onClose : st.onClose = false)
    (found : sessions.lookup did = some index) :
    Step idle (st.visited sess sessions [.unregister origin (.enter did)] wg)
      [.removed index did origin.session]
      (st.visited sess (sessions.erase did) [.unregister origin (.once did index false)] wg) := by
  rw [← onClose]
  exact .take (show _ = [] ++ _ :: [] from rfl) found

/-- The first session is registered and idle. Of the `count` ones after it nothing is left but
their records. -/
structure Alone (count : Nat) (st : State Unit Unit) : Prop where
  first : st.sessions.lookup 1 = some 0
  others : ∀ did ≠ 1, st.sessions.lookup did = none
  nextDID : st.nextDID = .ofNat (count + 1)
  heap : st.heap.length = count + 1
  wg : st.wg = 2
  running : st.running = []
  cancelled : st.cancelled = false
  onClose : st.onClose = false
  alive : st.panicked = none

theorem Alone.register (alone : Alone count st) :
    Sparse st
      [.registered st.heap.length (st.nextDID + 1) (st.sessions.lookup (st.nextDID + 1))]
      (st.visited (.new Unit (st.nextDID + 1) {})
        (st.sessions.insert (st.nextDID + 1) st.heap.length) [] 4) := by
  have step : Step idle st _ _ := .register
  rw [State.registerSession, alone.wg, alone.running] at step
  exact ⟨⟨alone.alive, step⟩, Nat.le_refl 4⟩

/-- A client connects and disconnects: its readLoop fails and unregisters the session, then
its writeLoop finds the queue closed. -/
theorem Alone.comesAndGoes (alone : Alone count st) :
    ∃ events record, Run Sparse st events (st.visited record
      ((st.sessions.insert (st.nextDID + 1) st.heap.length).erase (st.nextDID + 1)) [] 2) := by
  have alive := alone.alive
  have only (goroutine : Goroutine) : [goroutine] = [] ++ goroutine :: [] := rfl
  have both : 4 ≤ 4 := Nat.le_refl 4
  have one : 3 ≤ 4 := by decide
  have run := Run.single alone.register
  have run := run.next ⟨⟨alive, visit_reader (.proceed rfl alone.cancelled)⟩, both⟩
  have run := run.next ⟨⟨alive, visit_reader (.headerFailed rfl)⟩, both⟩
  have run := run.next ⟨⟨alive, visit_take alone.onClose (AList.lookup_insert _)⟩, both⟩
  have run := run.next ⟨⟨alive, visit_next (.onceEnter (only _) visited_last rfl)⟩, both⟩
  have run := run.next ⟨⟨alive, visit_next (.closeOutbound (only _) visited_last rfl)⟩, both⟩
  have run := run.next ⟨⟨alive, visit_next (.closeConn none (only _) visited_last)⟩, both⟩
  have run := run.next ⟨⟨alive, .skipOnClose (only _)⟩, both⟩
  have run := run.next ⟨⟨alive, visit_next (.onceLeave (only _) visited_last)⟩, both⟩
  have run := run.next ⟨⟨alive, visit_done⟩, one⟩
  have run := run.next ⟨⟨alive, visit_writer (.drained rfl rfl)⟩, one⟩
  have run := run.next ⟨⟨alive, .takeMissing (only _) (AList.lookup_erase _ _)⟩, one⟩
  have run := run.next ⟨⟨alive, visit_done⟩, (by decide : 2 ≤ 4)⟩
  exact ⟨_, _, run⟩

theorem Alone.again (alone : Alone count st) (bound : count + 1 < 2 ^ 32)
    (erased : sessions = (st.sessions.insert (st.nextDID + 1) st.heap.length).erase
      (st.nextDID + 1)) : Alone (count + 1) (st.visited sess sessions [] 2) := by
  have own : st.nextDID + 1 = didOf (count + 1) := by
    rw [alone.nextDID, didOf]
    simp
  have other : (1 : DID) ≠ st.nextDID + 1 := by
    intro same
    have := congrArg UInt32.toNat (same.trans own)
    simp only [didOf, UInt32.toNat_ofNat', UInt32.toNat_one] at this
    omega
  rw [Map.erase_insert_self] at erased
  refine ⟨?_, fun did apart => ?_, own, ?_, rfl, rfl, alone.cancelled, alone.onClose,
    alone.alive⟩
  · rw [State.visited, erased, AList.lookup_erase_ne other, alone.first]
  · rw [State.visited, erased]
    by_cases same : did = st.nextDID + 1
    · rw [same, AList.lookup_erase]
    · rw [AList.lookup_erase_ne same, alone.others did apart]
  · simp [State.visited, alone.heap]

theorem alone_runs (count : Nat) (bound : count < 2 ^ 32) :
    ∃ events st, Run Sparse (.initial Unit Unit ()) events st ∧ Alone count st := by
  induction count with
  | zero =>
    refine ⟨_, _, .single ⟨⟨rfl, .register⟩, by decide⟩, rfl, fun did other => ?_, rfl, rfl, rfl,
      rfl, rfl, rfl, rfl⟩
    exact AList.lookup_insert_ne other
  | succ count ih =>
    obtain ⟨_, st, run, alone⟩ := ih (by omega)
    obtain ⟨_, _, more⟩ := alone.comesAndGoes
    exact ⟨_, _, run.trans more, alone.again bound rfl⟩

theorem sparse_runs {events : List (Event Unit Unit)}
    (run : Run Sparse (.initial Unit Unit ()) events st) : Runs idle () events st :=
  run.mono And.left

/-- One session stays registered while 2^32 more come, of which one gets DID 0 and the last
one takes the first one's place in the map, although no more than two are registered at any
time. -/
theorem dids_wrap : ∃ events st, Run Sparse (.initial Unit Unit ()) events st ∧
    (∃ index overwritten, Event.registered index 0 overwritten ∈ events) ∧
    Event.registered (2 ^ 32) 1 (some 0) ∈ events := by
  obtain ⟨count, total⟩ : ∃ count, count + 1 = 2 ^ 32 := ⟨2 ^ 32 - 1, by decide⟩
  have zero : didOf count = 0 := by rw [didOf, total]; decide
  obtain ⟨events, st, run, alone⟩ := alone_runs count (by omega)
  have wrapped : st.nextDID + 1 = 1 := by rw [alone.nextDID, total]; decide
  have placed : count < st.heap.length := by rw [alone.heap]; omega
  obtain ⟨overwritten, member⟩ := runs_registered (sparse_runs run) count placed
  refine ⟨_, _, run.next alone.register, ⟨count, overwritten, ?_⟩, ?_⟩
  · exact List.mem_append_left _ (zero ▸ member)
  · rw [wrapped, alone.heap, alone.first, total]
    simp

/-- Two more clients have come and gone. -/
theorem unique_dids_iff_registered : ∃ events st, Runs idle () events st ∧
    registrations events = 3 ∧ (∀ did ≠ 1, st.sessions.lookup did = none) ∧
    UniqueDids events := by
  obtain ⟨events, st, run, alone⟩ := alone_runs 2 (by decide)
  have counted : registrations events = 3 := (runs_registrations (sparse_runs run)).trans alone.heap
  refine ⟨events, st, sparse_runs run, counted, alone.others, ?_⟩
  exact (unique_dids_iff (sparse_runs run)).mpr (by rw [counted]; decide)

end Visits

end GotaDaemon.Ipc
