import GotaDaemon.Network.Delivery

/-! Fan-out of packets to subscriptions. Every step conserves the packets on their
way, and every snapshot is worked off entry by entry: each packet read is offered
once to each subscription of its snapshot, and what a callback accepts is put on
the channel unless the channel cannot take it. -/
namespace GotaDaemon.Network
open Go Transition List
variable {W α : Type}

namespace Event

/-- The packets that set out with an event. -/
def brings : Event W → List (Token W)
  | .received source payload => [.read (.arriving source payload)]
  | .snapshot packet subs => subs.map fun entry => .offered ⟨entry.1, entry.2, packet⟩
  | .accepted offer => [.accepted offer]
  | _ => []

/-- The packets whose way ends with it. -/
def ends : Event W → List (Token W)
  | .snapshot packet _ => [.read packet]
  | .accepted offer | .rejected offer => [.offered offer]
  | .delivered offer | .dropped offer => [.accepted offer]
  | _ => []

def snapshots : Event W → List (Datagram × List (UInt32 × Subscription W))
  | .snapshot packet subs => [(packet, subs)]
  | _ => []

def verdicts : Event W → List (Offer W)
  | .accepted offer | .rejected offer => [offer]
  | _ => []

def takes (ch : Nat) : Event W → List Bytes
  | .taken from_ data => if from_ = ch then [data] else []
  | _ => []

def puts (ch : Nat) : Event W → List Bytes
  | .delivered offer => if offer.sub.ch = ch then [offer.packet.data] else []
  | _ => []

end Event

/-- A packet that some of its subscribers have not been offered yet. -/
def remainder (packet : Datagram) :
    List (UInt32 × Subscription W) → List (Datagram × List (UInt32 × Subscription W))
  | [] => []
  | entry :: rest => [(packet, entry :: rest)]

def Goroutine.offering : Goroutine W → List (Datagram × List (UInt32 × Subscription W))
  | .readLoop _ _ _ (.offer packet subs) => remainder packet subs
  | _ => []

/-- The packet in the hands of a callback. -/
def Goroutine.deciding : Goroutine W → List (Offer W)
  | .callback offer => [offer]
  | _ => []

/-- What all goroutines hold together. -/
def State.held (f : Goroutine W → List α) (st : State W) : List α := st.running.flatMap f

/-- How a step works on the snapshots. -/
inductive FanMove (st next : State W) : List (Event W) → Prop where
  | snapshot : remainder packet subs ++ st.held Goroutine.offering ~ next.held Goroutine.offering →
      st.held Goroutine.deciding ~ next.held Goroutine.deciding →
      FanMove st next [.snapshot packet subs]
  | offer : st.held Goroutine.offering ~ (packet, entry :: rest) :: others →
      next.held Goroutine.offering ~ remainder packet rest ++ others →
      next.held Goroutine.deciding ~ ⟨entry.1, entry.2, packet⟩ :: st.held Goroutine.deciding →
        FanMove st next []
  | other : events.flatMap Event.snapshots = [] →
      st.held Goroutine.offering ~ next.held Goroutine.offering →
      st.held Goroutine.deciding ~ next.held Goroutine.deciding ++ events.flatMap Event.verdicts →
      FanMove st next events

/-- The history of a snapshot: the entries offered so far and those to come. -/
structure Fan (W : Type) where
  packet : Datagram
  offered : List (UInt32 × Subscription W)
  rest : List (UInt32 × Subscription W)

namespace Fan

def snapshot (fan : Fan W) : Datagram × List (UInt32 × Subscription W) :=
  (fan.packet, fan.offered ++ fan.rest)

def remainder (fan : Fan W) : List (Datagram × List (UInt32 × Subscription W)) :=
  Network.remainder fan.packet fan.rest

def offers (fan : Fan W) : List (Offer W) :=
  fan.offered.map fun entry => ⟨entry.1, entry.2, fan.packet⟩

end Fan

/-- Every snapshot has its history. What is left of it is with the readLoop that
took it, and a callback was started once for each entry offered. -/
structure Fanned (events : List (Event W)) (st : State W) (fans : List (Fan W)) : Prop where
  snapshots : events.flatMap Event.snapshots = fans.map Fan.snapshot
  remainder : fans.flatMap Fan.remainder ~ st.held Goroutine.offering
  offers : fans.flatMap Fan.offers ~ st.held Goroutine.deciding ++ events.flatMap Event.verdicts

variable {st next : State W} {events past : List (Event W)} {world : W}

section Balance
variable {goroutine cont started : Goroutine W} {before after : List (Goroutine W)}
  {inn out : List α}

theorem flatMap_middle {β : Type} (f : β → List α) (before after : List β) (moving : β) :
    (before ++ moving :: after).flatMap f ~ f moving ++ (before ++ after).flatMap f := by
  rw [← flatMap_cons]
  exact perm_middle.flatMap_right f

theorem held_split (f : Goroutine W → List α) (at_ : st.running = before ++ goroutine :: after) :
    st.held f ~ f goroutine ++ (before ++ after).flatMap f := by
  rw [State.held, at_]
  exact flatMap_middle f before after goroutine

theorem held_moved (f : Goroutine W → List α) {rest : List (Goroutine W)}
    (moved : next.running ~ rest ++ (before ++ after)) :
    next.held f ~ rest.flatMap f ++ (before ++ after).flatMap f := by
  rw [← flatMap_append]
  exact moved.flatMap_right f

/-- One goroutine moves on, and maybe starts another one or ends. -/
theorem balance (f : Goroutine W → List α) (rest : List (Goroutine W))
    (at_ : st.running = before ++ goroutine :: after)
    (moved : next.running ~ rest ++ (before ++ after))
    (flow : f goroutine ++ inn ~ rest.flatMap f ++ out) :
    st.held f ++ inn ~ next.held f ++ out := by
  calc st.held f ++ inn
    _ ~ (f goroutine ++ (before ++ after).flatMap f) ++ inn := (held_split f at_).append_right _
    _ ~ (f goroutine ++ inn) ++ (before ++ after).flatMap f := by
      rw [append_assoc, append_assoc]
      exact perm_append_comm.append_left _
    _ ~ (rest.flatMap f ++ out) ++ (before ++ after).flatMap f := flow.append_right _
    _ ~ (rest.flatMap f ++ (before ++ after).flatMap f) ++ out := by
      rw [append_assoc, append_assoc]
      exact perm_append_comm.append_left _
    _ ~ next.held f ++ out := (held_moved f moved).symm.append_right _

theorem passed_on (f : Goroutine W → List α) (rest : List (Goroutine W))
    (at_ : st.running = before ++ goroutine :: after)
    (moved : next.running ~ rest ++ (before ++ after))
    (flow : f goroutine ~ rest.flatMap f ++ out) :
    st.held f ~ next.held f ++ out := by
  have balanced := balance f rest at_ moved (show f goroutine ++ [] ~ _ by rwa [append_nil])
  rwa [append_nil] at balanced

theorem kept_by (f : Goroutine W → List α) (rest : List (Goroutine W))
    (at_ : st.running = before ++ goroutine :: after)
    (moved : next.running ~ rest ++ (before ++ after)) (same : f goroutine ~ rest.flatMap f) :
    st.held f ~ next.held f := by
  have passed := passed_on f rest at_ moved (show _ ~ rest.flatMap f ++ [] by rwa [append_nil])
  rwa [append_nil] at passed

theorem offer_perm :
    before ++ cont :: after ++ [started] ~ [cont, started] ++ (before ++ after) := by
  calc before ++ cont :: after ++ [started]
    _ ~ started :: (before ++ cont :: after) := perm_append_singleton ..
    _ ~ started :: cont :: (before ++ after) := perm_middle.cons _
    _ ~ cont :: started :: (before ++ after) := .swap ..

end Balance

/-- No step loses a packet or makes up one. -/
theorem step_conserves (step : Step st events next) :
    st.tokens ++ events.flatMap Event.brings ~ next.tokens ++ events.flatMap Event.ends := by
  change st.held Goroutine.tokens ++ _ ~ next.held Goroutine.tokens ++ _
  cases step with
  | start ctx port started =>
    rw [startListener_ok started]
    simp [State.held, Goroutine.tokens, Event.brings, Event.ends]
  | stop => simp [State.held, State.stopListener, Goroutine.tokens, Event.brings, Event.ends]
  | addWaitGroup at_ | spawn at_ | enter at_ | readFails at_ | retry at_ | offered at_ | copy at_ =>
    exact balance _ [_] at_ perm_middle (.refl _)
  | receive source payload at_ _ read =>
    -- the buffer now holds the packet that has come in
    refine balance _ [_] at_ perm_middle (.of_eq ?_)
    simp [Goroutine.tokens, Event.brings, Event.ends, ReadBuffer.copy_readFrom source read]
  | accept at_ => exact balance _ [_] at_ perm_middle (.swap ..)
  | snapshot subs at_ =>
    refine balance _ [_] at_ perm_middle ?_
    simp [Goroutine.tokens, Event.brings, Event.ends, (perm_append_singleton ..).symm]
  | offer at_ =>
    refine balance _ [_, _] at_ offer_perm ?_
    simp [Goroutine.tokens, (perm_append_singleton ..).symm]
  | stopped at_ | leave at_ | abandon at_ | reject at_ | deliver at_ | handOver at_ | drop at_ =>
    exact balance _ [] at_ (.refl _) (.refl _)
  | _ => exact .refl _

theorem runs_conserve (run : Runs world events st) :
    events.flatMap Event.brings ~ st.tokens ++ events.flatMap Event.ends :=
  run.conserved rfl fun move => step_conserves move.2

theorem step_fanMove (step : Step st events next) : FanMove st next events := by
  cases step with
  | start ctx port started =>
    rw [startListener_ok started]
    refine .other rfl ?_ ?_ <;> simp [State.held, Goroutine.offering, Goroutine.deciding,
      Event.verdicts]
  | stop =>
    refine .other rfl ?_ ?_ <;>
      simp [State.held, State.stopListener, Goroutine.offering, Goroutine.deciding, Event.verdicts]
  | snapshot subs at_ =>
    refine .snapshot (perm_append_comm.trans ?_) (kept_by _ [_] at_ perm_middle (.refl _))
    refine (balance _ [_] at_ perm_middle ?_).trans (.of_eq (append_nil _))
    simp [Goroutine.offering]
  | offer at_ =>
    refine .offer (held_split _ at_) ?_ ?_
    · exact (held_moved _ offer_perm).trans (by simp [Goroutine.offering])
    · refine (held_moved _ offer_perm).trans ?_
      exact (held_split Goroutine.deciding at_).symm.cons _
  | addWaitGroup at_ | spawn at_ | enter at_ | readFails at_ | retry at_ | offered at_ | copy at_
  | receive _ _ at_
  | accept at_ =>
    exact .other rfl (kept_by _ [_] at_ perm_middle (.refl _))
      (passed_on _ [_] at_ perm_middle (.refl _))
  | stopped at_ | leave at_ | abandon at_ | reject at_ | deliver at_ | handOver at_ | drop at_ =>
    exact .other rfl (kept_by _ [] at_ (.refl _) (.refl _)) (passed_on _ [] at_ (.refl _) (.refl _))
  | _ => exact .other rfl (.refl _) (.of_eq (append_nil _).symm)

theorem mem_remainder {packet : Datagram} {entry : UInt32 × Subscription W}
    {rest : List (UInt32 × Subscription W)} {fan : Fan W}
    (member : (packet, entry :: rest) ∈ fan.remainder) :
    fan.packet = packet ∧ fan.rest = entry :: rest := by
  unfold Fan.remainder at member
  cases left : fan.rest with
  | nil => simp [left, remainder] at member
  | cons first others =>
    rw [left, remainder, mem_singleton] at member
    obtain ⟨rfl, same⟩ := Prod.mk.inj member
    exact ⟨rfl, same.symm⟩

/-- One more entry of a snapshot is offered. -/
theorem offer_fanned {fans : List (Fan W)} {packet : Datagram} {entry : UInt32 × Subscription W}
    {rest : List (UInt32 × Subscription W)}
    {others : List (Datagram × List (UInt32 × Subscription W))} (held : Fanned past st fans)
    (before : st.held Goroutine.offering ~ (packet, entry :: rest) :: others)
    (after : next.held Goroutine.offering ~ remainder packet rest ++ others)
    (started : next.held Goroutine.deciding ~ ⟨entry.1, entry.2,
      packet⟩ :: st.held Goroutine.deciding) :
    ∃ fans, Fanned past next fans := by
  obtain ⟨fan, member, left⟩ :=
    mem_flatMap.mp ((held.remainder.trans before).symm.subset mem_cons_self)
  obtain ⟨earlier, later, rfl⟩ := append_of_mem member
  obtain ⟨offered, rfl⟩ : ∃ offered, fan = ⟨packet, offered, entry :: rest⟩ := by
    obtain ⟨rfl, same⟩ := mem_remainder left
    exact ⟨fan.offered, by rw [← same]⟩
  have untouched : (earlier ++ later).flatMap Fan.remainder ~ others := by
    have whole :=
      (flatMap_middle Fan.remainder earlier later _).symm.trans (held.remainder.trans before)
    exact Perm.cons_inv whole
  refine ⟨earlier ++ ⟨packet, offered ++ [entry], rest⟩ :: later, ?_, ?_, ?_⟩
  · rw [held.snapshots]
    simp [Fan.snapshot]
  · exact (flatMap_middle ..).trans ((untouched.append_left _).trans after.symm)
  · have grown : Fan.offers ⟨packet, offered ++ [entry], rest⟩ ~
        ⟨entry.1, entry.2, packet⟩ :: Fan.offers ⟨packet, offered, entry :: rest⟩ := by
      simp [Fan.offers, perm_append_singleton]
    calc (earlier ++ ⟨packet, offered ++ [entry], rest⟩ :: later).flatMap Fan.offers
      _ ~ Fan.offers ⟨packet, offered ++ [entry], rest⟩ ++ (earlier ++ later).flatMap Fan.offers :=
        flatMap_middle ..
      _ ~ ⟨entry.1, entry.2, packet⟩ ::
          (Fan.offers ⟨packet, offered, entry :: rest⟩ ++ (earlier ++ later).flatMap Fan.offers) :=
            grown.append_right _
      _ ~ ⟨entry.1, entry.2, packet⟩ ::
        (st.held Goroutine.deciding ++ past.flatMap Event.verdicts) :=
        ((flatMap_middle ..).symm.trans held.offers).cons _
      _ ~ next.held Goroutine.deciding ++ past.flatMap Event.verdicts := started.symm.append_right _

theorem FanMove.fanned {fans : List (Fan W)} (moved : FanMove st next events)
    (held : Fanned past st fans) :
    ∃ fans, Fanned (past ++ events) next fans := by
  cases moved with
  | @snapshot packet subs offering deciding =>
    refine ⟨fans ++ [⟨packet, [], subs⟩], ?_, ?_, ?_⟩
    · simp [held.snapshots, Event.snapshots, Fan.snapshot]
    · rw [flatMap_append, flatMap_singleton]
      exact (held.remainder.append_right _).trans (perm_append_comm.trans offering)
    · have same := held.offers.trans (deciding.append_right _)
      simpa [Fan.offers, Event.verdicts] using same
  | offer before after started =>
    obtain ⟨fans, fanned⟩ := offer_fanned held before after started
    exact ⟨fans, by rwa [append_nil]⟩
  | other silent offering deciding =>
    refine ⟨fans, ?_, held.remainder.trans offering, ?_⟩
    · rw [flatMap_append, silent, append_nil, held.snapshots]
    · rw [flatMap_append]
      calc fans.flatMap Fan.offers
        _ ~ st.held Goroutine.deciding ++ past.flatMap Event.verdicts := held.offers
        _ ~ (next.held Goroutine.deciding ++ events.flatMap Event.verdicts) ++
          past.flatMap Event.verdicts :=
          deciding.append_right _
        _ ~ next.held Goroutine.deciding ++
          (past.flatMap Event.verdicts ++ events.flatMap Event.verdicts) := by
          rw [append_assoc]
          exact perm_append_comm.append_left _

theorem runs_fanned (run : Runs world events st) : ∃ fans, Fanned events st fans := by
  apply Run.invariant (P := fun events st => ∃ fans, Fanned events st fans) _ _ run
  · exact ⟨[], rfl, .nil, .nil⟩
  · rintro past before events next ⟨fans, held⟩ move
    exact (step_fanMove move.2).fanned held

section Channels
variable {ch other : Nat} {channel old : PacketChan}

theorem buffer_setChannel (found : st.channels[ch]? = some old) :
    (st.setChannel ch channel).buffer other =
      if other = ch then channel.chan.buffer else st.buffer other := by
  have inside := (List.getElem?_eq_some_iff.mp found).1
  by_cases same : other = ch
  · simp [State.buffer, State.setChannel, same, inside]
  · simp [State.buffer, State.setChannel, same, getElem?_set_ne (Ne.symm same)]

theorem buffer_of_lookup (found : st.channels[ch]? = some channel) :
    st.buffer ch = channel.chan.buffer := by
  simp [State.buffer, found]

/-- Receivers wait on unbuffered channels only. -/
def State.Waiting (st : State W) : Prop :=
  ∀ (ch : Nat) channel, st.channels[ch]? = some channel → 0 < channel.receivers →
  channel.chan.capacity = 0

theorem State.Waiting.set (held : st.Waiting) (found : st.channels[ch]? = some old)
    (kept : channel.chan.capacity = old.chan.capacity)
    (fewer : 0 < channel.receivers → 0 < old.receivers ∨ old.chan.capacity = 0) :
    (st.setChannel ch channel).Waiting := by
  intro other now there waiting
  by_cases same : other = ch
  · subst same
    have inside := (List.getElem?_eq_some_iff.mp found).1
    obtain rfl : channel = now := by simpa [State.setChannel, inside] using there
    rw [kept]
    exact (fewer waiting).elim (held other old found) id
  · exact held other now
      (by simpa [State.setChannel, getElem?_set_ne (Ne.symm same)] using there) waiting

theorem step_waiting (step : Step st events next) (held : st.Waiting) : next.Waiting := by
  cases step with
  | start ctx port started =>
    rw [startListener_ok started]
    exact held
  | make capacity =>
    intro ch channel there waiting
    rcases earlier_or_last there with old | ⟨_, rfl⟩
    · exact held ch channel old waiting
    · cases waiting
  | take found received => exact held.set found (Chan.recv_some received).2.2 .inl
  | wait found unbuffered => exact held.set found rfl fun _ => .inr unbuffered
  | close found closed =>
    obtain ⟨_, rfl⟩ := Chan.close_ok closed
    exact held.set found rfl fun none => absurd none (Nat.lt_irrefl 0)
  | deliver at_ found sent => exact held.set found (Chan.trySend_some sent).2.2.2 .inl
  | handOver at_ found full waiting =>
    exact held.set found rfl fun _ => .inl (waiting ▸ Nat.succ_pos _)
  | _ => exact held

/-- What leaves a channel is what was put on it, in the same order. -/
theorem step_fifo (step : Step st events next) (waiting : st.Waiting) (ch : Nat) :
    st.buffer ch ++ events.flatMap (Event.puts ch) =
      events.flatMap (Event.takes ch) ++ next.buffer ch := by
  cases step with
  | start ctx port started =>
    rw [startListener_ok started]
    exact append_nil _
  | make capacity =>
    have same : State.buffer { st with channels := st.channels ++ [⟨.make capacity, 0⟩] } ch =
        st.buffer ch := by
      rcases Nat.lt_trichotomy ch st.channels.length with inside | rfl | beyond
      · simp [State.buffer, getElem?_append_left inside]
      · simp [State.buffer, Chan.make]
      · simp [State.buffer, beyond, beyond.le]
    rw [same]
    exact append_nil _
  | take found received =>
    rw [buffer_setChannel found]
    split
    next same =>
      subst same
      simp [buffer_of_lookup found, (Chan.recv_some received).1, Event.puts, Event.takes]
    next other => simp [Event.puts, Event.takes, Ne.symm other]
  | wait found =>
    rw [buffer_setChannel found]
    split
    next same => simp [same, buffer_of_lookup found, Event.puts, Event.takes]
    · simp [Event.puts, Event.takes]
  | close found closed =>
    obtain ⟨_, rfl⟩ := Chan.close_ok closed
    rw [buffer_setChannel found]
    split
    next same => simp [same, buffer_of_lookup found, Event.puts, Event.takes]
    · simp [Event.puts, Event.takes]
  | deliver at_ found sent =>
    change _ = _ ++ (st.setChannel _ _).buffer ch
    rw [buffer_setChannel found]
    split
    next same =>
      simp [same, buffer_of_lookup found, (Chan.trySend_some sent).2.2.1, Event.puts, Event.takes]
    next other => simp [Event.puts, Event.takes, Ne.symm other]
  | handOver at_ found full receivers =>
    change _ = _ ++ (st.setChannel _ _).buffer ch
    rw [buffer_setChannel found]
    split
    next same =>
      have unbuffered := waiting _ _ found (by omega)
      have empty : ∀ chan : Chan Bytes, chan.capacity = 0 → chan.buffer = [] := by
        intro chan none
        exact eq_nil_of_length_eq_zero (Nat.le_zero.mp (none ▸ chan.bounded))
      simp [same, buffer_of_lookup found, empty _ unbuffered, Event.puts, Event.takes]
    next other => simp [Event.puts, Event.takes, Ne.symm other]
  | _ => exact append_nil _

theorem runs_fifo (run : Runs world events st) (ch : Nat) :
    events.flatMap (Event.takes ch) ++ st.buffer ch = events.flatMap (Event.puts ch) := by
  have both : st.Waiting ∧ events.flatMap (Event.takes ch) ++ st.buffer ch =
      events.flatMap (Event.puts ch) := by
    apply Run.invariant (P := fun (events : List (Event W)) st =>
      st.Waiting ∧ events.flatMap (Event.takes ch) ++ st.buffer ch =
        events.flatMap (Event.puts ch)) _ _ run
    · refine ⟨fun _ _ there => ?_, rfl⟩
      simp [State.initial] at there
    · rintro past before events next ⟨waiting, fifo⟩ move
      refine ⟨step_waiting move.2 waiting, ?_⟩
      rw [flatMap_append, flatMap_append, ← fifo, append_assoc, append_assoc,
        step_fifo move.2 waiting]
  exact both.2

theorem step_dropped {offer : Offer W} (step : Step st events next)
    (dropped : .dropped offer ∈ events) :
    ∃ channel, st.channels[offer.sub.ch]? = some channel ∧
    channel.chan.capacity ≤ channel.chan.buffer.length ∧
      channel.receivers = 0 := by
  cases step with
  | drop at_ found full alone =>
    obtain rfl := Event.dropped.inj (mem_singleton.mp dropped)
    exact ⟨_, found, (Chan.trySend_none full).2, alone⟩
  | _ => simp at dropped

/-- A callback decides in the state of the code around the listener at that time. -/
theorem step_verdict {offer : Offer W} (step : Step st events next) :
    (.accepted offer ∈ events →
      offer.sub.callback st.world offer.packet.source offer.packet.data = true) ∧
    (.rejected offer ∈ events →
      offer.sub.callback st.world offer.packet.source offer.packet.data = false) := by
  cases step with
  | accept _ agreed =>
    refine ⟨fun member => ?_, by simp⟩
    obtain rfl := Event.accepted.inj (mem_singleton.mp member)
    exact agreed
  | reject _ refused =>
    refine ⟨by simp, fun member => ?_⟩
    obtain rfl := Event.rejected.inj (mem_singleton.mp member)
    exact refused
  | _ => simp

end Channels

section Snapshots
variable {packet : Datagram} {subs : List (UInt32 × Subscription W)}

theorem step_snapshot {before after : List (Event W)} (step : Step st events next)
    (taken : events = before ++ .snapshot packet subs :: after) :
    before = [] ∧ (subs.map Prod.fst).Nodup ∧
      ∀ subID sub, (subID, sub) ∈ subs ↔ st.listener.subscriptions.lookup subID = some sub := by
  have member : .snapshot packet subs ∈ events := taken ▸ mem_append_right _ mem_cons_self
  cases step with
  | snapshot listed at_ same =>
    obtain ⟨rfl, rfl⟩ := Event.snapshot.inj (mem_singleton.mp member)
    refine ⟨?_, ?_, fun subID sub => ?_⟩
    · cases before with
      | nil => rfl
      | cons => simp at taken
    · have keys := (same.map Sigma.fst).nodup_iff.mpr st.listener.subscriptions.keys_nodup
      simpa [Function.comp_def] using keys
    · have entry : (subID, sub) ∈ subs ↔
          (⟨subID, sub⟩ : (_ : UInt32) × Subscription W) ∈ st.listener.subscriptions.entries := by
        rw [← same.mem_iff]
        simp
      rw [entry, AList.lookup, ← Option.mem_def,
        mem_dlookup_iff st.listener.subscriptions.nodupKeys]
  | _ => simp at member

/-- Every snapshot lists, once each, the subscriptions that have been made and
not given up before it. -/
def FaithfulSnapshots (events : List (Event W)) : Prop :=
  ∀ before packet subs after, events = before ++ .snapshot packet subs :: after →
    (subs.map Prod.fst).Nodup ∧
    (∀ subID sub, (subID, sub) ∈ subs ↔ (before.foldl Event.register ∅).lookup subID = some sub) ∧
    ∀ subID, .unsubscribed subID true ∈ before → subID ∉ subs.map Prod.fst

theorem runs_snapshots (run : Runs world events st) :
    subscriptions events < 2 ^ 32 → FaithfulSnapshots events := by
  apply Run.invariant_reached (P := fun (events : List (Event W)) _ =>
    subscriptions events < 2 ^ 32 → FaithfulSnapshots events) _ _ run
  · intro _ before packet subs after same
    simp at same
  · intro past middle events next earlier held move few before packet subs after same
    have fewer : subscriptions past < 2 ^ 32 := by
      rw [subscriptions_append] at few
      omega
    rcases split_append same with ⟨rest, old⟩ | ⟨rest, rfl, new⟩
    · exact held fewer before packet subs rest old
    · obtain ⟨rfl, nodup, table⟩ := step_snapshot move.2 new
      rw [append_nil, ← runs_register earlier]
      refine ⟨nodup, table, fun subID gone listed => ?_⟩
      obtain ⟨⟨_, sub⟩, member, rfl⟩ := mem_map.mp listed
      have present := (table _ sub).mp member
      rw [(runs_unsubscribed earlier fewer gone).1] at present
      contradiction

end Snapshots

theorem runs_accepted (run : Runs world events st) (offer : Offer W) :
    .accepted offer ∈ events → offer.Approved ∧ Offered events offer := by
  apply Run.invariant_reached (P := fun (events : List (Event W)) _ =>
    Event.accepted offer ∈ events → offer.Approved ∧ Offered events offer) _ _ run
  · exact fun member => absurd member not_mem_nil
  · intro past before events next earlier held move member
    rcases mem_append.mp member with old | new
    · exact (held old).imp_right (·.mono events)
    · obtain ⟨pending, approved⟩ := step_justified move.2 new
      exact ⟨approved, ((runs_traced earlier).offers offer pending).mono events⟩

/-- What is delivered has been accepted. -/
theorem runs_delivered (run : Runs world events st) {offer : Offer W}
    (delivered : .delivered offer ∈ events) :
    .accepted offer ∈ events := by
  have ended : .accepted offer ∈ events.flatMap Event.ends :=
    mem_flatMap.mpr ⟨_, delivered, mem_cons_self⟩
  have brought := (runs_conserve run).symm.subset (mem_append_right _ ended)
  obtain ⟨event, member, origin⟩ := mem_flatMap.mp brought
  cases event with
  | accepted other =>
    obtain rfl := Token.accepted.inj (mem_singleton.mp origin)
    exact member
  | _ => simp [Event.brings] at origin

/-- What is on a channel or has been taken from it is, byte for byte, the front of
a packet that has come in. -/
theorem runs_bytes (run : Runs world events st) {ch : Nat} {data : Bytes}
    (present : data ∈ st.buffer ch ∨ .taken ch data ∈ events) :
    ∃ offer source payload, offer.sub.ch = ch ∧ offer.packet = .arriving source payload ∧
      data = payload.take 65535 ∧ .received source payload ∈ events ∧
      .accepted offer ∈ events ∧ .delivered offer ∈ events := by
  have put : data ∈ events.flatMap (Event.puts ch) := by
    rw [← runs_fifo run]
    rcases present with inside | taken
    · exact mem_append_right _ inside
    · refine mem_append_left _ (mem_flatMap.mpr ⟨_, taken, ?_⟩)
      simp [Event.takes]
  obtain ⟨event, delivered, bytes⟩ := mem_flatMap.mp put
  cases event with
  | delivered offer =>
    simp only [Event.puts] at bytes
    split at bytes
    next same =>
      have accepted := runs_delivered run delivered
      obtain ⟨_, _, source, payload, _, arriving, _, brought⟩ := runs_accepted run offer accepted
      refine ⟨offer, source, payload, same, arriving, ?_, brought.subset mem_cons_self, accepted,
        delivered⟩
      rw [mem_singleton.mp bytes, arriving]
      rfl
    · simp at bytes
  | _ => simp [Event.puts] at bytes

/-- What fan-out promises of a run and the state it has reached. -/
structure FanOut (events : List (Event W)) (st : State W) : Prop where
  /-- Packets read, offered and accepted have come to their end or are on their way, once each. -/
  conserved : events.flatMap Event.brings ~ st.tokens ++ events.flatMap Event.ends
  snapshots : FaithfulSnapshots events
  offered : ∃ fans, Fanned events st fans
  accepted : ∀ offer, .accepted offer ∈ events → offer.Approved ∧ Offered events offer
  delivered : ∀ offer, .delivered offer ∈ events → .accepted offer ∈ events
  bytes : ∀ ch data, data ∈ st.buffer ch ∨ .taken ch data ∈ events →
    ∃ offer source payload, offer.sub.ch = ch ∧ offer.packet = .arriving source payload ∧
      data = payload.take 65535 ∧ .received source payload ∈ events ∧
      .accepted offer ∈ events ∧ .delivered offer ∈ events
  verdicts : ∀ more next offer, Move st more next →
    (.accepted offer ∈ more →
      offer.sub.callback st.world offer.packet.source offer.packet.data = true) ∧
    (.rejected offer ∈ more →
      offer.sub.callback st.world offer.packet.source offer.packet.data = false)
  channels : ∀ ch, events.flatMap (Event.takes ch) ++ st.buffer ch = events.flatMap (Event.puts ch)
  dropped : ∀ more next offer, Move st more next → .dropped offer ∈ more → ∃ channel,
    st.channels[offer.sub.ch]? = some channel ∧ channel.chan.capacity ≤ channel.chan.buffer.length ∧
      channel.receivers = 0

/-- Each packet that comes in is offered once to each subscription of its snapshot
and to no other, a channel carries the bytes that came in and that callbacks
accepted, and only a channel that cannot take a packet loses it. -/
theorem runs_fan_out (world : W) (events : List (Event W)) (st : State W)
    (run : Runs world events st) (few : subscriptions events < 2 ^ 32) : FanOut events st where
  conserved := runs_conserve run
  snapshots := runs_snapshots run few
  offered := runs_fanned run
  accepted := runs_accepted run
  delivered _ member := runs_delivered run member
  bytes _ _ present := runs_bytes run present
  verdicts _ _ _ move := step_verdict move.2
  channels := runs_fifo run
  dropped _ _ _ move member := step_dropped move.2 member

theorem runs_fan_out_one_subscriber :
    ∃ events st, Runs () events st ∧ subscriptions events < 2 ^ 32 ∧ st.buffer 0 = [[7]] ∧
    FanOut events st := by
  have run : Runs () _ _ := .refl
  have run := run.next ⟨rfl, .make 1⟩
  have run := run.next ⟨rfl, .subscribe
    (rfl : UDPListener.subscribeToPacketReceived _ (some fun _ _ _ => true) (some 0) = .ok (_, _))
      Nat.zero_lt_one⟩
  have run := run.next ⟨rfl, .start 0 4000 rfl⟩
  have run := run.next ⟨rfl, .addWaitGroup (rfl : _ = [] ++ _ :: [])⟩
  have run := run.next ⟨rfl, .spawn (rfl : _ = [] ++ _ :: [])⟩
  have run := run.next ⟨rfl, .enter (rfl : _ = [] ++ _ :: []) rfl rfl⟩
  have run :=
    run.next ⟨rfl, .receive ⟨[10, 0, 0, 1], 4001, ""⟩ [7] (rfl : _ = [] ++ _ :: []) rfl rfl⟩
  have run := run.next ⟨rfl, .copy (rfl : _ = [] ++ _ :: [])⟩
  have run := run.next ⟨rfl, .snapshot [(1, _)] (rfl : _ = [] ++ _ :: []) (.refl _)⟩
  have run := run.next ⟨rfl, .offer (rfl : _ = [] ++ _ :: [])⟩
  have run := run.next ⟨rfl, .accept (rfl : _ = [_] ++ _ :: []) rfl⟩
  have run := run.next ⟨rfl, .deliver (rfl : _ = [_] ++ _ :: []) rfl rfl⟩
  have few : 1 < 2 ^ 32 := by decide
  have copied := ReadBuffer.copy_readFrom ⟨[10, 0, 0, 1], 4001, ""⟩
    (rfl : ReadBuffer.make.readFrom [7] = _)
  exact ⟨_, _, run, few, congrArg (fun packet : Datagram => [packet.data]) copied,
    runs_fan_out () _ _ run few⟩

end GotaDaemon.Network
