import GotaDaemon.Network.Registry

/-! Where the bytes on a packet channel come from. A packet in the hands of a
goroutine or in a channel is followed back to the subscription it is for, the
read that brought it and the snapshot that offered it to that subscription. -/
namespace GotaDaemon.Network
open Go Transition List
variable {W : Type}

/-- A packet on its way to the channel of a subscription. -/
inductive Token (W : Type) where
  | read (packet : Datagram)
  | offered (offer : Offer W)
  | accepted (offer : Offer W)

/-- The packets a goroutine holds. -/
def Goroutine.tokens : Goroutine W → List (Token W)
  | .readLoop _ _ buf (.copy source n) => [.read (buf.copy source n)]
  | .readLoop _ _ _ (.snapshot packet) => [.read packet]
  | .readLoop _ _ _ (.offer packet subs) =>
    subs.map fun entry => .offered ⟨entry.1, entry.2, packet⟩
  | .callback offer => [.offered offer]
  | .deliver offer => [.accepted offer]
  | _ => []

def State.tokens (st : State W) : List (Token W) := st.running.flatMap Goroutine.tokens

def State.buffer (st : State W) (ch : Nat) : List Bytes :=
  (st.channels[ch]?.map fun channel => channel.chan.buffer).getD []

/-- How a token enters the listener: with an event of the step. -/
def Token.Enters (events : List (Event W)) : Token W → Prop
  | .read packet => ∃ source payload, packet = .arriving source payload ∧
      .received source payload ∈ events
  | .offered offer => ∃ subs, (offer.id, offer.sub) ∈ subs ∧ .snapshot offer.packet subs ∈ events
  | .accepted offer => .accepted offer ∈ events

variable {st next : State W} {events : List (Event W)} {world : W} {token : Token W}

section Moves
variable {goroutine moved : Goroutine W} {before after : List (Goroutine W)}

theorem mem_tokens_split (running : st.running = before ++ goroutine :: after) :
    token ∈ st.tokens ↔
      token ∈ goroutine.tokens ∨ token ∈ (before ++ after).flatMap Goroutine.tokens := by
  simp only [State.tokens, running, flatMap_append, flatMap_cons, mem_append]
  tauto

theorem mem_tokens_moved (running : st.running = before ++ goroutine :: after)
    (replaced : next.running = before ++ moved :: after) (held : token ∈ next.tokens) :
    token ∈ st.tokens ∨ token ∈ moved.tokens := by
  rw [mem_tokens_split replaced] at held
  rw [mem_tokens_split running]
  tauto

theorem mem_tokens_ended (running : st.running = before ++ goroutine :: after)
    (ended : next.running = before ++ after) (held : token ∈ next.tokens) : token ∈ st.tokens := by
  rw [State.tokens, ended] at held
  exact (mem_tokens_split running).mpr (.inr held)

end Moves

theorem step_tokens (step : Step st events next) (held : token ∈ next.tokens) :
    token ∈ st.tokens ∨ token.Enters events := by
  cases step with
  | start ctx port started =>
    rw [startListener_ok started] at held
    simp only [State.tokens, flatMap_append, mem_append] at held
    exact .inl (held.resolve_right (by simp [Goroutine.tokens]))
  | stop =>
    simp only [State.tokens, State.stopListener, flatMap_append, mem_append] at held
    exact .inl (held.resolve_right (by simp [Goroutine.tokens]))
  | addWaitGroup running | spawn running | enter running | readFails running | retry running
  | offered running =>
    exact .inl ((mem_tokens_moved running rfl held).resolve_right (by simp [Goroutine.tokens]))
  | receive source payload running _ read =>
    refine (mem_tokens_moved running rfl held).imp_right fun new => ?_
    simp only [Goroutine.tokens, mem_singleton] at new
    rw [new, ReadBuffer.copy_readFrom source read]
    exact ⟨source, payload, rfl, mem_singleton_self _⟩
  | copy running =>
    -- the copy is what the buffer holds already
    rcases mem_tokens_moved running rfl held with old | new
    · exact .inl old
    · exact .inl ((mem_tokens_split running).mpr (.inl new))
  | snapshot subs running =>
    refine (mem_tokens_moved running rfl held).imp_right fun new => ?_
    simp only [Goroutine.tokens, mem_map] at new
    obtain ⟨entry, member, rfl⟩ := new
    exact ⟨subs, member, by simp⟩
  | offer running =>
    simp only [State.tokens, ← append_assoc, flatMap_append, flatMap_cons, mem_append] at held
    rw [mem_tokens_split running]
    simp only [Goroutine.tokens, map_cons, mem_cons, flatMap_append, mem_append,
      flatMap_nil] at held ⊢
    tauto
  | accept running agreed =>
    refine (mem_tokens_moved running rfl held).imp_right fun new => ?_
    simp only [Goroutine.tokens, mem_singleton] at new
    simp [new, Token.Enters]
  | stopped running | leave running | abandon running | reject running | deliver running
  | handOver running
  | drop running => exact .inl (mem_tokens_ended running rfl held)
  | _ => exact .inl held

/-- The bytes a step puts on a channel are those of a packet it delivers. -/
def Puts (events : List (Event W)) (ch : Nat) (data : Bytes) : Prop :=
  ∃ offer, .delivered offer ∈ events ∧ offer.sub.ch = ch ∧ offer.packet.data = data

section Buffers
variable {ch other : Nat} {channel : PacketChan} {data : Bytes}

theorem mem_buffer_of_lookup (found : st.channels[ch]? = some channel) :
    data ∈ st.buffer ch ↔ data ∈ channel.chan.buffer := by
  simp [State.buffer, found]

theorem mem_buffer_setChannel (held : data ∈ (st.setChannel ch channel).buffer other) :
    data ∈ st.buffer other ∨ other = ch ∧ data ∈ channel.chan.buffer := by
  by_cases same : other = ch
  · subst same
    simp only [State.buffer, State.setChannel, getElem?_set_self'] at held
    cases found : st.channels[other]? with
    | none => simp [found] at held
    | some old => exact .inr ⟨rfl, by simpa [found] using held⟩
  · exact .inl
      (by simpa [State.buffer, State.setChannel, getElem?_set_ne (Ne.symm same)] using held)

theorem mem_buffer_of_shrunk {old : PacketChan} (found : st.channels[ch]? = some old)
    (shrunk : channel.chan.buffer ⊆ old.chan.buffer)
    (held : data ∈ (st.setChannel ch channel).buffer other) :
    data ∈ st.buffer other := by
  rcases mem_buffer_setChannel held with before | ⟨rfl, now⟩
  · exact before
  · exact (mem_buffer_of_lookup found).mpr (shrunk now)

theorem step_buffer (step : Step st events next) (held : data ∈ next.buffer other) :
    data ∈ st.buffer other ∨ Puts events other data := by
  cases step with
  | start ctx port started =>
    rw [startListener_ok started] at held
    exact .inl held
  | make capacity =>
    simp only [State.buffer, getElem?_append] at held
    split at held
    · exact .inl held
    · cases place : other - st.channels.length <;> simp [place, Chan.make] at held
  | take found received =>
    have filled := (Chan.recv_some received).1
    exact .inl (mem_buffer_of_shrunk found (by simp [filled]) held)
  | wait found =>
    refine .inl (mem_buffer_of_shrunk found ?_ held)
    exact fun _ inside => inside
  | close found closed =>
    obtain ⟨_, rfl⟩ := Chan.close_ok closed
    refine .inl (mem_buffer_of_shrunk found ?_ held)
    exact fun _ inside => inside
  | deliver running found sent =>
    rcases mem_buffer_setChannel held with before | ⟨rfl, now⟩
    · exact .inl before
    · simp only [(Chan.trySend_some sent).2.2.1, mem_append, mem_singleton] at now
      rcases now with before | rfl
      · exact .inl ((mem_buffer_of_lookup found).mpr before)
      · exact .inr ⟨_, mem_singleton_self _, rfl, rfl⟩
  | handOver running found =>
    refine .inl (mem_buffer_of_shrunk found ?_ held)
    exact fun _ inside => inside
  | _ => exact .inl held

end Buffers

/-- The callback let the packet through. -/
def Offer.Approved (offer : Offer W) : Prop :=
  ∃ world, offer.sub.callback world offer.packet.source offer.packet.data = true

/-- What the state of the listener says about an event of its next step. -/
def Event.Justified (st : State W) (events : List (Event W)) : Event W → Prop
  | .snapshot packet subs =>
    .read packet ∈ st.tokens ∧ ∀ entry ∈ subs, st.listener.subscriptions.lookup entry.1 =
      some entry.2
  | .accepted offer => .offered offer ∈ st.tokens ∧ offer.Approved
  | .delivered offer => .accepted offer ∈ st.tokens
  | .taken ch data => data ∈ st.buffer ch ∨ Puts events ch data
  | _ => True

theorem step_justified {event : Event W} (step : Step st events next) (member : event ∈ events) :
    event.Justified st events := by
  cases step with
  | snapshot subs running same =>
    obtain rfl := mem_singleton.mp member
    refine ⟨(mem_tokens_split running).mpr (.inl (by simp [Goroutine.tokens])),
      fun entry inside => ?_⟩
    exact mem_dlookup st.listener.subscriptions.nodupKeys (same.subset (mem_map_of_mem inside))
  | accept running agreed =>
    obtain rfl := mem_singleton.mp member
    exact ⟨(mem_tokens_split running).mpr (.inl (by simp [Goroutine.tokens])), _, agreed⟩
  | take found received =>
    obtain rfl := mem_singleton.mp member
    exact .inl ((mem_buffer_of_lookup found).mpr (by simp [(Chan.recv_some received).1]))
  | deliver running =>
    obtain rfl := mem_singleton.mp member
    exact (mem_tokens_split running).mpr (.inl (by simp [Goroutine.tokens]))
  | handOver running =>
    rcases mem_cons.mp member with rfl | member
    · exact (mem_tokens_split running).mpr (.inl (by simp [Goroutine.tokens]))
    · obtain rfl := mem_singleton.mp member
      exact .inr ⟨_, mem_cons_self, rfl, rfl⟩
  | _ =>
    first
    | exact absurd member not_mem_nil
    | obtain rfl := mem_singleton.mp member
      trivial

/-- The packet has come in, and was offered to the subscription by a snapshot
that was taken after the subscription had been made. -/
def Offered (events : List (Event W)) (offer : Offer W) : Prop :=
  ∃ subs source payload, (offer.id, offer.sub) ∈ subs ∧ offer.packet = .arriving source payload ∧
    [.subscribed offer.id offer.sub, .snapshot offer.packet subs] <+ events ∧
    [.received source payload, .snapshot offer.packet subs] <+ events

theorem Offered.mono {past : List (Event W)} {offer : Offer W} (known : Offered past offer)
    (events : List (Event W)) :
    Offered (past ++ events) offer := by
  obtain ⟨subs, source, payload, member, same, made, brought⟩ := known
  exact ⟨subs, source, payload, member, same, made.trans (sublist_append_left ..),
    brought.trans (sublist_append_left ..)⟩

/-- The bytes are those of a packet that was offered to a subscription with
this channel and let through by its callback. -/
def Arrived (events : List (Event W)) (ch : Nat) (data : Bytes) : Prop :=
  ∃ offer, offer.sub.ch = ch ∧ offer.packet.data = data ∧ offer.Approved ∧ Offered events offer

theorem Arrived.mono {past : List (Event W)} {ch : Nat} {data : Bytes}
    (known : Arrived past ch data) (events : List (Event W)) :
    Arrived (past ++ events) ch data := by
  obtain ⟨offer, channel, bytes, approved, offered⟩ := known
  exact ⟨offer, channel, bytes, approved, offered.mono events⟩

structure Traced (events : List (Event W)) (st : State W) : Prop where
  entries : ∀ subID sub, st.listener.subscriptions.lookup subID = some sub →
    .subscribed subID sub ∈ events
  reads : ∀ packet, .read packet ∈ st.tokens →
    ∃ source payload, packet = .arriving source payload ∧ .received source payload ∈ events
  offers : ∀ offer, .offered offer ∈ st.tokens → Offered events offer
  accepts : ∀ offer, .accepted offer ∈ st.tokens → offer.Approved ∧ Offered events offer
  buffers : ∀ ch data, data ∈ st.buffer ch → Arrived events ch data
  taken : ∀ ch data, .taken ch data ∈ events → Arrived events ch data

section Step
variable {past : List (Event W)}

theorem TableMove.entries (moved : TableMove st events next) (before : Traced past st)
    {subID : UInt32} {sub : Subscription W}
    (found : next.listener.subscriptions.lookup subID = some sub) :
    .subscribed subID sub ∈ past ++ events := by
  cases moved with
  | quiet silent table => exact mem_append_left _ (before.entries subID sub (table ▸ found))
  | subscribed table =>
    rw [table] at found
    by_cases same : subID = st.listener.nextSubID + 1
    · subst same
      rw [AList.lookup_insert, Option.some.injEq] at found
      simp [found]
    · rw [AList.lookup_insert_ne same] at found
      exact mem_append_left _ (before.entries subID sub found)
  | unsubscribed table =>
    rw [table] at found
    exact mem_append_left _ (before.entries subID sub (Map.lookup_of_erase found))

/-- A snapshot joins the history of the subscription and that of the packet. -/
theorem Traced.offered (before : Traced past st) (step : Step st events next) {packet : Datagram}
    {subs : List (UInt32 × Subscription W)} (taken : .snapshot packet subs ∈ events)
    {subID : UInt32} {sub : Subscription W} (member : (subID, sub) ∈ subs) :
    Offered (past ++ events) ⟨subID, sub, packet⟩ := by
  obtain ⟨held, table⟩ := step_justified step taken
  have made := before.entries subID sub (table _ member)
  obtain ⟨source, payload, same, brought⟩ := before.reads packet held
  exact ⟨subs, source, payload, member, same,
    (singleton_sublist.mpr made).append (singleton_sublist.mpr taken),
    (singleton_sublist.mpr brought).append (singleton_sublist.mpr taken)⟩

theorem Traced.delivered (before : Traced past st) (step : Step st events next) {ch : Nat}
    {data : Bytes} (put : Puts events ch data) : Arrived (past ++ events) ch data := by
  obtain ⟨offer, delivered, channel, bytes⟩ := put
  obtain ⟨approved, offered⟩ := before.accepts offer (step_justified step delivered)
  exact ⟨offer, channel, bytes, approved, offered.mono events⟩

theorem Traced.step (before : Traced past st) (step : Step st events next) :
    Traced (past ++ events) next where
  entries _ _ found := (step_table step).entries before found
  reads packet held := by
    rcases step_tokens step held with old | new
    · obtain ⟨source, payload, same, brought⟩ := before.reads packet old
      exact ⟨source, payload, same, mem_append_left _ brought⟩
    · obtain ⟨source, payload, same, brought⟩ := new
      exact ⟨source, payload, same, mem_append_right _ brought⟩
  offers offer held := by
    rcases step_tokens step held with old | ⟨subs, member, taken⟩
    · exact (before.offers offer old).mono events
    · exact before.offered step taken member
  accepts offer held := by
    rcases step_tokens step held with old | new
    · exact (before.accepts offer old).imp_right (·.mono events)
    · obtain ⟨offered, approved⟩ := step_justified step new
      exact ⟨approved, (before.offers offer offered).mono events⟩
  buffers ch data held := by
    rcases step_buffer step held with old | put
    · exact (before.buffers ch data old).mono events
    · exact before.delivered step put
  taken ch data member := by
    rcases mem_append.mp member with old | new
    · exact (before.taken ch data old).mono events
    · rcases step_justified step new with held | put
      · exact (before.buffers ch data held).mono events
      · exact before.delivered step put

end Step

theorem runs_traced (run : Runs world events st) : Traced events st := by
  apply Run.invariant _ _ run
  · exact ⟨fun _ _ found =>
      by simp [State.initial, UDPListener.new] at found, fun _ held => absurd held not_mem_nil,
      fun _ held => absurd held not_mem_nil, fun _ held => absurd held not_mem_nil,
      fun _ _ held => absurd held not_mem_nil, fun _ _ member => absurd member not_mem_nil⟩
  · exact fun before move => before.step move.2

end GotaDaemon.Network
