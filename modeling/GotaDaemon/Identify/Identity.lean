import GotaDaemon.Core.Transition
import GotaDaemon.Go.Crypto
import GotaDaemon.Go.Slice
import GotaDaemon.Stun.Discoverer

/-! The Identity of identify/identifier.go with the memory it shares with its
callers. They may keep the addresses they pass in or are given and change them at
any time; the keys are shared with them. -/
namespace GotaDaemon.Identify
open Go Transition

/-- A net.UDPAddr in memory. -/
structure AddrCell where
  ip : Slice
  port : Nat
  zone : String

structure Memory where
  arrays : List (List UInt8)
  addrs : List AddrCell

namespace Memory

def value (mem : Memory) (addr : AddrCell) : UDPAddr where
  ip := addr.ip.read mem.arrays
  port := addr.port
  zone := addr.zone

/-- What a *net.UDPAddr points to. -/
def deref (mem : Memory) (addr : Option Nat) : Option UDPAddr :=
  (addr.bind fun ptr => mem.addrs[ptr]?).map mem.value

/-- A new net.UDPAddr with a copy of the IP. -/
def copyAddr (mem : Memory) (addr : AddrCell) : Nat × Memory :=
  let (ip, arrays) := Slice.alloc mem.arrays (addr.ip.read mem.arrays)
  (mem.addrs.length, ⟨arrays, mem.addrs ++ [⟨ip, addr.port, addr.zone⟩]⟩)

end Memory

/-- `K` are the private keys of crypto/ecdh, which nobody can change. -/
structure Identity (K : Type) where
  publicAddr : Option Nat
  x25519Priv : K
  x25519Pub : Ecdh.PublicKey
  ed25519Priv : Slice
  ed25519Pub : Slice

variable {K : Type}

def newIdentity (publicKey : K → Ecdh.PublicKey) (mem : Memory) (x25519Priv : Option K)
    (ed25519Priv : Slice) : Outcome String (Identity K × Memory) := do
  let x25519Priv ← .orElse x25519Priv "x25519 private key cannot be nil"
  let key := ed25519Priv.read mem.arrays
  .require (0 < key.length) "ed25519 private key cannot be empty"
  let pub ← Ed25519.publicKey key
  let (ed25519Pub, arrays) := Slice.alloc mem.arrays pub
  return ({ publicAddr := none, x25519Priv, x25519Pub := publicKey x25519Priv, ed25519Priv
            ed25519Pub }, { mem with arrays })

namespace Identity

def getPublicAddr (id : Identity K) (mem : Memory) : Option Nat × Memory :=
  match id.publicAddr.bind fun ptr => mem.addrs[ptr]? with
  | none => (none, mem)
  | some addr =>
    let (copy, mem) := mem.copyAddr addr
    (some copy, mem)

def setPublicAddr (id : Identity K) (mem : Memory) (addr : Option Nat) : Identity K × Memory :=
  match addr.bind fun ptr => mem.addrs[ptr]? with
  | none => ({ id with publicAddr := none }, mem)
  | some addr =>
    let (copy, mem) := mem.copyAddr addr
    ({ id with publicAddr := some copy }, mem)

def getX25519Keys (id : Identity K) : K × Ecdh.PublicKey := (id.x25519Priv, id.x25519Pub)

def getEd25519Keys (id : Identity K) : Slice × Slice := (id.ed25519Priv, id.ed25519Pub)

end Identity

/-- `arrays` and `addrs` are what the callers can get hold of, and write to. -/
structure State (K : Type) where
  identity : Identity K
  memory : Memory
  arrays : List Nat
  addrs : List Nat

/-- After NewIdentity everything so far is in the callers' hands, the keys included. -/
def State.initial (identity : Identity K) (memory : Memory) : State K where
  identity := identity
  memory := memory
  arrays := List.range memory.arrays.length
  addrs := List.range memory.addrs.length

inductive Event where
  | set (addr : Option UDPAddr)
  | got (addr : Option UDPAddr)
  | keys (ed25519Priv ed25519Pub : List UInt8)
  | wrote (array index : Nat) (value : UInt8)

/-- One call of the identity, or something its callers do with what they have. -/
inductive Step : State K → List Event → State K → Prop where
  | setPublicAddr (addr) : (∀ ptr ∈ addr, ptr ∈ st.addrs) →
      st.identity.setPublicAddr st.memory addr = (identity, memory) →
      Step st [.set (st.memory.deref addr)] { st with identity := identity, memory := memory }
  | getPublicAddr : st.identity.getPublicAddr st.memory = (addr, memory) →
      Step st [.got (memory.deref addr)]
        { st with memory := memory
                  addrs := addr.toList ++ st.addrs
                  arrays := ((addr.bind fun ptr => memory.addrs[ptr]?).map (·.ip.array)).toList ++
                    st.arrays }
  | getEd25519Keys : st.identity.getEd25519Keys = (priv, pub) →
      Step st [.keys (priv.read st.memory.arrays) (pub.read st.memory.arrays)] st
  | makeArray (contents) : Step st []
      { st with memory.arrays := st.memory.arrays ++ [contents]
                arrays := st.memory.arrays.length :: st.arrays }
  | write (index value) : array ∈ st.arrays → Step st [.wrote array index value]
      { st with memory.arrays := Slice.write st.memory.arrays array index value }
  -- a nil IP lies in no array
  | makeAddr (addr : AddrCell) : addr.ip.length = 0 ∨ addr.ip.array ∈ st.arrays → Step st []
      { st with memory.addrs := st.memory.addrs ++ [addr]
                addrs := st.memory.addrs.length :: st.addrs }
  | writeAddr (addr : AddrCell) : ptr ∈ st.addrs →
      addr.ip.length = 0 ∨ addr.ip.array ∈ st.arrays →
      Step st [] { st with memory.addrs := st.memory.addrs.set ptr addr }

/-- The identity as the discoverer's model has it, after these events. -/
def published (events : List Event) : Stun.Identity :=
  events.foldl (fun id event => match event with
    | .set addr => id.setPublicAddr addr
    | _ => id) ⟨none⟩

/-- Every GetPublicAddr has returned what was published before. -/
def Faithful (events : List Event) : Prop :=
  ∀ before addr after, events = before ++ .got addr :: after →
    addr = (published before).publicAddr

/-- What an event does to the elements of a slice. -/
def Event.patch (slice : Slice) (contents : List UInt8) : Event → List UInt8
  | .wrote array index value => slice.patch array index value contents
  | _ => contents

/-- The elements of a slice after these events. -/
def patched (slice : Slice) (events : List Event) (contents : List UInt8) : List UInt8 :=
  events.foldl (Event.patch slice) contents

/-- Nobody has written within the slice. -/
def Unwritten (slice : Slice) (events : List Event) : Prop :=
  ∀ array index value, .wrote array index value ∈ events → ¬ slice.Covers array index

/-- The address lies where no caller can reach it. -/
structure Hidden (st : State K) (ptr : Nat) (addr : AddrCell) : Prop where
  found : st.memory.addrs[ptr]? = some addr
  unheld : ptr ∉ st.addrs
  known : addr.ip.array < st.memory.arrays.length
  apart : addr.ip.array ∉ st.arrays

structure Isolated (st : State K) (value : Option UDPAddr) : Prop where
  arrays : ∀ array ∈ st.arrays, array < st.memory.arrays.length
  addrs : ∀ ptr ∈ st.addrs, ptr < st.memory.addrs.length
  hidden : ∀ ptr ∈ st.identity.publicAddr, ∃ addr, Hidden st ptr addr
  stored : st.memory.deref st.identity.publicAddr = value

variable {st next : State K} {events : List Event}

@[simp] theorem published_append (first second : List Event) :
    published (first ++ second) = second.foldl (fun id event => match event with
      | .set addr => id.setPublicAddr addr
      | _ => id) (published first) := List.foldl_append

section Copies
variable {mem : Memory} {addr : AddrCell}

theorem deref_some {ptr : Nat} (found : mem.addrs[ptr]? = some addr) :
    mem.deref (some ptr) = some (mem.value addr) := by
  simp [Memory.deref, found]

/-- A copy has the same value, in an array of its own. -/
theorem copyAddr_copies (mem : Memory) (addr : AddrCell) : ∃ copy contents,
    mem.copyAddr addr =
      (mem.addrs.length, ⟨mem.arrays ++ [contents], mem.addrs ++ [copy]⟩) ∧
    copy.ip.array = mem.arrays.length ∧ (mem.copyAddr addr).2.value copy = mem.value addr :=
  ⟨_, _, rfl, rfl,
    congrArg (fun ip => (⟨ip, addr.port, addr.zone⟩ : UDPAddr)) (Slice.read_alloc mem.arrays _)⟩

end Copies

section Isolation
variable {value : Option UDPAddr}

/-- Where nothing hidden is touched, the address stays what it was. -/
theorem Isolated.kept (held : Isolated st value) (identity : next.identity = st.identity)
    (arrays : ∀ array ∈ next.arrays, array < next.memory.arrays.length)
    (addrs : ∀ ptr ∈ next.addrs, ptr < next.memory.addrs.length)
    (hidden : ∀ ptr addr, Hidden st ptr addr → Hidden next ptr addr ∧
      addr.ip.read next.memory.arrays = addr.ip.read st.memory.arrays) : Isolated next value := by
  refine ⟨arrays, addrs, fun ptr here => ?_, ?_⟩
  · obtain ⟨addr, placed⟩ := held.hidden ptr (identity ▸ here)
    exact ⟨addr, (hidden ptr addr placed).1⟩
  · rw [← held.stored, identity]
    cases current : st.identity.publicAddr with
    | none => rfl
    | some ptr =>
      obtain ⟨addr, placed⟩ := held.hidden ptr current
      obtain ⟨still, read⟩ := hidden ptr addr placed
      rw [deref_some placed.found, deref_some still.found, Memory.value, Memory.value, read]

/-- Memory has grown, and callers have got hold of nothing but what is new. -/
theorem Isolated.grown {contents : List (List UInt8)} {cells : List AddrCell}
    (held : Isolated st value) (identity : next.identity = st.identity)
    (memory : next.memory = ⟨st.memory.arrays ++ contents, st.memory.addrs ++ cells⟩)
    (arrays : ∀ array ∈ next.arrays, array ∈ st.arrays ∨
      st.memory.arrays.length ≤ array ∧ array < st.memory.arrays.length + contents.length)
    (addrs : ∀ ptr ∈ next.addrs, ptr ∈ st.addrs ∨
      st.memory.addrs.length ≤ ptr ∧ ptr < st.memory.addrs.length + cells.length) :
    Isolated next value := by
  refine held.kept identity (fun array here => ?_) (fun ptr here => ?_) fun ptr addr placed => ?_
  · rw [memory, List.length_append]
    rcases arrays array here with old | new
    · have bound := held.arrays array old
      omega
    · exact new.2
  · rw [memory, List.length_append]
    rcases addrs ptr here with old | new
    · have bound := held.addrs ptr old
      omega
    · exact new.2
  · have inside := (List.getElem?_eq_some_iff.mp placed.found).1
    have known := placed.known
    rw [memory]
    refine ⟨⟨?_, fun here => ?_, ?_, fun here => ?_⟩, Slice.read_append known _⟩
    · rw [memory, List.getElem?_append_left inside, placed.found]
    · rcases addrs ptr here with old | new
      · exact placed.unheld old
      · omega
    · rw [memory, List.length_append]
      omega
    · rcases arrays addr.ip.array here with old | new
      · exact placed.apart old
      · omega

theorem Isolated.getPublicAddr {addr : Option Nat} {memory : Memory} (held : Isolated st value)
    (got : st.identity.getPublicAddr st.memory = (addr, memory)) :
    memory.deref addr = value ∧ Isolated { st with
      memory := memory
      addrs := addr.toList ++ st.addrs
      arrays := ((addr.bind fun ptr => memory.addrs[ptr]?).map (·.ip.array)).toList ++
        st.arrays } value := by
  have stored := held.stored
  unfold Identity.getPublicAddr at got
  split at got
  next none =>
    obtain ⟨rfl, rfl⟩ := Prod.mk.inj got
    rw [Memory.deref, none] at stored
    exact ⟨stored, held⟩
  next cell found =>
    rw [Memory.deref, found] at stored
    obtain ⟨copy, contents, copied, own, same⟩ := copyAddr_copies st.memory cell
    rw [copied] at got same
    obtain ⟨rfl, rfl⟩ := Prod.mk.inj got
    refine ⟨?_, held.grown rfl rfl (fun array here => ?_) fun ptr here => ?_⟩
    · rw [deref_some List.getElem?_concat_length, same]
      exact stored
    · rcases List.mem_append.mp here with new | old
      · right
        simp at new
        simp [own] at new ⊢
        omega
      · exact .inl old
    · rcases List.mem_append.mp here with new | old
      · right
        simp at new ⊢
        omega
      · exact .inl old

theorem Isolated.setPublicAddr {addr : Option Nat} {identity : Identity K} {memory : Memory}
    (held : Isolated st value)
    (set : st.identity.setPublicAddr st.memory addr = (identity, memory)) :
    Isolated { st with identity := identity, memory := memory } (st.memory.deref addr) := by
  unfold Identity.setPublicAddr at set
  split at set
  next none =>
    obtain ⟨rfl, rfl⟩ := Prod.mk.inj set
    refine ⟨held.arrays, held.addrs, nofun, ?_⟩
    rw [Memory.deref, Memory.deref, none]
    rfl
  next cell found =>
    obtain ⟨copy, contents, copied, own, same⟩ := copyAddr_copies st.memory cell
    rw [copied] at set same
    obtain ⟨rfl, rfl⟩ := Prod.mk.inj set
    have here : (st.memory.addrs ++ [copy])[st.memory.addrs.length]? = some copy :=
      List.getElem?_concat_length
    refine ⟨fun array old => ?_, fun ptr old => ?_, ?_, ?_⟩
    · have bound := held.arrays array old
      simp
      omega
    · have bound := held.addrs ptr old
      simp
      omega
    · rintro ptr ⟨⟩
      refine ⟨copy, here, fun old => ?_, ?_, fun old => ?_⟩
      · exact absurd (held.addrs _ old) (Nat.lt_irrefl _)
      · simp [own]
      · exact absurd (held.arrays _ old) (by rw [own]; exact Nat.lt_irrefl _)
    · rw [deref_some here, same, Memory.deref, found]
      rfl

theorem Isolated.step (held : Isolated st (published events).publicAddr)
    {more : List Event} (step : Step st more next) :
    Isolated next (published (events ++ more)).publicAddr := by
  rw [published_append]
  cases step with
  | setPublicAddr addr own set =>
    have stored := held.setPublicAddr set
    cases value : st.memory.deref addr with
    | none => rwa [value] at stored
    | some addr => rwa [value] at stored
  | getPublicAddr got => exact (held.getPublicAddr got).2
  | getEd25519Keys => exact held
  | makeArray contents =>
    refine held.grown rfl (congrArg (Memory.mk _) (List.append_nil _).symm) (fun array here => ?_)
      fun _ => .inl
    rcases List.mem_cons.mp here with rfl | old
    · exact .inr ⟨Nat.le_refl _, Nat.lt_succ_self _⟩
    · exact .inl old
  | write index value own =>
    refine held.kept rfl (by simpa using held.arrays) held.addrs fun ptr addr placed => ?_
    have other : _ ≠ addr.ip.array := fun same => placed.apart (same ▸ own)
    exact ⟨⟨placed.found, placed.unheld, by simpa using placed.known, placed.apart⟩,
      Slice.read_write_other other⟩
  | makeAddr addr own =>
    refine held.grown rfl (congrArg (Memory.mk · _) (List.append_nil _).symm) (fun _ => .inl)
      fun ptr here => ?_
    rcases List.mem_cons.mp here with rfl | old
    · exact .inr ⟨Nat.le_refl _, Nat.lt_succ_self _⟩
    · exact .inl old
  | writeAddr cell own =>
    refine held.kept rfl held.arrays (by simpa using held.addrs) fun ptr addr placed => ?_
    have other : _ ≠ ptr := fun same => placed.unheld (same ▸ own)
    exact ⟨⟨by simpa [List.getElem?_set_ne other] using placed.found, placed.unheld, placed.known,
      placed.apart⟩, rfl⟩

end Isolation

/-- A caller with a key and with the address of the discoverer's test. -/
def testMemory : Memory where
  arrays := [(List.range 64).map UInt8.ofNat, [203, 0, 113, 50]]
  addrs := [⟨⟨1, 0, 4⟩, 54321, ""⟩]

def testAddr : UDPAddr := { ip := [203, 0, 113, 50], port := 54321 }

def testPublicKey (_ : Unit) : Ecdh.PublicKey := ⟨.x25519, List.replicate 32 0, rfl⟩

def testIdentity : Identity Unit := ⟨none, (), testPublicKey (), ⟨0, 0, 64⟩, ⟨2, 0, 32⟩⟩

/-- The memory once NewIdentity has returned. -/
def sharedMemory : Memory :=
  { testMemory with
    arrays := testMemory.arrays ++ [(List.range 32).map fun i => UInt8.ofNat (i + 32)] }

theorem newIdentity_test :
    newIdentity testPublicKey testMemory (some ()) ⟨0, 0, 64⟩ = .ok (testIdentity, sharedMemory) :=
  rfl

section Runs
variable {publicKey : K → Ecdh.PublicKey} {x25519Priv : Option K} {ed25519Priv : Slice}
  {mem memory : Memory} {identity : Identity K}

theorem newIdentity_ok
    (made : newIdentity publicKey mem x25519Priv ed25519Priv = .ok (identity, memory)) :
    ∃ priv pub, x25519Priv = some priv ∧
      Ed25519.publicKey (ed25519Priv.read mem.arrays) = Outcome.ok (ε := String) pub ∧
      memory.arrays = mem.arrays ++ [pub] ∧ identity.publicAddr = none ∧
      identity.getX25519Keys = (priv, publicKey priv) ∧
      identity.getEd25519Keys = (ed25519Priv, (Slice.alloc mem.arrays pub).1) := by
  obtain ⟨priv, given, checked⟩ := Outcome.bind_eq_ok.mp made
  obtain ⟨_, _, rest⟩ := Outcome.bind_eq_ok.mp checked
  obtain ⟨pub, derived, same⟩ := Outcome.bind_eq_ok.mp rest
  obtain ⟨rfl, rfl⟩ := Prod.mk.inj (Outcome.ok.inj same)
  exact ⟨priv, pub, Outcome.orElse_eq_ok.mp given, derived, rfl, rfl, rfl, rfl⟩

theorem publicKey_outcome (key : List UInt8) :
    (key.length < 32 → Ed25519.publicKey key = Outcome.panic (ε := String) .sliceBoundsOutOfRange) ∧
      (32 ≤ key.length → ∃ pub, Ed25519.publicKey key = Outcome.ok (ε := String) pub) := by
  constructor
  · intro short
    rw [Ed25519.publicKey, slice, if_neg (by omega)]
    rfl
  · intro long
    rw [Ed25519.publicKey, slice, if_pos ⟨long, Nat.le_refl _⟩]
    exact ⟨_, rfl⟩

/-- NewIdentity refuses keys that are missing. Of the others it takes every Ed25519
key of 32 bytes or more, although such keys have 64, and panics on a shorter one. -/
theorem newIdentity_outcomes (publicKey : K → Ecdh.PublicKey) (mem : Memory)
    (x25519Priv : Option K) (ed25519Priv : Slice) :
    let key := ed25519Priv.read mem.arrays
    let result := newIdentity publicKey mem x25519Priv ed25519Priv
    (result = .error "x25519 private key cannot be nil" ↔ x25519Priv = none) ∧
    (result = .error "ed25519 private key cannot be empty" ↔ x25519Priv ≠ none ∧ key = []) ∧
    (result = .panic .sliceBoundsOutOfRange ↔
      x25519Priv ≠ none ∧ 0 < key.length ∧ key.length < 32) ∧
    ((∃ made, result = .ok made) ↔ x25519Priv ≠ none ∧ 32 ≤ key.length) := by
  intro key result
  cases x25519Priv with
  | none => simp [result, newIdentity, Outcome.orElse]
  | some priv =>
    rcases Nat.eq_zero_or_pos key.length with empty | given
    · have refused : result = .error "ed25519 private key cannot be empty" := by
        simp only [result, newIdentity, Outcome.orElse, Outcome.bind_ok]
        rw [Outcome.require_neg (Nat.not_lt.mpr empty.le)]
        rfl
      simp [refused, List.eq_nil_of_length_eq_zero empty]
    · have filled : key ≠ [] := List.ne_nil_of_length_pos given
      rcases Nat.lt_or_ge key.length 32 with short | long
      · have panics : result = .panic .sliceBoundsOutOfRange := by
          simp only [result, newIdentity, Outcome.orElse, Outcome.bind_ok]
          rw [Outcome.require_pos given, (publicKey_outcome key).1 short]
          rfl
        simp [panics, filled, given, short]
      · obtain ⟨pub, derived⟩ := (publicKey_outcome key).2 long
        have made : ∃ made, result = .ok made := by
          simp only [result, newIdentity, Outcome.orElse, Outcome.bind_ok]
          rw [Outcome.require_pos given, derived]
          exact ⟨_, rfl⟩
        obtain ⟨made, same⟩ := made
        simp [same, filled, long]

/-- The Ed25519 key lies in an array that NewIdentity was given. -/
theorem newIdentity_known
    (made : newIdentity publicKey mem x25519Priv ed25519Priv = .ok (identity, memory)) :
    ed25519Priv.array < mem.arrays.length := by
  have accepted := (newIdentity_outcomes publicKey mem x25519Priv ed25519Priv).2.2.2.mp ⟨_, made⟩
  have long : 32 ≤ (ed25519Priv.read mem.arrays).length := accepted.2
  exact Slice.known_of_read (by omega)

theorem runs_isolated (none : identity.publicAddr = none)
    (run : Run Step (.initial identity memory) events st) :
    Isolated st (published events).publicAddr := by
  apply Run.invariant (P := fun events st => Isolated st (published events).publicAddr) _ _ run
  · refine ⟨fun _ => List.mem_range.mp, fun _ => List.mem_range.mp, ?_, ?_⟩
    · simp [State.initial, none]
    · simp [State.initial, none, Memory.deref, published]
  · exact fun held step => held.step step

theorem step_emits {event : Event} {more : List Event} (step : Step st more next)
    (emitted : event ∈ more) : more = [event] := by
  cases step <;> simp_all

theorem runs_faithful (none : identity.publicAddr = none)
    (run : Run Step (.initial identity memory) events st) : Faithful events := by
  intro before addr after returned
  obtain ⟨now, next, reached, step, _⟩ := run.at_event step_emits returned
  cases step with
  | getPublicAddr got => exact ((runs_isolated none reached).getPublicAddr got).1

/-- Whatever callers do with the addresses they have passed in or been given,
GetPublicAddr returns what SetPublicAddr was last called with: the identity is the
register that the discoverer's model takes it for. -/
theorem publicAddr_register (publicKey : K → Ecdh.PublicKey) (mem memory : Memory)
    (x25519Priv : Option K) (ed25519Priv : Slice) (identity : Identity K) (events : List Event)
    (st : State K)
    (made : newIdentity publicKey mem x25519Priv ed25519Priv = .ok (identity, memory))
    (run : Run Step (.initial identity memory) events st) :
    st.memory.deref st.identity.publicAddr = (published events).publicAddr ∧ Faithful events := by
  obtain ⟨_, _, _, _, _, none, _⟩ := newIdentity_ok made
  exact ⟨(runs_isolated none run).stored, runs_faithful none run⟩

/-- The caller overwrites the address it has passed in. -/
theorem publicAddr_register_overwritten : ∃ (events : List Event) (st : State Unit),
    newIdentity testPublicKey testMemory (some ()) ⟨0, 0, 64⟩ = .ok (testIdentity, sharedMemory) ∧
    Run Step (.initial testIdentity sharedMemory) events st ∧
    events = [.set (some testAddr), .wrote 1 0 9, .got (some testAddr)] ∧
    st.memory.deref (some 0) ≠ some testAddr ∧ Faithful events := by
  have run : Run Step (.initial testIdentity sharedMemory) [] _ := .refl
  have run := run.next (.setPublicAddr (some 0)
    (by simp [State.initial, sharedMemory, testMemory]) rfl)
  have run := run.next (.write 0 9 (by decide : 1 ∈ _))
  have run := run.next (.getPublicAddr rfl)
  exact ⟨_, _, newIdentity_test, run, rfl, by decide,
    (publicAddr_register _ _ _ _ _ _ _ _ newIdentity_test run).2⟩

theorem getPublicAddr_extends {addr : Option Nat}
    (got : st.identity.getPublicAddr st.memory = (addr, memory)) :
    ∃ contents, memory.arrays = st.memory.arrays ++ contents := by
  unfold Identity.getPublicAddr at got
  split at got
  · obtain ⟨-, rfl⟩ := Prod.mk.inj got
    exact ⟨[], (List.append_nil _).symm⟩
  · obtain ⟨-, rfl⟩ := Prod.mk.inj got
    exact ⟨_, rfl⟩

theorem setPublicAddr_extends {addr : Option Nat}
    (set : st.identity.setPublicAddr st.memory addr = (identity, memory)) :
    (∃ contents, memory.arrays = st.memory.arrays ++ contents) ∧
      identity.getX25519Keys = st.identity.getX25519Keys ∧
      identity.getEd25519Keys = st.identity.getEd25519Keys := by
  unfold Identity.setPublicAddr at set
  split at set
  · obtain ⟨rfl, rfl⟩ := Prod.mk.inj set
    exact ⟨⟨[], (List.append_nil _).symm⟩, rfl, rfl⟩
  · obtain ⟨rfl, rfl⟩ := Prod.mk.inj set
    exact ⟨⟨_, rfl⟩, rfl, rfl⟩

/-- Only assignments change arrays. -/
theorem step_arrays {more : List Event} (step : Step st more next) :
    (∃ contents, next.memory.arrays = st.memory.arrays ++ contents ∧
      ∀ slice elements, patched slice more elements = elements) ∨
    ∃ array index value, more = [.wrote array index value] ∧
      next.memory.arrays = Slice.write st.memory.arrays array index value := by
  cases step with
  | setPublicAddr addr own set =>
    obtain ⟨contents, grown⟩ := (setPublicAddr_extends set).1
    exact .inl ⟨contents, grown, fun _ _ => rfl⟩
  | getPublicAddr got =>
    obtain ⟨contents, grown⟩ := getPublicAddr_extends got
    exact .inl ⟨contents, grown, fun _ _ => rfl⟩
  | makeArray contents => exact .inl ⟨_, rfl, fun _ _ => rfl⟩
  | write index value => exact .inr ⟨_, _, _, rfl, rfl⟩
  | getEd25519Keys | makeAddr | writeAddr =>
    exact .inl ⟨[], (List.append_nil _).symm, fun _ _ => rfl⟩

theorem step_keys {more : List Event} (step : Step st more next) :
    next.identity.getX25519Keys = st.identity.getX25519Keys ∧
      next.identity.getEd25519Keys = st.identity.getEd25519Keys := by
  cases step with
  | setPublicAddr addr own set => exact (setPublicAddr_extends set).2
  | _ => exact ⟨rfl, rfl⟩

theorem runs_keys (run : Run Step (.initial identity memory) events st) :
    st.identity.getX25519Keys = identity.getX25519Keys ∧
      st.identity.getEd25519Keys = identity.getEd25519Keys := by
  apply Run.invariant (P := fun _ (st : State K) =>
    st.identity.getX25519Keys = identity.getX25519Keys ∧
      st.identity.getEd25519Keys = identity.getEd25519Keys) _ _ run
  · exact ⟨rfl, rfl⟩
  · exact fun held step => ⟨(step_keys step).1.trans held.1, (step_keys step).2.trans held.2⟩

theorem step_read {slice : Slice} {more : List Event} (step : Step st more next)
    (known : slice.array < st.memory.arrays.length) :
    slice.array < next.memory.arrays.length ∧
      slice.read next.memory.arrays = patched slice more (slice.read st.memory.arrays) := by
  rcases step_arrays step with ⟨contents, grown, silent⟩ | ⟨array, index, value, rfl, written⟩
  · rw [grown, silent, List.length_append, Slice.read_append known]
    exact ⟨by omega, rfl⟩
  · rw [written, Slice.write_length, Slice.read_write]
    exact ⟨known, rfl⟩

/-- A slice holds what it held in the beginning, with everything callers have
written within it. -/
theorem runs_read {slice : Slice} (known : slice.array < memory.arrays.length)
    (run : Run Step (.initial identity memory) events st) :
    slice.array < st.memory.arrays.length ∧
      slice.read st.memory.arrays = patched slice events (slice.read memory.arrays) := by
  apply Run.invariant (P := fun events (st : State K) =>
    slice.array < st.memory.arrays.length ∧
      slice.read st.memory.arrays = patched slice events (slice.read memory.arrays)) _ _ run
  · exact ⟨known, rfl⟩
  · intro past st more next held step
    obtain ⟨inside, same⟩ := step_read step held.1
    refine ⟨inside, ?_⟩
    rw [same, held.2]
    exact List.foldl_append.symm

theorem patched_unwritten {slice : Slice} (elements : List UInt8)
    (unwritten : Unwritten slice events) : patched slice events elements = elements := by
  induction events generalizing elements with
  | nil => rfl
  | cons event rest ih =>
    have first : event.patch slice elements = elements := by
      cases event with
      | wrote array index value =>
        exact Slice.patch_uncovered _ (unwritten array index value List.mem_cons_self)
      | _ => rfl
    have later : Unwritten slice rest := fun array index value wrote =>
      unwritten array index value (List.mem_cons_of_mem _ wrote)
    rw [patched, List.foldl_cons, first]
    exact ih elements later

/-- GetEd25519Keys returns what its two slices hold by then. -/
theorem runs_returned {before after : List Event} {priv pub : List UInt8}
    (inside : identity.ed25519Priv.array < memory.arrays.length)
    (beside : identity.ed25519Pub.array < memory.arrays.length)
    (run : Run Step (.initial identity memory) events st)
    (returned : events = before ++ .keys priv pub :: after) :
    priv = patched identity.ed25519Priv before (identity.ed25519Priv.read memory.arrays) ∧
      pub = patched identity.ed25519Pub before (identity.ed25519Pub.read memory.arrays) := by
  obtain ⟨now, next, reached, step, _⟩ := run.at_event step_emits returned
  cases step with
  | getEd25519Keys keys =>
    rw [(runs_keys reached).2] at keys
    obtain ⟨rfl, rfl⟩ := Prod.mk.inj keys
    exact ⟨(runs_read inside reached).2, (runs_read beside reached).2⟩

/-- The X25519 keys never change. The Ed25519 keys are shared with the callers: what
GetEd25519Keys returns is the key that NewIdentity was given and the public half that it
copied out of it, each with the callers' own writes to it and with no others. While there
are none, what is signed with the one verifies under the other. -/
theorem keys_shared (publicKey : K → Ecdh.PublicKey) (mem memory : Memory)
    (x25519Priv : Option K) (ed25519Priv : Slice) (identity : Identity K) (events : List Event)
    (st : State K)
    (made : newIdentity publicKey mem x25519Priv ed25519Priv = .ok (identity, memory))
    (run : Run Step (.initial identity memory) events st) :
    (∃ priv, x25519Priv = some priv ∧ st.identity.getX25519Keys = (priv, publicKey priv)) ∧
    ∃ derived, let original := ed25519Priv.read mem.arrays
      let copy := (Slice.alloc mem.arrays derived).1
      Ed25519.publicKey original = Outcome.ok (ε := String) derived ∧
      ∀ before priv pub after, events = before ++ .keys priv pub :: after →
        priv = patched ed25519Priv before original ∧ pub = patched copy before derived ∧
        ∀ scheme message, Ed25519.WellFormed scheme original →
          Unwritten ed25519Priv before → Unwritten copy before →
          ∃ sig, Ed25519.sign scheme priv message = Outcome.ok (ε := String) sig ∧
            Ed25519.verify scheme pub message sig = Outcome.ok (ε := String) true := by
  obtain ⟨x25519, derived, given, pair, arrays, _, keys, shared⟩ := newIdentity_ok made
  obtain ⟨own, copied⟩ := Prod.mk.inj shared
  have known := newIdentity_known made
  refine ⟨⟨x25519, given, (runs_keys run).1.trans keys⟩, derived, pair, ?_⟩
  intro before priv pub after returned
  have inside : identity.ed25519Priv.array < memory.arrays.length := by
    rw [own, arrays, List.length_append]
    omega
  have beside : identity.ed25519Pub.array < memory.arrays.length := by
    simp [copied, arrays, Slice.alloc]
  have original : ed25519Priv.read memory.arrays = ed25519Priv.read mem.arrays := by
    rw [arrays, Slice.read_append known]
  have half : (Slice.alloc mem.arrays derived).1.read memory.arrays = derived := by
    rw [arrays]
    exact Slice.read_alloc mem.arrays derived
  have now := runs_returned inside beside run returned
  rw [own, copied, original, half] at now
  obtain ⟨rfl, rfl⟩ := now
  refine ⟨rfl, rfl, fun scheme message whole unwritten neither => ?_⟩
  rw [patched_unwritten _ unwritten, patched_unwritten _ neither]
  have tail := Outcome.ok.inj (pair.symm.trans (Ed25519.publicKey_ok whole.size))
  refine ⟨_, Ed25519.sign_ok whole.size message, Ed25519.verify_eq_ok.mpr ⟨?_, ?_⟩⟩
  · rw [tail, List.length_drop, whole.size]
    rfl
  · rw [tail]
    exact whole.accepts message

/-- Signatures that show the second half of the key. -/
def halves : Ed25519.Scheme where
  signature key _ := ⟨(key ++ List.replicate 64 0).take 64, by simp [Ed25519.signatureSize]⟩
  valid pub _ sig := sig.drop 32 == pub

/-- The caller writes one byte into the private key between two calls, and none into the
public half: then the two no longer belong together. -/
theorem keys_shared_written : ∃ (events : List Event) (st : State Unit)
    (priv changed pub sig : List UInt8),
    Run Step (.initial testIdentity sharedMemory) events st ∧
    events = [.keys priv pub, .wrote 0 40 9, .wrote 1 0 9, .keys changed pub] ∧
    Ed25519.publicKey priv = Outcome.ok (ε := String) pub ∧ changed = priv.set 40 9 ∧
    Ed25519.sign halves priv [] = Outcome.ok (ε := String) sig ∧
    Ed25519.verify halves pub [] sig = Outcome.ok (ε := String) true ∧
    Ed25519.publicKey changed ≠ Outcome.ok (ε := String) pub := by
  have run : Run Step (.initial testIdentity sharedMemory) [] _ := .refl
  have run := run.next (.getEd25519Keys rfl)
  have run := run.next (.write 40 9 (by decide : 0 ∈ _))
  have run := run.next (.write 0 9 (by decide : 1 ∈ _))
  have run := run.next (.getEd25519Keys rfl)
  obtain ⟨derived, pair, shared⟩ := (keys_shared _ _ _ _ _ _ _ _ newIdentity_test run).2
  obtain ⟨_, half, verifies⟩ := shared [] _ _ [_, _, _] rfl
  obtain ⟨changed, _, _⟩ := shared [_, _, _] _ _ [] rfl
  obtain ⟨sig, signs, accepts⟩ := verifies halves []
    ⟨rfl, fun _ => rfl⟩ (by simp [Unwritten]) (by simp [Unwritten])
  exact ⟨_, _, _, _, _, sig, run, rfl, half ▸ pair, changed, signs, accepts, by decide⟩

end Runs

end GotaDaemon.Identify
