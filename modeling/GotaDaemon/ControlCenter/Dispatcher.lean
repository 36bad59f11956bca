import GotaDaemon.Ipc.SessionRuns

/-! The dispatcher of controlcenter/dispatcher.go, and the control callback that
wires it to a session manager: DispatchSysCall, then SendToLocal to the DID the
frame came from. -/
namespace GotaDaemon.ControlCenter
open Go Transition Ipc

/-- Success -/
def success : UInt16 := 0x0000

/-- ErrInvalidArgs -/
def errInvalidArgs : UInt16 := 0x1001

/-- ErrUnknownOpcode -/
def errUnknownOpcode : UInt16 := 0x1003

/-- ErrInvalidKey -/
def errInvalidKey : UInt16 := 0x2001

/-- ErrInternalDaemon -/
def errInternalDaemon : UInt16 := 0x5000

/-- The text of ErrAlreadyRegistered. -/
def errAlreadyRegistered : String := "syscall opcode already registered"

structure IpcResponse where
  statusCode : UInt16
  opcode : UInt16
  payload : List UInt8
  did : DID
  deriving DecidableEq, Repr

/-- A handler acts on the state `W` of the daemon around it, in one step, and returns. -/
abbrev SyscallHandler (W : Type) := DID → List UInt8 → W → (List UInt8 × UInt16) × W

structure SyscallDescriptor (W : Type) where
  opcode : UInt16
  name : String
  handler : SyscallHandler W

/-- The table is nil in a Dispatcher that NewDispatcher has not made. -/
structure Dispatcher (W : Type) where
  syscalls : Option (Map UInt16 (SyscallDescriptor W))

variable {W : Type}

namespace Dispatcher

/-- NewDispatcher. -/
def new : Dispatcher W := ⟨some ∅⟩

/-- The critical section of RegisterSysCall. -/
def registerSysCall (d : Dispatcher W) (opcode : UInt16) (descriptor : SyscallDescriptor W) :
    Except String Unit × Dispatcher W :=
  let syscalls := d.syscalls.getD ∅
  match syscalls.lookup opcode with
  | some _ => (.error errAlreadyRegistered, ⟨some syscalls⟩)
  | none => (.ok (), ⟨some (syscalls.insert opcode descriptor)⟩)

/-- The critical section of DispatchSysCall. -/
def lookup (d : Dispatcher W) (opcode : UInt16) : Option (SyscallDescriptor W) :=
  d.syscalls.bind fun syscalls => syscalls.lookup opcode

end Dispatcher

/-- The rest of DispatchSysCall. -/
def SyscallDescriptor.respond (descriptor : SyscallDescriptor W) (did : DID) (opcode : UInt16)
    (payload : List UInt8) (world : W) : IpcResponse × W :=
  let ((resPayload, statusCode), world) := descriptor.handler did payload world
  (⟨statusCode, opcode, resPayload, did⟩, world)

def unknownOpcode (did : DID) (opcode : UInt16) : IpcResponse := ⟨errUnknownOpcode, opcode, [], did⟩

/-- DispatchSysCall, when nothing comes between its critical section and the
handler. -/
def Dispatcher.dispatchSysCall (d : Dispatcher W) (did : DID) (opcode : UInt16)
    (payload : List UInt8) (world : W) : IpcResponse × W :=
  match d.lookup opcode with
  | none => (unknownOpcode did opcode, world)
  | some descriptor => descriptor.respond did opcode payload world

/-- Control points of the callback: before DispatchSysCall, before the handler,
before SendToLocal, after it. -/
inductive Activation (W : Type) where
  | dispatch (did : DID) (opcode : UInt16) (payload : List UInt8)
  | handler (did : DID) (opcode : UInt16) (payload : List UInt8) (descriptor : SyscallDescriptor W)
  | reply (did : DID) (response : IpcResponse)
  | done

inductive Label (W : Type) where
  | lookup (opcode : UInt16) (found : Option (SyscallDescriptor W))
  | invoked (did : DID) (opcode : UInt16) (payload : List UInt8) (descriptor : SyscallDescriptor W)
      (result : List UInt8 × UInt16)
  | sendToLocal
  | returned
  | registerSysCall (opcode : UInt16) (descriptor : SyscallDescriptor W)
      (result : Except String Unit)
  | other

def onControl : ControlCallback (Activation W) := .dispatch

/-- What SendToLocal makes of a response. -/
def IpcResponse.packet (response : IpcResponse) : OutboundPacket :=
  ⟨response.opcode, response.statusCode, response.payload⟩

/-- One move of the callback. The error of SendToLocal is dropped. -/
def Activation.move (d : Dispatcher W) (world : W) :
    Activation W → Label W × (Dispatcher W × W) × Act (Activation W)
  | .dispatch did opcode payload =>
    match d.lookup opcode with
    | none => (.lookup opcode none, (d, world), .proceed (.reply did (unknownOpcode did opcode)))
    | some descriptor =>
      (.lookup opcode (some descriptor), (d, world),
        .proceed (.handler did opcode payload descriptor))
  | .handler did opcode payload descriptor =>
    let (response, later) := descriptor.respond did opcode payload world
    (.invoked did opcode payload descriptor (descriptor.handler did payload world).1, (d, later),
      .proceed (.reply did response))
  | .reply did response => (.sendToLocal, (d, world), .send did response.packet fun _ => .done)
  | .done => (.returned, (d, world), .finish)

/-- With nothing in between, the moves up to the reply are one DispatchSysCall. -/
theorem move_dispatchSysCall (d : Dispatcher W) (did : DID) (opcode : UInt16) (payload : List UInt8)
    (world : W) :
    let done := d.dispatchSysCall did opcode payload world
    (∃ label, (Activation.dispatch did opcode payload).move d world =
      (label, (d, done.2), .proceed (.reply did done.1))) ∨
    ∃ label invoked activation,
      (Activation.dispatch did opcode payload).move d world =
        (label, (d, world), .proceed activation) ∧
      activation.move d world = (invoked, (d, done.2), .proceed (.reply did done.1)) := by
  intro done
  cases found : d.lookup opcode with
  | none =>
    left
    simp [done, Activation.move, Dispatcher.dispatchSysCall, found]
  | some descriptor =>
    right
    simp [done, Activation.move, Dispatcher.dispatchSysCall, found]

/-- What other goroutines may do: register system calls, and anything to the
state the handlers work on. -/
inductive Interferes : Dispatcher W × W → Label W → Dispatcher W × W → Prop where
  | registerSysCall (opcode descriptor) :
      Interferes (d, world)
        (.registerSysCall opcode descriptor (d.registerSysCall opcode descriptor).1)
        ((d.registerSysCall opcode descriptor).2, world)
  | other (later) : Interferes (d, world) .other (d, later)

def wired (W : Type) : Client (Dispatcher W × W) (Activation W) (Label W) where
  step world activation label later act := activation.move world.1 world.2 = (label, later, act)
  interfere := Interferes

/-- A registration fills a gap in the table and changes nothing else. -/
theorem lookup_registerSysCall (d : Dispatcher W) (opcode other : UInt16)
    (descriptor : SyscallDescriptor W) :
    (d.registerSysCall opcode descriptor).2.lookup other =
      (d.lookup other).or (if other = opcode then some descriptor else none) := by
  obtain ⟨syscalls⟩ := d
  have table : (Dispatcher.mk syscalls).lookup other = (syscalls.getD ∅).lookup other := by
    cases syscalls <;> simp [Dispatcher.lookup]
  rw [table, Dispatcher.registerSysCall]
  dsimp only
  cases present : (syscalls.getD ∅).lookup opcode with
  | some old =>
    by_cases same : other = opcode
    · subst same
      simp [Dispatcher.lookup, present]
    · simp [Dispatcher.lookup, same]
  | none =>
    by_cases same : other = opcode
    · subst same
      simp [Dispatcher.lookup, present]
    · simp [Dispatcher.lookup, same, AList.lookup_insert_ne same]

theorem registerSysCall_ok {d : Dispatcher W} {opcode : UInt16} {descriptor : SyscallDescriptor W} :
    (d.registerSysCall opcode descriptor).1 = .ok () ↔ d.lookup opcode = none := by
  obtain ⟨syscalls⟩ := d
  have table : (Dispatcher.mk syscalls).lookup opcode = (syscalls.getD ∅).lookup opcode := by
    cases syscalls <;> simp [Dispatcher.lookup]
  rw [table, Dispatcher.registerSysCall]
  dsimp only
  cases (syscalls.getD ∅).lookup opcode <;> simp

/-- The descriptor of a successful RegisterSysCall for the opcode. -/
def registration {K : Type} (opcode : UInt16) : Event K (Label W) → Option (SyscallDescriptor W)
  | .interfered (.registerSysCall other descriptor (.ok ())) =>
    if other = opcode then some descriptor else none
  | _ => none

/-- The descriptor of the first successful RegisterSysCall for the opcode. -/
def firstRegistered {K : Type} (opcode : UInt16) (events : List (Event K (Label W))) :
    Option (SyscallDescriptor W) :=
  events.findSome? (registration opcode)

section Runs
variable {st next : State (Dispatcher W × W) (Activation W)} {world later : Dispatcher W × W}
  {label : Label W} {events more : List (Event (Activation W) (Label W))}
  {activation : Activation W} {act : Act (Activation W)}

/-- The callback leaves the table alone, and its lookup finds what is there. -/
theorem move_table (moved : (wired W).step world activation label later act) : later.1 = world.1 ∧
    ∀ {opcode found}, label = .lookup opcode found → found = world.1.lookup opcode := by
  have result : activation.move world.1 world.2 = (label, later, act) := moved
  cases activation with
  | dispatch did opcode payload =>
    cases found : world.1.lookup opcode with
    | none | some =>
      simp only [Activation.move, found, Prod.mk.injEq] at result
      obtain ⟨rfl, rfl, rfl⟩ := result
      exact ⟨rfl, by rintro _ _ ⟨⟩; exact found.symm⟩
  | handler | reply | done =>
    simp only [Activation.move, Prod.mk.injEq] at result
    obtain ⟨rfl, rfl, rfl⟩ := result
    exact ⟨rfl, nofun⟩

/-- The handler that a callback invokes works on the state it finds and leaves
the state and the result it returns. -/
theorem move_invoked {did : DID} {opcode : UInt16} {payload : List UInt8}
    {descriptor : SyscallDescriptor W} {result : List UInt8 × UInt16}
    (moved : (wired W).step world activation (.invoked did opcode payload descriptor result)
      later act) :
    descriptor.handler did payload world.2 = (result, later.2) := by
  have made : activation.move world.1 world.2 = (.invoked did opcode payload descriptor result,
    later, act) := moved
  cases activation with
  | dispatch _ code =>
    cases found : world.1.lookup code <;> simp [Activation.move, found] at made
  | handler =>
    simp only [Activation.move, SyscallDescriptor.respond, Prod.mk.injEq, Label.invoked.injEq]
      at made
    obtain ⟨⟨rfl, rfl, rfl, rfl, rfl⟩, rfl, _⟩ := made
    rfl
  | reply | done => simp [Activation.move] at made

/-- The table holds the first registrations, and so does every lookup find the
first registration that came before it. -/
structure Tabled (events : List (Event (Activation W) (Label W)))
    (st : State (Dispatcher W × W) (Activation W)) : Prop where
  table : ∀ opcode, st.world.1.lookup opcode = firstRegistered opcode events
  lookups : ∀ {before after index opcode found},
    events = before ++ .control index (.lookup opcode found) :: after →
    found = firstRegistered opcode before

theorem firstRegistered_append (opcode : UInt16) :
    firstRegistered opcode (events ++ more) =
      (firstRegistered opcode events).or (firstRegistered opcode more) := by
  simp only [firstRegistered, List.findSome?_append]

theorem firstRegistered_quiet (quiet : ∀ event ∈ more, event.outside = false) (opcode : UInt16) :
    firstRegistered opcode more = none := by
  apply List.findSome?_eq_none_iff.mpr
  intro event member
  have inside := quiet event member
  cases event <;> simp_all [registration, Event.outside]

theorem Tabled.step (tabled : Tabled events st) (step : Step (wired W) st more next) :
    Tabled (events ++ more) next := by
  obtain ⟨table, lookups⟩ := tabled
  cases step_world step with
  | same unchanged quiet =>
    constructor
    · intro opcode
      rw [unchanged, table, firstRegistered_append, firstRegistered_quiet quiet, Option.or_none]
    · intro before after index opcode found same
      rcases split_append same with ⟨rest, old⟩ | ⟨rest, _, rfl⟩
      · exact lookups old
      · simpa [Event.outside] using quiet (.control index (.lookup opcode found)) (by simp)
  | interfered moved =>
    constructor
    · intro opcode
      rw [firstRegistered_append, ← table]
      generalize next.world = later at moved
      generalize st.world = world at moved table
      cases moved with
      | other => simp [firstRegistered, registration]
      | registerSysCall added descriptor =>
        rename_i d w
        rw [lookup_registerSysCall]
        cases outcome : (d.registerSysCall added descriptor).1 with
        | ok =>
          simp only [firstRegistered, List.findSome?_cons, List.findSome?_nil,
            registration, eq_comm]
          split <;> simp_all
        | error =>
          -- a refused registration finds its place taken
          have taken : d.lookup added ≠ none :=
            fun free => by simp [registerSysCall_ok.mpr free] at outcome
          simp only [firstRegistered, List.findSome?_cons, List.findSome?_nil, registration,
            Option.or_none]
          split
          · rename_i same
            subst same
            exact Option.or_of_isSome (Option.isSome_iff_ne_none.mpr taken)
          · exact Option.or_none
    · intro before after index opcode found same
      rcases split_append same with ⟨rest, old⟩ | ⟨rest, _, single⟩
      · exact lookups old
      · rcases rest with _ | ⟨head, rest⟩ <;> simp at single
  | control held running moved =>
    obtain ⟨kept, finds⟩ := move_table moved
    constructor
    · intro opcode
      rw [kept, table, firstRegistered_append]
      simp [firstRegistered, registration]
    · intro before after index opcode found same
      rcases split_append same with ⟨rest, old⟩ | ⟨rest, rfl, single⟩
      · exact lookups old
      · rcases rest with _ | ⟨head, rest⟩ <;> simp at single
        rw [List.append_nil, ← table]
        exact finds single.1.2

theorem runs_tabled {w : W} (run : Runs (wired W) (.new, w) events st) : Tabled events st := by
  apply run.invariant (P := Tabled)
  · refine ⟨fun _ => rfl, fun same => ?_⟩
    simp at same
  · exact fun tabled step => tabled.step step.2

end Runs

end GotaDaemon.ControlCenter
