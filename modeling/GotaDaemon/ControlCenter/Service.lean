import GotaDaemon.ControlCenter.Dispatcher

/-! What the control center is for, without sessions, connections and
goroutines: a service that executes one DispatchSysCall after the other, each
as a whole, for whoever it is called by. -/
namespace GotaDaemon.ControlCenter
open Go Transition Ipc

inductive ServiceEvent (W : Type) where
  | served (did : DID) (request : UInt16 × List UInt8) (answer : OutboundPacket)
  | interfered (label : Label W)

variable {W : Type}

/-- One DispatchSysCall, or what other goroutines may do in between. -/
inductive ServiceStep (may : Dispatcher W × W → Dispatcher W × W → Prop) :
    Dispatcher W × W → List (ServiceEvent W) → Dispatcher W × W → Prop where
  | serve (did opcode payload) :
      ServiceStep may (d, world)
        [.served did (opcode, payload) (d.dispatchSysCall did opcode payload world).1.packet]
        (d, (d.dispatchSysCall did opcode payload world).2)
  | interfere : Interferes state label later → may state later →
      ServiceStep may state [.interfered label] later

def exchange (did : DID) : ServiceEvent W → Option ((UInt16 × List UInt8) × OutboundPacket)
  | .served owner request answer => if owner = did then some (request, answer) else none
  | .interfered _ => none

/-- The requests executed for a DID, with their answers. -/
def exchangesOf (did : DID) (history : List (ServiceEvent W)) :
    List ((UInt16 × List UInt8) × OutboundPacket) :=
  history.filterMap (exchange did)

variable {did : DID} {history more : List (ServiceEvent W)}

@[simp] theorem exchangesOf_nil : exchangesOf did ([] : List (ServiceEvent W)) = [] := rfl

@[simp] theorem exchangesOf_append :
    exchangesOf did (history ++ more) = exchangesOf did history ++ exchangesOf did more := by
  simp only [exchangesOf, List.filterMap_append]

theorem exchangesOf_flatMap {E : Type} {events : List E} {f : E → List (ServiceEvent W)}
    (none : ∀ event ∈ events, exchangesOf did (f event) = []) :
    exchangesOf did (events.flatMap f) = [] := by
  rw [exchangesOf, List.filterMap_flatMap]
  exact List.flatMap_eq_nil_iff.mpr none

@[simp] theorem exchangesOf_served (request : UInt16 × List UInt8) (answer : OutboundPacket) :
    exchangesOf (W := W) did [.served did request answer] = [(request, answer)] := by
  simp [exchangesOf, exchange]

theorem exchangesOf_other {owner : DID} (other : owner ≠ did) (request : UInt16 × List UInt8)
    (answer : OutboundPacket) : exchangesOf (W := W) did [.served owner request answer] = [] := by
  simp [exchangesOf, exchange, other]

@[simp] theorem exchangesOf_interfered (label : Label W) :
    exchangesOf did [.interfered label] = [] := rfl

theorem mem_exchangesOf {request : UInt16 × List UInt8} {answer : OutboundPacket} :
    (request, answer) ∈ exchangesOf did history ↔ .served did request answer ∈ history := by
  simp only [exchangesOf, List.mem_filterMap]
  constructor
  · rintro ⟨event, member, made⟩
    cases event with
    | served owner =>
      simp only [exchange, Option.ite_none_right_eq_some, Option.some.injEq, Prod.mk.injEq] at made
      obtain ⟨rfl, rfl, rfl⟩ := made
      exact member
    | interfered => contradiction
  · exact fun member => ⟨_, member, by simp [exchange]⟩

section Runs
variable {may : Dispatcher W × W → Dispatcher W × W → Prop} {s t : Dispatcher W × W}
  {opcode : UInt16} {descriptor : SyscallDescriptor W}

/-- Registrations leave what is in the table. -/
theorem Interferes.lookup {label : Label W} (interferes : Interferes s label t)
    (found : s.1.lookup opcode = some descriptor) : t.1.lookup opcode = some descriptor := by
  cases interferes with
  | registerSysCall => rw [lookup_registerSysCall, found, Option.some_or]
  | other => exact found

theorem service_lookup (run : Run (ServiceStep may) s history t)
    (found : s.1.lookup opcode = some descriptor) : t.1.lookup opcode = some descriptor := by
  apply run.invariant (P := fun _ t => t.1.lookup opcode = some descriptor) found
  intro _ _ _ _ found step
  cases step with
  | serve => exact found
  | interfere interferes => exact interferes.lookup found

theorem service_opcode (run : Run (ServiceStep may) s history t) {request : UInt16 × List UInt8}
    {answer : OutboundPacket} (member : (request, answer) ∈ exchangesOf did history) :
    answer.opcode = request.1 := by
  rw [mem_exchangesOf] at member
  revert member
  apply run.invariant (P := fun history _ =>
    .served did request answer ∈ history → answer.opcode = request.1)
  · simp
  · intro _ _ _ _ ih step member
    rcases List.mem_append.mp member with old | new
    · exact ih old
    · cases step with
      | serve owner opcode payload =>
        simp only [List.mem_singleton, ServiceEvent.served.injEq] at new
        obtain ⟨rfl, rfl, rfl⟩ := new
        rw [Dispatcher.dispatchSysCall]
        split <;> rfl
      | interfere => simp at new

/-- What stands in the table from the start answers all requests of its opcode. -/
theorem service_answers (run : Run (ServiceStep may) s history t)
    (found : s.1.lookup opcode = some descriptor) {payload : List UInt8} {answer : OutboundPacket}
    (member : ((opcode, payload), answer) ∈ exchangesOf did history) :
    ∃ world, answer = (descriptor.respond did opcode payload world).1.packet := by
  rw [mem_exchangesOf] at member
  revert member
  apply run.invariant_reached (P := fun history _ =>
    .served did (opcode, payload) answer ∈ history →
      ∃ world, answer = (descriptor.respond did opcode payload world).1.packet)
  · simp
  · intro _ _ _ _ before ih step member
    rcases List.mem_append.mp member with old | new
    · exact ih old
    · cases step with
      | serve =>
        simp only [List.mem_singleton, ServiceEvent.served.injEq, Prod.mk.injEq] at new
        obtain ⟨rfl, ⟨rfl, rfl⟩, rfl⟩ := new
        rename_i d world
        refine ⟨world, ?_⟩
        rw [Dispatcher.dispatchSysCall, service_lookup before found]
      | interfere => simp at new

end Runs

end GotaDaemon.ControlCenter
