import GotaDaemon.ControlCenter.Abi
import GotaDaemon.InviteKey.KeyManager

/-! The default system calls: the handlers of controlcenter/handlers.go and their
registration in controlcenter/registry.go. -/
namespace GotaDaemon.ControlCenter
open Go Ipc BigEndian InviteKey

/-- OpcodeEgressRoute -/
def opcodeEgressRoute : UInt16 := 0x0001

/-- OpcodeGetInviteKey -/
def opcodeGetInviteKey : UInt16 := 0x0201

/-- The text of ErrNilDispatcher. -/
def errNilDispatcher : String := "dispatcher cannot be nil"

/-- RouteToNetwork, which returns nil or an error with this text. -/
abbrev IEgress (W : Type) := DID → List UInt8 → W → Option (List UInt8) × W

/-- GenerateKey of a key manager, which returns a key or an error with this text.
What the generator does besides is up to it. -/
abbrev KeySource (W : Type) := UInt32 → W → Except (List UInt8) (List UInt8) × W

variable {W : Type}

/-- The key manager of package invitekey. A generator that panics ends the
process, so these do not. -/
def managerKeys (km : W → KeyManager)
    (safe : ∀ world version, ((km world).generateKey version).Safe) : KeySource W :=
  fun version world =>
    match outcome : (km world).generateKey version with
    | .ok key => (.ok key, world)
    | .error err => (.error err.text, world)
    | .panic reason => absurd outcome (safe world version reason)

def makeEgressRouteHandler (egress : Option (IEgress W)) : SyscallHandler W :=
  fun did payload world =>
    match egress with
    | none => (([], errInternalDaemon), world)
    | some routeToNetwork =>
      let (data, _, status) := readBytesParam payload
      if status ≠ success then (([], status), world)
      else
        match routeToNetwork did data world with
        | (some err, world) => ((err, errInternalDaemon), world)
        | (none, world) => (([], success), world)

/-- The version that a payload asks for. -/
def requestedVersion (payload : List UInt8) : UInt32 :=
  if 4 ≤ payload.length then UInt32.ofNat (get (payload.take 4)) else 0

def makeGetInviteKeyHandler (km : Option (KeySource W)) : SyscallHandler W :=
  fun _ payload world =>
    match km with
    | none => (([], errInternalDaemon), world)
    | some generateKey =>
      match generateKey (requestedVersion payload) world with
      | (.error err, world) => ((err, errInvalidKey), world)
      | (.ok keyStr, world) => ((keyStr, success), world)

def egressRoute (egress : IEgress W) : SyscallDescriptor W :=
  ⟨opcodeEgressRoute, "EgressRoute", makeEgressRouteHandler (some egress)⟩

def getInviteKey (km : KeySource W) : SyscallDescriptor W :=
  ⟨opcodeGetInviteKey, "GetInviteKey", makeGetInviteKeyHandler (some km)⟩

/-- A system call whose dependency is nil is left out. -/
def Dispatcher.registerDefault (d : Dispatcher W) (descriptor : Option (SyscallDescriptor W)) :
    Except String Unit × Dispatcher W :=
  match descriptor with
  | none => (.ok (), d)
  | some descriptor => d.registerSysCall descriptor.opcode descriptor

def registerDefaultHandlers (d : Option (Dispatcher W)) (km : Option (KeySource W))
    (egress : Option (IEgress W)) : Except String Unit × Option (Dispatcher W) :=
  match d with
  | none => (.error errNilDispatcher, none)
  | some d =>
    match d.registerDefault (egress.map egressRoute) with
    | (.error err, d) => (.error err, some d)
    | (.ok (), d) =>
      match d.registerDefault (km.map getInviteKey) with
      | (result, d) => (result, some d)

/-- A table with nothing but this descriptor, if there is one. -/
def placed (descriptor : Option (SyscallDescriptor W)) (opcode : UInt16) :
    Option (SyscallDescriptor W) :=
  descriptor.bind fun added => if opcode = added.opcode then some added else none

/-- The system calls whose dependencies are not nil. -/
def defaults (km : Option (KeySource W)) (egress : Option (IEgress W)) (opcode : UInt16) :
    Option (SyscallDescriptor W) :=
  (placed (egress.map egressRoute) opcode).or (placed (km.map getInviteKey) opcode)

/-- An error leaves the table as it was. Otherwise the table has been extended
with the default system calls at places that were free. -/
def AllOrNothing (d : Dispatcher W) (km : Option (KeySource W)) (egress : Option (IEgress W)) :
    Prop :=
  ∀ result later, registerDefaultHandlers (some d) km egress = (result, some later) →
    (∀ err, result = .error err → later = d) ∧
    (result = .ok () → ∀ opcode,
      later.lookup opcode = (d.lookup opcode).or (defaults km egress opcode) ∧
      (d.lookup opcode = none ∨ defaults km egress opcode = none))

/-- The ways RegisterDefaultHandlers can end: at once, after it has registered
EgressRoute if there is an egress, or with everything registered. -/
inductive Registered (d : Dispatcher W) (km : Option (KeySource W)) (egress : Option (IEgress W)) :
    Except String Unit × Option (Dispatcher W) → Prop where
  | refused : egress ≠ none → d.lookup opcodeEgressRoute ≠ none →
      Registered d km egress (.error errAlreadyRegistered, some d)
  | half : (egress ≠ none → d.lookup opcodeEgressRoute = none) → km ≠ none →
      d.lookup opcodeGetInviteKey ≠ none → (egress = none → later = d) →
      (∀ opcode, later.lookup opcode =
        (d.lookup opcode).or (placed (egress.map egressRoute) opcode)) →
      Registered d km egress (.error errAlreadyRegistered, some later)
  | done : (egress ≠ none → d.lookup opcodeEgressRoute = none) →
      (km ≠ none → d.lookup opcodeGetInviteKey = none) →
      (∀ opcode, later.lookup opcode = (d.lookup opcode).or (defaults km egress opcode)) →
      Registered d km egress (.ok (), some later)

/-- The calls that a handler makes to what it has been given. -/
inductive Call where
  | routeToNetwork (did : DID) (data : List UInt8)
  | generateKey (version : UInt32)
  deriving DecidableEq, Repr

def recordingEgress (egress : IEgress W) : IEgress (W × List Call) :=
  fun did data world =>
    let (err, later) := egress did data world.1
    (err, (later, world.2 ++ [.routeToNetwork did data]))

def recordingKeys (km : KeySource W) : KeySource (W × List Call) :=
  fun version world =>
    let (result, later) := km version world.1
    (result, (later, world.2 ++ [.generateKey version]))

/-- EgressRoute routes the data of a payload that is their length and the data,
and refuses any other payload without effect. -/
structure EgressRouteExact (d : Dispatcher (W × List Call)) (did : DID) (payload : List UInt8)
    (world : W) : Prop where
  routes : ∀ data, (d.dispatchSysCall did opcodeEgressRoute payload (world, [])).2.2 =
    [.routeToNetwork did data] ↔ data.length ≤ 65535 ∧ payload = put 2 data.length ++ data
  refuses : (∀ data, data.length ≤ 65535 → payload ≠ put 2 data.length ++ data) →
    (d.dispatchSysCall did opcodeEgressRoute payload (world, [])).1.statusCode = errInvalidArgs ∧
    (d.dispatchSysCall did opcodeEgressRoute payload (world, [])).2 = (world, [])

/-- GetInviteKey asks for the version that the payload is, or for version 0 if the
payload is empty, and refuses any other payload without effect. -/
structure GetInviteKeyExact (d : Dispatcher (W × List Call)) (did : DID) (payload : List UInt8)
    (world : W) : Prop where
  generates : ∀ version, (d.dispatchSysCall did opcodeGetInviteKey payload (world, [])).2.2 =
    [.generateKey version] ↔ payload = [] ∧ version = 0 ∨ payload = put 4 version.toNat
  refuses : payload ≠ [] → (∀ version : UInt32, payload ≠ put 4 version.toNat) →
    (d.dispatchSysCall did opcodeGetInviteKey payload (world, [])).1.statusCode = errInvalidArgs ∧
    (d.dispatchSysCall did opcodeGetInviteKey payload (world, [])).2 = (world, [])

section Registration
variable {d : Dispatcher W} {km : Option (KeySource W)} {egress : Option (IEgress W)}

theorem registerSysCall_taken {opcode : UInt16} {descriptor : SyscallDescriptor W}
    (taken : d.lookup opcode ≠ none) :
    d.registerSysCall opcode descriptor = (.error errAlreadyRegistered, d) := by
  obtain ⟨_ | syscalls⟩ := d
  · simp [Dispatcher.lookup] at taken
  · cases found : syscalls.lookup opcode with
    | none => simp [Dispatcher.lookup, found] at taken
    | some => simp [Dispatcher.registerSysCall, found]

@[simp] theorem placed_none (opcode : UInt16) :
    placed (none : Option (SyscallDescriptor W)) opcode = none := rfl

@[simp] theorem placed_some (added : SyscallDescriptor W) (opcode : UInt16) :
    placed (some added) opcode = if opcode = added.opcode then some added else none := rfl

/-- A default system call is refused when its place is taken, and stands in its
place afterwards when it is not. -/
theorem registerDefault_cases (d : Dispatcher W) (descriptor : Option (SyscallDescriptor W)) :
    ((∃ added, descriptor = some added ∧ d.lookup added.opcode ≠ none) ∧
      d.registerDefault descriptor = (.error errAlreadyRegistered, d)) ∨
    ((∀ added, descriptor = some added → d.lookup added.opcode = none) ∧
      ∃ later, d.registerDefault descriptor = (.ok (), later) ∧
        (descriptor = none → later = d) ∧
        ∀ opcode, later.lookup opcode = (d.lookup opcode).or (placed descriptor opcode)) := by
  cases descriptor with
  | none =>
    right
    refine ⟨by simp, d, rfl, fun _ => rfl, fun opcode => ?_⟩
    rw [placed_none, Option.or_none]
  | some added =>
    by_cases free : d.lookup added.opcode = none
    · right
      refine ⟨?_, (d.registerSysCall added.opcode added).2, ?_, by simp, ?_⟩
      · rintro _ ⟨⟩
        exact free
      · rw [Dispatcher.registerDefault, ← registerSysCall_ok.mpr free]
      · exact fun opcode => lookup_registerSysCall d added.opcode opcode added
    · left
      exact ⟨⟨added, rfl, free⟩, registerSysCall_taken free⟩

theorem opcodes_apart : opcodeGetInviteKey ≠ opcodeEgressRoute := by decide

theorem defaults_given {opcode : UInt16} (given : defaults km egress opcode ≠ none) :
    opcode = opcodeEgressRoute ∧ egress ≠ none ∨ opcode = opcodeGetInviteKey ∧ km ≠ none := by
  by_cases first : opcode = opcodeEgressRoute
  · subst first
    refine .inl ⟨rfl, ?_⟩
    rintro rfl
    cases km <;> simp [defaults, getInviteKey, opcodes_apart.symm] at given
  · by_cases second : opcode = opcodeGetInviteKey
    · subst second
      refine .inr ⟨rfl, ?_⟩
      rintro rfl
      cases egress <;> simp [defaults, egressRoute, opcodes_apart] at given
    · cases egress <;> cases km <;>
        simp [defaults, egressRoute, getInviteKey, first, second] at given

theorem registerDefaultHandlers_registered (d : Dispatcher W) (km : Option (KeySource W))
    (egress : Option (IEgress W)) :
    Registered d km egress (registerDefaultHandlers (some d) km egress) := by
  rw [registerDefaultHandlers]
  rcases registerDefault_cases d (egress.map egressRoute) with
    ⟨⟨_, given, taken⟩, refused⟩ | ⟨free, middle, first, unchanged, table⟩
  · obtain ⟨route, rfl, rfl⟩ := Option.map_eq_some_iff.mp given
    rw [refused]
    exact .refused (Option.some_ne_none route) taken
  · have free : egress ≠ none → d.lookup opcodeEgressRoute = none := by
      intro given
      obtain ⟨route, rfl⟩ := Option.ne_none_iff_exists'.mp given
      exact free (egressRoute route) rfl
    -- EgressRoute does not stand in the way of GetInviteKey
    have second : middle.lookup opcodeGetInviteKey = d.lookup opcodeGetInviteKey := by
      rw [table]
      cases egress <;> simp [egressRoute, opcodes_apart]
    rw [first]
    rcases registerDefault_cases middle (km.map getInviteKey) with
      ⟨⟨_, given, taken⟩, refused⟩ | ⟨free', later, registered, _, table'⟩
    · obtain ⟨source, rfl, rfl⟩ := Option.map_eq_some_iff.mp given
      dsimp only
      rw [refused]
      refine .half free (Option.some_ne_none source) ?_ ?_ table
      · rw [← second]
        exact taken
      · rintro rfl
        exact unchanged rfl
    · dsimp only
      rw [registered]
      refine .done free ?_ ?_
      · intro given
        obtain ⟨source, rfl⟩ := Option.ne_none_iff_exists'.mp given
        rw [← second]
        exact free' (getInviteKey source) rfl
      · intro opcode
        rw [table', table, Option.or_assoc, defaults]

end Registration

/-- RegisterDefaultHandlers is all or nothing unless there is an egress whose
system call finds its place free and a key manager whose system call does not. -/
theorem allOrNothing_iff (d : Dispatcher W) (km : Option (KeySource W))
    (egress : Option (IEgress W)) :
    AllOrNothing d km egress ↔
      ¬ (egress ≠ none ∧ d.lookup opcodeEgressRoute = none ∧
        km ≠ none ∧ d.lookup opcodeGetInviteKey ≠ none) := by
  have registered := registerDefaultHandlers_registered d km egress
  unfold AllOrNothing
  generalize registerDefaultHandlers (some d) km egress = outcome at registered
  cases registered with
  | refused given taken =>
    constructor
    · rintro - ⟨_, free, _⟩
      exact taken free
    · rintro - _ _ ⟨⟩
      exact ⟨fun _ _ => rfl, nofun⟩
  | half free given taken unchanged table =>
    constructor
    · rintro whole ⟨present, empty, _⟩
      obtain ⟨route, rfl⟩ := Option.ne_none_iff_exists'.mp present
      have same := (whole _ _ rfl).1 _ rfl
      have added := table opcodeEgressRoute
      rw [same, empty] at added
      simp [egressRoute] at added
    · rintro clear _ _ ⟨⟩
      refine ⟨fun _ _ => ?_, nofun⟩
      by_contra changed
      have present : egress ≠ none := fun absent => changed (unchanged absent)
      exact clear ⟨present, free present, given, taken⟩
  | done free free' table =>
    constructor
    · rintro - ⟨_, _, given, taken⟩
      exact taken (free' given)
    · rintro - _ _ ⟨⟩
      refine ⟨nofun, fun _ opcode => ⟨table opcode, ?_⟩⟩
      by_contra both
      obtain ⟨taken, added⟩ := not_or.mp both
      rcases defaults_given added with ⟨rfl, given⟩ | ⟨rfl, given⟩
      · exact taken (free given)
      · exact taken (free' given)

/-- The place of GetInviteKey is taken: EgressRoute has been registered when the
error is returned. -/
theorem registration_half_done :
    let keys : KeySource Unit := fun _ world => (.ok [], world)
    let egress : IEgress Unit := fun _ _ world => (none, world)
    let d := (Dispatcher.new.registerSysCall opcodeGetInviteKey (getInviteKey keys)).2
    ¬ AllOrNothing d (some keys) (some egress) := by
  intro keys egress d whole
  have unchanged := (whole (.error errAlreadyRegistered)
    (d.registerSysCall opcodeEgressRoute (egressRoute egress)).2 rfl).1 _ rfl
  have absent : d.lookup opcodeEgressRoute = none := rfl
  have added := lookup_registerSysCall d opcodeEgressRoute opcodeEgressRoute (egressRoute egress)
  rw [unchanged, absent] at added
  simp at added

section Syscalls
variable {d : Dispatcher W} {later : Dispatcher (W × List Call)} {did : DID} {world : W}
  {payload data rest : List UInt8}

/-- After RegisterDefaultHandlers with an egress and a key manager. -/
theorem registered_lookup {km : KeySource W} {egress : IEgress W} {later : Dispatcher W}
    (registered : registerDefaultHandlers (some d) (some km) (some egress) =
      (.ok (), some later)) :
    later.lookup opcodeEgressRoute = some (egressRoute egress) ∧
      later.lookup opcodeGetInviteKey = some (getInviteKey km) := by
  have outcome := registerDefaultHandlers_registered d (some km) (some egress)
  rw [registered] at outcome
  cases outcome with
  | done free free' table =>
    rw [table, table, free (by simp), free' (by simp)]
    simp [defaults, egressRoute, getInviteKey, opcodes_apart]

theorem egressRoute_routes {egress : IEgress W}
    (found : later.lookup opcodeEgressRoute = some (egressRoute (recordingEgress egress)))
    (read : paramFraming.read payload = some (data, rest)) :
    (later.dispatchSysCall did opcodeEgressRoute payload (world, [])).2 =
      ((egress did data world).2, [.routeToNetwork did data]) := by
  have param : readBytesParam payload = (data, rest, success) := by
    rw [readBytesParam_eq, read]
  rcases answer : egress did data world with ⟨_ | err, after⟩ <;>
    simp [Dispatcher.dispatchSysCall, found, SyscallDescriptor.respond, egressRoute,
      makeEgressRouteHandler, param, recordingEgress, answer]

theorem egressRoute_refuses {egress : IEgress W}
    (found : later.lookup opcodeEgressRoute = some (egressRoute (recordingEgress egress)))
    (unread : paramFraming.read payload = none) :
    later.dispatchSysCall did opcodeEgressRoute payload (world, []) =
      (⟨errInvalidArgs, opcodeEgressRoute, [], did⟩, (world, [])) := by
  have param : readBytesParam payload = ([], payload, errInvalidArgs) := by
    rw [readBytesParam_eq, unread]
  have failed : errInvalidArgs ≠ success := by decide
  simp [Dispatcher.dispatchSysCall, found, SyscallDescriptor.respond, egressRoute,
    makeEgressRouteHandler, param, failed]

/-- GetInviteKey never refuses a payload. -/
theorem getInviteKey_generates {km : KeySource W}
    (found : later.lookup opcodeGetInviteKey = some (getInviteKey (recordingKeys km))) :
    (later.dispatchSysCall did opcodeGetInviteKey payload (world, [])).2 =
      ((km (requestedVersion payload) world).2, [.generateKey (requestedVersion payload)]) := by
  rcases answer : km (requestedVersion payload) world with ⟨_ | key, after⟩ <;>
    simp [Dispatcher.dispatchSysCall, found, SyscallDescriptor.respond, getInviteKey,
      makeGetInviteKeyHandler, recordingKeys, answer]

theorem egressRouteExact_iff {egress : IEgress W}
    (found : later.lookup opcodeEgressRoute = some (egressRoute (recordingEgress egress))) :
    EgressRouteExact later did payload world ↔
      ¬ ∃ data rest, data.length ≤ 65535 ∧ rest ≠ [] ∧
        payload = put 2 data.length ++ data ++ rest := by
  cases read : paramFraming.read payload with
  | none =>
    have refused := @egressRoute_refuses W later did world payload egress found read
    have foreign (data rest : List UInt8) (small : data.length ≤ 65535) :
        payload ≠ put 2 data.length ++ data ++ rest :=
      Framing.read_none_ne read (paramFraming_valid.mpr small) rest
    constructor
    · rintro - ⟨data, rest, small, -, whole⟩
      exact foreign data rest small whole
    · rintro -
      constructor
      · intro data
        rw [refused]
        constructor
        · intro called
          contradiction
        · rintro ⟨small, whole⟩
          exact absurd (whole.trans (List.append_nil _).symm) (foreign data [] small)
      · rintro -
        rw [refused]
        exact ⟨rfl, rfl⟩
  | some result =>
    obtain ⟨data, rest⟩ := result
    obtain ⟨valid, rfl⟩ := paramFraming.read_sound read
    have routed := @egressRoute_routes W later did world _ data rest egress found read
    have unique {other more : List UInt8} (small : other.length ≤ 65535)
        (same : paramFraming.encode data ++ rest = put 2 other.length ++ other ++ more) :
        data = other ∧ rest = more :=
      Framing.encode_unique valid (paramFraming_valid.mpr small) same
    constructor
    · rintro exact_ ⟨other, more, small, surplus, split⟩
      obtain ⟨rfl, rfl⟩ := unique small split
      obtain ⟨_, alone⟩ := (exact_.routes data).mp (by rw [routed])
      exact surplus (unique small (alone.trans (List.append_nil _).symm)).2
    · intro clear
      obtain rfl : rest = [] := by
        by_contra surplus
        exact clear ⟨data, rest, paramFraming_valid.mp valid, surplus, rfl⟩
      rw [List.append_nil] at routed unique ⊢
      constructor
      · intro other
        rw [routed]
        constructor
        · intro called
          obtain ⟨_, rfl⟩ := Call.routeToNetwork.inj (List.singleton_inj.mp called)
          exact ⟨paramFraming_valid.mp valid, rfl⟩
        · rintro ⟨small, same⟩
          rw [(unique small (same.trans (List.append_nil _).symm)).1]
      · intro foreign
        exact absurd rfl (foreign data (paramFraming_valid.mp valid))

theorem requestedVersion_put (version : UInt32) :
    requestedVersion (put 4 version.toNat) = version := by
  have whole : (put 4 version.toNat).take 4 = put 4 version.toNat :=
    List.take_of_length_le (by rw [put_length])
  rw [requestedVersion, if_pos (by rw [put_length]), whole, get_put version.toNat_lt,
    UInt32.ofNat_toNat]

theorem getInviteKeyExact_iff {km : KeySource W}
    (found : later.lookup opcodeGetInviteKey = some (getInviteKey (recordingKeys km))) :
    GetInviteKeyExact later did payload world ↔ payload = [] ∨ payload.length = 4 := by
  have generated := @getInviteKey_generates W later did world payload km found
  constructor
  · intro exact_
    by_contra neither
    obtain ⟨some, size⟩ := not_or.mp neither
    have other (version : UInt32) : payload ≠ put 4 version.toNat := by
      rintro rfl
      exact size (put_length 4 _)
    obtain ⟨_, silent⟩ := exact_.refuses some other
    rw [generated] at silent
    simp at silent
  · intro known
    have version : payload = [] ∧ requestedVersion payload = 0 ∨
        payload = put 4 (requestedVersion payload).toNat := by
      rcases known with rfl | size
      · exact .inl ⟨rfl, rfl⟩
      · obtain ⟨version, rest, rfl⟩ := exists_put_uint32 size.ge
        obtain rfl : rest = [] := by
          rw [List.length_append, put_length] at size
          exact List.length_eq_zero_iff.mp (by omega)
        right
        rw [List.append_nil, requestedVersion_put]
    constructor
    · intro other
      rw [generated]
      constructor
      · intro called
        obtain rfl := Call.generateKey.inj (List.singleton_inj.mp called)
        exact version
      · rintro (⟨rfl, rfl⟩ | rfl)
        · rfl
        · rw [requestedVersion_put]
    · intro some other
      rcases version with ⟨empty, _⟩ | whole
      · exact absurd empty some
      · exact absurd whole (other _)

end Syscalls

/-- On a dispatcher with the default system calls, EgressRoute is exact about its
payload unless bytes are left behind the data, and GetInviteKey only when the
payload is empty or has four bytes. -/
theorem default_syscalls_exact_iff {egress : IEgress W} {km : KeySource W}
    {d later : Dispatcher (W × List Call)}
    (registered : registerDefaultHandlers (some d) (some (recordingKeys km))
      (some (recordingEgress egress)) = (.ok (), some later))
    (did : DID) (payload : List UInt8) (world : W) :
    (EgressRouteExact later did payload world ↔
      ¬ ∃ data rest, data.length ≤ 65535 ∧ rest ≠ [] ∧
        payload = put 2 data.length ++ data ++ rest) ∧
    (GetInviteKeyExact later did payload world ↔ payload = [] ∨ payload.length = 4) := by
  obtain ⟨first, second⟩ := registered_lookup registered
  exact ⟨egressRouteExact_iff first, getInviteKeyExact_iff second⟩

/-- The generator of the recorded key, registered for version 0. -/
def recordedManager : KeyManager :=
  KeyManager.new.registerGenerator v1keytype
    ((KeyGeneratorV1.new (some recordedIdentity) (utf8 "127.0.0.1:9000") recordedKey).generateKey
      signer)

theorem recordedManager_safe (version : UInt32) : (recordedManager.generateKey version).Safe := by
  rw [KeyManager.generateKey, recordedManager, KeyManager.registerGenerator]
  by_cases first : version = v1keytype
  · subst first
    rw [AList.lookup_insert]
    dsimp only
    rw [generateKey_ok (by decide) rfl]
    exact Outcome.safe_ok _
  · rw [AList.lookup_insert_ne first]
    exact Outcome.safe_error _

def recordedKeys : KeySource Unit := managerKeys (fun _ => recordedManager) fun _ =>
  recordedManager_safe

theorem default_syscalls_registered :
    ∃ later, registerDefaultHandlers (some .new) (some (recordingKeys recordedKeys))
      (some (recordingEgress fun _ _ world => (none, world))) = (.ok (), some later) :=
  ⟨_, rfl⟩

theorem default_syscalls_exact_iff_recorded : ∃ later,
    registerDefaultHandlers (some .new) (some (recordingKeys recordedKeys))
      (some (recordingEgress fun _ _ world => (none, world))) = (.ok (), some later) ∧
    EgressRouteExact later 7 [0, 1, 65] () ∧ GetInviteKeyExact later 7 [] () := by
  obtain ⟨later, registered⟩ := default_syscalls_registered
  have route := (default_syscalls_exact_iff registered 7 [0, 1, 65] ()).1
  have generate := (default_syscalls_exact_iff registered 7 [] ()).2
  refine ⟨later, registered, route.mpr ?_, generate.mpr (.inl rfl)⟩
  rintro ⟨data, rest, small, surplus, whole⟩
  have byte : paramFraming.Valid [65] := paramFraming_valid.mpr (by decide)
  have same : paramFraming.encode [65] ++ [] = paramFraming.encode data ++ rest := whole
  exact surplus (Framing.encode_unique byte (paramFraming_valid.mpr small) same).2.symm

/-- One byte too many for EgressRoute, three too few for GetInviteKey. -/
theorem default_syscalls_lenient : ∃ later,
    registerDefaultHandlers (some .new) (some (recordingKeys recordedKeys))
      (some (recordingEgress fun _ _ world => (none, world))) = (.ok (), some later) ∧
    ¬ EgressRouteExact later 7 [0, 1, 65, 66] () ∧ ¬ GetInviteKeyExact later 7 [1] () := by
  obtain ⟨later, registered⟩ := default_syscalls_registered
  obtain ⟨first, second⟩ := registered_lookup registered
  refine ⟨later, registered, fun exact_ => ?_, fun exact_ => ?_⟩
  · exact (egressRouteExact_iff first).mp exact_ ⟨[65], [66], by decide, by decide, by decide⟩
  · have known := (getInviteKeyExact_iff second).mp exact_
    simp at known

end GotaDaemon.ControlCenter
