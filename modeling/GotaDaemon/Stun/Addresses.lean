import GotaDaemon.Stun.Response

/-! The values of the two address attributes: one byte that is ignored, the
family, the port and the address, the last two masked in an XOR-MAPPED-ADDRESS.
The decoders accept exactly these values, with anything after them. -/
namespace GotaDaemon.Stun
open Go BigEndian
variable {ε : Type} {txID : TransactionID}

section Reading

theorem uint16At_put (before after : List UInt8) (value : UInt16) :
    (uint16At (before ++ (put 2 value.toNat ++ after)) before.length : Outcome ε UInt16) =
      .ok value := by
  have sliced : (slice (before ++ (put 2 value.toNat ++ after)) before.length (before.length + 2) :
      Outcome ε (List UInt8)) = .ok (put 2 value.toNat) :=
    slice_eq_ok.mpr ⟨before, after, (List.append_assoc _ _ _).symm, rfl, by rw [put_length]⟩
  rw [uint16At, sliced, Outcome.bind_ok, get_put_uint16]
  rfl

theorem uint32At_append (before after : List UInt8) {four : List UInt8} (length : four.length = 4) :
    (uint32At (before ++ (four ++ after)) before.length : Outcome ε UInt32) =
      .ok (UInt32.ofNat (get four)) := by
  have sliced : (slice (before ++ (four ++ after)) before.length (before.length + 4) :
      Outcome ε (List UInt8)) = .ok four :=
    slice_eq_ok.mpr ⟨before, after, (List.append_assoc _ _ _).symm, rfl, by rw [length]⟩
  rw [uint32At, sliced]
  rfl

variable {data : List UInt8} {i : Nat}

theorem safe_uint16At (bound : i + 2 ≤ data.length) : (uint16At data i : Outcome ε UInt16).Safe :=
  (safe_slice (Nat.le_add_right i 2) bound).bind fun _ _ => Outcome.safe_ok _

theorem safe_uint32At (bound : i + 4 ≤ data.length) : (uint32At data i : Outcome ε UInt32).Safe :=
  (safe_slice (Nat.le_add_right i 4) bound).bind fun _ _ => Outcome.safe_ok _

end Reading

section Safety
variable {val : List UInt8}

theorem parseXORMappedAddress_safe : (parseXORMappedAddress val txID).Safe := by
  refine Outcome.safe_require.bind fun _ checked => ?_
  have long := Outcome.require_eq_ok.mp checked
  refine (safe_charAt (by omega)).bind fun family _ => ?_
  refine (safe_uint16At (by omega)).bind fun xPort _ => ?_
  dsimp only
  split
  · exact (safe_uint32At (by omega)).bind fun _ _ => Outcome.safe_ok _
  · split
    · refine Outcome.safe_require.bind fun _ checked => ?_
      have longer := Outcome.require_eq_ok.mp checked
      exact (safe_slice (by omega) longer).bind fun _ _ => Outcome.safe_ok _
    · exact Outcome.safe_error _

theorem parseMappedAddress_safe : (parseMappedAddress val).Safe := by
  refine Outcome.safe_require.bind fun _ checked => ?_
  have long := Outcome.require_eq_ok.mp checked
  refine (safe_charAt (by omega)).bind fun family _ => ?_
  refine (safe_uint16At (by omega)).bind fun port _ => ?_
  split
  · exact (safe_slice (by omega) long).bind fun _ _ => Outcome.safe_ok _
  · split
    · refine Outcome.safe_require.bind fun _ checked => ?_
      have longer := Outcome.require_eq_ok.mp checked
      exact (safe_slice (by omega) longer).bind fun _ _ => Outcome.safe_ok _
    · exact Outcome.safe_error _

end Safety

/-- An IPv4 or IPv6 address and a port. -/
structure Endpoint where
  ip : IP
  port : UInt16
  family : ip.length = 4 ∨ ip.length = 16

def Endpoint.addr (endpoint : Endpoint) : UDPAddr :=
  { ip := endpoint.ip, port := endpoint.port.toNat }

def Endpoint.code (endpoint : Endpoint) : UInt8 := if endpoint.ip.length = 4 then 0x01 else 0x02

namespace AddressKind

def type : AddressKind → UInt16
  | .mapped => 0x0001
  | .xorMapped => 0x0020

def maskPort : AddressKind → UInt16 → UInt16
  | .mapped, port => port
  | .xorMapped, port => port ^^^ 0x2112

/-- An IPv4 address is masked with the cookie, an IPv6 address with the cookie and
the transaction ID. -/
def maskIP : AddressKind → TransactionID → IP → IP
  | .mapped, _, ip => ip
  | .xorMapped, txID, ip => List.zipWith (· ^^^ ·) ip (put 4 magicCookie.toNat ++ txID.val)

theorem maskPort_maskPort (kind : AddressKind) (port : UInt16) :
    kind.maskPort (kind.maskPort port) = port := by
  cases kind with
  | mapped => rfl
  | xorMapped => rw [maskPort, maskPort, UInt16.xor_assoc, UInt16.xor_self, UInt16.xor_zero]

theorem maskIP_length (kind : AddressKind) {ip : IP} (bound : ip.length ≤ 16) :
    (kind.maskIP txID ip).length = ip.length := by
  cases kind with
  | mapped => rfl
  | xorMapped =>
    rw [maskIP, List.length_zipWith, List.length_append, put_length, txID.property]
    omega

theorem maskIP_maskIP (kind : AddressKind) {ip : IP} (bound : ip.length ≤ 16) :
    kind.maskIP txID (kind.maskIP txID ip) = ip := by
  cases kind with
  | mapped => rfl
  | xorMapped =>
    apply List.ext_getElem
    · exact ((maskIP_length .xorMapped (by rw [maskIP_length .xorMapped bound]; exact bound)).trans
        (maskIP_length .xorMapped bound))
    · intro i left right
      simp only [maskIP, List.getElem_zipWith, UInt8.xor_assoc, UInt8.xor_self, UInt8.xor_zero]

/-- The decoder of an attribute of this kind. -/
def parse (kind : AddressKind) (val : List UInt8) (txID : TransactionID) :
    Outcome AddressError UDPAddr :=
  match kind with
  | .mapped => parseMappedAddress val
  | .xorMapped => parseXORMappedAddress val txID

theorem parse_safe (kind : AddressKind) (val : List UInt8) : (kind.parse val txID).Safe := by
  cases kind with
  | mapped => exact parseMappedAddress_safe
  | xorMapped => exact parseXORMappedAddress_safe

end AddressKind

/-- The value that carries an endpoint. -/
def Endpoint.value (endpoint : Endpoint) (kind : AddressKind) (ignored : UInt8)
    (txID : TransactionID) : List UInt8 :=
  ignored :: endpoint.code ::
    (put 2 (kind.maskPort endpoint.port).toNat ++ kind.maskIP txID endpoint.ip)

section Encoding
variable {kind : AddressKind} {ignored family : UInt8} {port : UInt16} {ip extra : List UInt8}

/-- The cookie masks an IPv4 address as a number as it does byte by byte. -/
theorem put_xor_cookie (four : ip.length = 4) :
    put 4 (UInt32.ofNat (get ip) ^^^ magicCookie).toNat = AddressKind.xorMapped.maskIP txID ip := by
  have bound := get_lt ip
  rw [four] at bound
  have number : (UInt32.ofNat (get ip) ^^^ magicCookie).toNat =
      get (List.zipWith (· ^^^ ·) ip (put 4 magicCookie.toNat)) := by
    rw [get_zipWith_xor (by rw [four, put_length]), get_put magicCookie.toNat_lt, UInt32.toNat_xor,
      UInt32.toNat_ofNat', Nat.mod_eq_of_lt (by omega)]
  have length : (List.zipWith (· ^^^ ·) ip (put 4 magicCookie.toNat)).length = 4 := by
    rw [List.length_zipWith, four, put_length, Nat.min_self]
  calc put 4 (UInt32.ofNat (get ip) ^^^ magicCookie).toNat
    _ = List.zipWith (· ^^^ ·) ip (put 4 magicCookie.toNat) := by
      have whole := put_get (List.zipWith (· ^^^ ·) ip (put 4 magicCookie.toNat))
      rw [length] at whole
      rw [number, whole]
    _ = List.zipWith (· ^^^ ·) (ip ++ []) (put 4 magicCookie.toNat ++ txID.val) := by
      rw [List.zipWith_append (by rw [four, put_length]), List.zipWith_nil_left, List.append_nil]
    _ = AddressKind.xorMapped.maskIP txID ip := by rw [List.append_nil, AddressKind.maskIP]

theorem value_length :
    (ignored :: family :: (put 2 port.toNat ++ extra)).length = 4 + extra.length := by
  simp only [List.length_cons, List.length_append, put_length]
  omega

theorem port_value :
    (uint16At (ignored :: family :: (put 2 port.toNat ++ extra)) 2 : Outcome ε UInt16) = .ok port :=
  uint16At_put [ignored, family] extra port

theorem slice_value {high : Nat} (length : 4 + ip.length = high) :
    (slice (ignored :: family :: (put 2 port.toNat ++ (ip ++ extra))) 4 high :
      Outcome ε (List UInt8)) = .ok ip := by
  refine slice_eq_ok.mpr ⟨ignored :: family :: put 2 port.toNat, extra, ?_, ?_, length⟩
  · simp only [List.cons_append, List.append_assoc]
  · simp only [List.length_cons, put_length]

theorem parse_four (four : ip.length = 4) :
    kind.parse (ignored :: 0x01 :: (put 2 port.toNat ++ (ip ++ extra))) txID =
      .ok { ip := kind.maskIP txID ip, port := (kind.maskPort port).toNat } := by
  have long : 8 ≤ (ignored :: 0x01 :: (put 2 port.toNat ++ (ip ++ extra))).length := by
    rw [value_length, List.length_append]
    omega
  cases kind with
  | mapped =>
    rw [AddressKind.parse, parseMappedAddress, Outcome.require_pos long, Outcome.bind_ok,
      port_value, slice_value (by omega)]
    rfl
  | xorMapped =>
    have number : (uint32At (ignored :: 0x01 :: (put 2 port.toNat ++ (ip ++ extra))) 4 :
        Outcome AddressError UInt32) = .ok (UInt32.ofNat (get ip)) := by
      rw [uint32At, slice_value (by omega)]
      rfl
    rw [AddressKind.parse, parseXORMappedAddress, Outcome.require_pos long, Outcome.bind_ok,
      port_value, number,
      ← put_xor_cookie four]
    rfl

theorem parse_sixteen (sixteen : ip.length = 16) :
    kind.parse (ignored :: 0x02 :: (put 2 port.toNat ++ (ip ++ extra))) txID =
      .ok { ip := kind.maskIP txID ip, port := (kind.maskPort port).toNat } := by
  have long : 20 ≤ (ignored :: 0x02 :: (put 2 port.toNat ++ (ip ++ extra))).length := by
    rw [value_length, List.length_append]
    omega
  have sliced : (slice (ignored :: 0x02 :: (put 2 port.toNat ++ (ip ++ extra))) 4 20 :
      Outcome AddressError (List UInt8)) = .ok ip := slice_value (by omega)
  cases kind with
  | mapped =>
    rw [AddressKind.parse, parseMappedAddress, Outcome.require_pos (Nat.le_trans (by decide) long),
      Outcome.bind_ok,
      port_value, Outcome.require_pos long, sliced]
    rfl
  | xorMapped =>
    rw [AddressKind.parse, parseXORMappedAddress,
      Outcome.require_pos (Nat.le_trans (by decide) long),
      Outcome.bind_ok, port_value, Outcome.require_pos long, sliced]
    rfl

theorem parse_value (endpoint : Endpoint) :
    kind.parse (endpoint.value kind ignored txID ++ extra) txID = .ok endpoint.addr := by
  obtain ⟨ip, port, family⟩ := endpoint
  have bound : ip.length ≤ 16 := by omega
  have length : (kind.maskIP txID ip).length = ip.length := kind.maskIP_length bound
  simp only [Endpoint.value, Endpoint.addr, Endpoint.code, List.cons_append, List.append_assoc]
  rcases family with four | sixteen
  · rw [if_pos four, parse_four (length.trans four), kind.maskIP_maskIP bound,
      kind.maskPort_maskPort]
  · rw [if_neg (by omega), parse_sixteen (length.trans sixteen), kind.maskIP_maskIP bound,
      kind.maskPort_maskPort]

theorem parse_long {val : List UInt8} {addr : UDPAddr} (parsed : kind.parse val txID = .ok addr) :
    8 ≤ val.length := by
  cases kind with
  | mapped | xorMapped =>
    obtain ⟨_, checked, _⟩ := Outcome.bind_eq_ok.mp parsed
    exact Outcome.require_eq_ok.mp checked

/-- The family of a value that decodes, and the length it needs. -/
theorem parse_family {addr : UDPAddr}
    (parsed : kind.parse (ignored :: family :: (put 2 port.toNat ++ extra)) txID = .ok addr) :
    family = 0x01 ∨ family = 0x02 ∧ 16 ≤ extra.length := by
  cases kind with
  | mapped | xorMapped =>
    obtain ⟨_, _, parsed⟩ := Outcome.bind_eq_ok.mp parsed
    obtain ⟨_, found, parsed⟩ := Outcome.bind_eq_ok.mp parsed
    cases found
    obtain ⟨_, _, parsed⟩ := Outcome.bind_eq_ok.mp parsed
    split at parsed
    · exact .inl ‹_›
    · split at parsed
      · obtain ⟨_, checked, _⟩ := Outcome.bind_eq_ok.mp parsed
        have long := Outcome.require_eq_ok.mp checked
        rw [value_length] at long
        exact .inr ⟨‹_›, by omega⟩
      · contradiction

/-- Masking twice gives back the bytes of the packet. -/
theorem exists_endpoint (kind : AddressKind) (ignored : UInt8) (port : UInt16)
    (txID : TransactionID) (length : ip.length = 4 ∨ ip.length = 16) :
    ∃ endpoint : Endpoint,
      endpoint.addr = { ip := kind.maskIP txID ip, port := (kind.maskPort port).toNat } ∧
      endpoint.value kind ignored txID =
        ignored :: (if ip.length = 4 then 0x01 else 0x02) :: (put 2 port.toNat ++ ip) := by
  have bound : ip.length ≤ 16 := by omega
  have masked : (kind.maskIP txID ip).length = ip.length := kind.maskIP_length bound
  refine ⟨⟨kind.maskIP txID ip, kind.maskPort port, by rwa [masked]⟩, rfl, ?_⟩
  simp only [Endpoint.value, Endpoint.code, masked, kind.maskPort_maskPort,
    kind.maskIP_maskIP bound]

/-- The values that decode to an address are those that carry it. -/
theorem parse_eq_ok {val : List UInt8} {addr : UDPAddr} : kind.parse val txID = .ok addr ↔
    ∃ (endpoint : Endpoint) (ignored : UInt8) (extra : List UInt8),
      val = endpoint.value kind ignored txID ++ extra ∧ addr = endpoint.addr := by
  constructor
  · intro parsed
    have long := parse_long parsed
    obtain ⟨ignored, val, rfl⟩ := List.exists_cons_of_length_pos (show 0 < val.length by omega)
    rw [List.length_cons] at long
    obtain ⟨family, val, rfl⟩ := List.exists_cons_of_length_pos (show 0 < val.length by omega)
    rw [List.length_cons] at long
    obtain ⟨port, rest, rfl⟩ := exists_put_uint16 (show 2 ≤ val.length by omega)
    rw [List.length_append, put_length] at long
    rcases parse_family parsed with rfl | ⟨rfl, longer⟩
    · have four : (rest.take 4).length = 4 := List.length_take_of_le (by omega)
      obtain ⟨endpoint, same, carried⟩ := exists_endpoint kind ignored port txID (.inl four)
      rw [← List.take_append_drop 4 rest, parse_four four] at parsed
      refine ⟨endpoint, ignored, rest.drop 4, ?_, ?_⟩
      · simp [carried, four]
      · rw [same]
        exact (Outcome.ok.inj parsed).symm
    · have sixteen : (rest.take 16).length = 16 := List.length_take_of_le longer
      obtain ⟨endpoint, same, carried⟩ := exists_endpoint kind ignored port txID (.inr sixteen)
      rw [← List.take_append_drop 16 rest, parse_sixteen sixteen] at parsed
      refine ⟨endpoint, ignored, rest.drop 16, ?_, ?_⟩
      · simp [carried, longer]
      · rw [same]
        exact (Outcome.ok.inj parsed).symm
  · rintro ⟨endpoint, ignored, extra, rfl, rfl⟩
    exact parse_value endpoint

end Encoding

end GotaDaemon.Stun
