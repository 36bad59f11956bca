import GotaDaemon.Stun.Message

/-! Which of several addresses in one response is taken. The walk treats the two
kinds of address attributes alike, so it is the first that decodes. -/
namespace GotaDaemon.Stun
open Go BigEndian Tlv

/-- A response that has nothing but complete attributes. -/
def listing (txID : TransactionID) (records : List (Record 4)) : List UInt8 :=
  response txID (stream records)

/-- An attribute with an IPv4 address needs no padding. -/
def mappedRecord : Record 4 where
  toEntry := testEndpoint.attribute .mapped 0 (TransactionID.copy [])
  padding := []
  aligned := by decide

/-- The address behind the NAT. -/
def otherEndpoint : Endpoint where
  ip := [198, 51, 100, 2]
  port := 12345
  family := .inl rfl

def xorRecord : Record 4 where
  toEntry := otherEndpoint.attribute .xorMapped 0 (TransactionID.copy [])
  padding := []
  aligned := by decide

variable {txID : TransactionID} {records before after : List (Record 4)} {record : Record 4}
  {addr : UDPAddr}

theorem parseSTUNResponse_listing (fits : (listing txID records).length ≤ 65535) :
    parseSTUNResponse (listing txID records) txID =
      .orElse (records.findSome? fun record => address txID record.toEntry) .noMappedAddress := by
  have small : (stream records).length ≤ 65515 := by
    rw [listing, response, List.length_append, header_length] at fits
    omega
  have length : (UInt16.ofNat (stream records).length).toNat = (stream records).length := by
    rw [UInt16.toNat_ofNat']
    omega
  have walked := @parseAttributes_stream txID [] [] records
  simp only [List.nil_append, List.append_nil, List.length_nil] at walked
  rw [listing, response, parseSTUNResponse_header, length, if_neg (by omega), if_pos small,
    List.take_length, walked, parseAttributes_short (by omega)]
  cases records.findSome? fun record => address txID record.toEntry with
  | some addr => rfl
  | none => rfl

theorem address_xorMapped (type : record.kind = 0x0020) :
    address txID record.toEntry = some addr ↔
      parseXORMappedAddress record.value txID = .ok addr := by
  rw [address_eq_parse]
  constructor
  · rintro ⟨kind, same, parsed⟩
    cases kind with
    | mapped => exact absurd (type.symm.trans same) (by decide)
    | xorMapped => exact parsed
  · intro parsed
    exact ⟨.xorMapped, type, parsed⟩

theorem address_mapped (type : record.kind = 0x0001) :
    address txID record.toEntry = some addr ↔ parseMappedAddress record.value = .ok addr := by
  rw [address_eq_parse]
  constructor
  · rintro ⟨kind, same, parsed⟩
    cases kind with
    | mapped => exact parsed
    | xorMapped => exact absurd (type.symm.trans same) (by decide)
  · intro parsed
    exact ⟨.mapped, type, parsed⟩

/-- Attributes of which neither kind decodes are passed over. -/
theorem address_none
    (noXOR : record.kind = 0x0020 → ∀ addr, parseXORMappedAddress record.value txID ≠ .ok addr)
    (noMapped : record.kind = 0x0001 → ∀ addr, parseMappedAddress record.value ≠ .ok addr) :
    address txID record.toEntry = none := by
  apply Option.eq_none_iff_forall_ne_some.mpr
  intro addr found
  obtain ⟨kind, type, parsed⟩ := address_eq_parse.mp found
  cases kind with
  | mapped => exact noMapped type addr parsed
  | xorMapped => exact noXOR type addr parsed

theorem findSome?_address (skipped : ∀ record ∈ before, address txID record.toEntry = none)
    (found : address txID record.toEntry = some addr) :
    ((before ++ record :: after).findSome? fun record => address txID record.toEntry) =
      some addr := by
  rw [List.findSome?_append, List.findSome?_eq_none_iff.mpr skipped, List.findSome?_cons, found]
  rfl

/-- Of one XOR-MAPPED-ADDRESS and any number of MAPPED-ADDRESS attributes, the
former is taken if no MAPPED-ADDRESS before it decodes, and else the first of
these that does. -/
theorem response_first_address (txID : TransactionID) (before after : List (Record 4))
    (xorMapped : Record 4) (addr : UDPAddr) (type : xorMapped.kind = 0x0020)
    (decodes : parseXORMappedAddress xorMapped.value txID = .ok addr)
    (single : ∀ record ∈ before ++ after, record.kind = 0x0020 →
      ∀ other, parseXORMappedAddress record.value txID ≠ .ok other)
    (fits : (listing txID (before ++ xorMapped :: after)).length ≤ 65535) :
    ((∀ record ∈ before, record.kind = 0x0001 →
        ∀ other, parseMappedAddress record.value ≠ .ok other) →
      parseSTUNResponse (listing txID (before ++ xorMapped :: after)) txID = .ok addr) ∧
    ∀ skipped mapped rest other, before = skipped ++ mapped :: rest →
      (∀ record ∈ skipped, record.kind = 0x0001 →
        ∀ other, parseMappedAddress record.value ≠ .ok other) →
      mapped.kind = 0x0001 → parseMappedAddress mapped.value = .ok other →
      parseSTUNResponse (listing txID (before ++ xorMapped :: after)) txID = .ok other := by
  rw [parseSTUNResponse_listing fits]
  constructor
  · intro undecodable
    have skipped : ∀ record ∈ before, address txID record.toEntry = none := by
      intro record member
      exact address_none (single record (List.mem_append_left _ member))
        (undecodable record member)
    rw [findSome?_address skipped ((address_xorMapped type).mpr decodes)]
    rfl
  · rintro skipped mapped rest other rfl undecodable kind parsed
    have passed : ∀ record ∈ skipped, address txID record.toEntry = none := by
      intro record member
      refine address_none (single record ?_) (undecodable record member)
      exact List.mem_append_left _ (List.mem_append_left _ member)
    rw [List.append_assoc, List.cons_append,
      findSome?_address passed ((address_mapped kind).mpr parsed)]
    rfl

/-- Both parts, at the two orders of the same two attributes. -/
theorem response_first_address_pair :
    parseSTUNResponse (listing (TransactionID.copy []) [xorRecord, mappedRecord])
      (TransactionID.copy []) = .ok otherEndpoint.addr ∧
    parseSTUNResponse (listing (TransactionID.copy []) [mappedRecord, xorRecord])
      (TransactionID.copy []) = .ok testEndpoint.addr := by
  have single : ∀ record ∈ [mappedRecord], record.kind = 0x0020 → ∀ other,
      parseXORMappedAddress record.value (TransactionID.copy []) ≠ .ok other := by
    intro record member type
    obtain rfl := List.mem_singleton.mp member
    exact absurd type (by decide)
  have first := response_first_address (TransactionID.copy []) [] [mappedRecord] xorRecord
    otherEndpoint.addr rfl (by decide) single (by decide)
  have second := response_first_address (TransactionID.copy []) [mappedRecord] [] xorRecord
    otherEndpoint.addr rfl (by decide) single (by decide)
  exact ⟨first.1 (by simp), second.2 [] mappedRecord [] _ rfl (by simp) rfl (by decide)⟩

/-- A MAPPED-ADDRESS in front is taken, although an XOR-MAPPED-ADDRESS with
another address follows. -/
theorem mapped_address_first :
    parseXORMappedAddress xorRecord.value (TransactionID.copy []) = .ok otherEndpoint.addr ∧
    parseSTUNResponse (listing (TransactionID.copy []) [mappedRecord, xorRecord])
      (TransactionID.copy []) = .ok testEndpoint.addr ∧
    testEndpoint.addr ≠ otherEndpoint.addr := by
  refine ⟨by decide, ?_, by decide⟩
  rw [parseSTUNResponse_listing (by decide)]
  decide

end GotaDaemon.Stun
