import GotaDaemon.Core.Tlv
import GotaDaemon.Stun.Addresses

/-! The walk over the attributes of a response. Wherever the walk stands, the
bytes before it are complete attributes. -/
namespace GotaDaemon.Stun
open Go BigEndian Tlv
variable {txID : TransactionID}

theorem addressOf_type (kind : AddressKind) (val : List UInt8) : addressOf kind.type val txID =
    match kind.parse val txID with
    | .ok addr => .ok (some addr)
    | .error _ => .ok none
    | .panic reason => .panic reason := by
  cases kind <;> rfl

theorem addressOf_foreign {attrType : UInt16} (foreign : ∀ kind : AddressKind, attrType ≠ kind.type)
    (val : List UInt8) :
    addressOf attrType val txID = .ok none := by
  have notXOR : attrType ≠ 0x0020 := foreign .xorMapped
  have notMapped : attrType ≠ 0x0001 := foreign .mapped
  simp only [addressOf, if_neg notXOR, if_neg notMapped]

theorem addressOf_total (txID : TransactionID) (attrType : UInt16) (val : List UInt8) :
    ∃ found, addressOf attrType val txID = .ok found := by
  by_cases known : ∃ kind : AddressKind, attrType = kind.type
  · obtain ⟨kind, rfl⟩ := known
    rw [addressOf_type]
    cases parsed : kind.parse val txID with
    | ok addr => exact ⟨some addr, rfl⟩
    | error => exact ⟨none, rfl⟩
    | panic reason => exact absurd parsed (kind.parse_safe val reason)
  · exact ⟨none, addressOf_foreign (not_exists.mp known) val⟩

theorem parseAttributes_safe (attrs : List UInt8) (idx : Nat) :
    (parseAttributes attrs txID idx).Safe := by
  rw [parseAttributes]
  split
  · refine (safe_uint16At (by omega)).bind fun attrType _ => ?_
    refine (safe_uint16At (by omega)).bind fun attrLen _ => ?_
    refine Outcome.safe_require.bind fun _ checked => ?_
    have complete := Outcome.require_eq_ok.mp checked
    refine (safe_slice (by omega) complete).bind fun val _ => ?_
    obtain ⟨found, total⟩ := addressOf_total txID attrType val
    rw [total, Outcome.bind_ok]
    cases found with
    | some addr => exact Outcome.safe_ok addr
    | none => exact parseAttributes_safe attrs (idx + (4 + (attrLen.toNat + 3) / 4 * 4))
  · exact Outcome.safe_error _
termination_by attrs.length - idx

/-- The address an attribute carries, if it is an address attribute that decodes. -/
def address (txID : TransactionID) (entry : Entry) : Option UDPAddr :=
  match addressOf entry.kind entry.value txID with
  | .ok found => found
  | _ => none

theorem addressOf_eq (entry : Entry) :
    addressOf entry.kind entry.value txID = .ok (address txID entry) := by
  obtain ⟨found, total⟩ := addressOf_total txID entry.kind entry.value
  rw [address, total]

theorem address_eq_parse {entry : Entry} {addr : UDPAddr} : address txID entry = some addr ↔
    ∃ kind : AddressKind, entry.kind = kind.type ∧ kind.parse entry.value txID = .ok addr := by
  constructor
  · intro found
    rw [address] at found
    by_cases known : ∃ kind : AddressKind, entry.kind = kind.type
    · obtain ⟨kind, type⟩ := known
      rw [type, addressOf_type] at found
      refine ⟨kind, type, ?_⟩
      cases parsed : kind.parse entry.value txID with
      | ok other =>
        rw [parsed] at found
        cases found
        rfl
      | error | panic =>
        rw [parsed] at found
        cases found
    · rw [addressOf_foreign (not_exists.mp known)] at found
      cases found
  · rintro ⟨kind, type, parsed⟩
    rw [address, type, addressOf_type, parsed]

/-- An address attribute whose value begins with the encoding of the endpoint. -/
def Carries (txID : TransactionID) (entry : Entry) (endpoint : Endpoint) : Prop :=
  ∃ (kind : AddressKind) (ignored : UInt8) (extra : List UInt8),
    entry.kind = kind.type ∧ entry.value = endpoint.value kind ignored txID ++ extra

theorem address_eq_some {entry : Entry} {addr : UDPAddr} : address txID entry = some addr ↔
    ∃ endpoint, Carries txID entry endpoint ∧ addr = endpoint.addr := by
  rw [address_eq_parse]
  constructor
  · rintro ⟨kind, type, parsed⟩
    obtain ⟨endpoint, ignored, extra, value, same⟩ := parse_eq_ok.mp parsed
    exact ⟨endpoint, ⟨kind, ignored, extra, type, value⟩, same⟩
  · rintro ⟨endpoint, ⟨kind, ignored, extra, type, value⟩, same⟩
    exact ⟨kind, type, parse_eq_ok.mpr ⟨endpoint, ignored, extra, value, same⟩⟩

section Walk
variable {before after : List UInt8} {entry : Entry}

theorem parseAttributes_short {attrs : List UInt8} {idx : Nat} (short : attrs.length < idx + 4) :
    parseAttributes attrs txID idx = .error .noMappedAddress := by
  rw [parseAttributes, if_neg (by omega)]

theorem parseAttributes_head (txID : TransactionID) (before after : List UInt8)
    (kind length : UInt16) :
    parseAttributes
      (before ++ (put 2 kind.toNat ++ (put 2 length.toNat ++ after))) txID before.length = (do
      .require (length.toNat ≤ after.length) .attributeOverrun
      match ← addressOf kind (after.take length.toNat) txID with
      | some addr => return addr
      | none =>
        parseAttributes (before ++ (put 2 kind.toNat ++ (put 2 length.toNat ++ after))) txID
          (before.length + (4 + alignUp 4 length.toNat))) := by
  have second : uint16At (before ++ (put 2 kind.toNat ++ (put 2 length.toNat ++ after)))
    (before.length + 2) =
      (.ok length : Outcome ParseError UInt16) := by
    have read := @uint16At_put ParseError (before ++ put 2 kind.toNat) after length
    rwa [List.append_assoc, List.length_append, put_length] at read
  have total : (before ++ (put 2 kind.toNat ++ (put 2 length.toNat ++ after))).length =
      before.length + 4 + after.length := by
    simp only [List.length_append, put_length]
    omega
  rw [parseAttributes, if_pos (by omega), uint16At_put, Outcome.bind_ok, second, Outcome.bind_ok]
  dsimp only
  by_cases complete : length.toNat ≤ after.length
  · have sliced :
      slice (before ++ (put 2 kind.toNat ++ (put 2 length.toNat ++ after))) (before.length + 4)
        (before.length + 4 + length.toNat) =
          (.ok (after.take length.toNat) : Outcome ParseError (List UInt8)) := by
      refine slice_eq_ok.mpr ⟨before ++ (put 2 kind.toNat ++ put 2 length.toNat),
        after.drop length.toNat, ?_, ?_, ?_⟩
      · simp only [List.append_assoc, List.take_append_drop]
      · simp only [List.length_append, put_length]
      · rw [List.length_take_of_le complete]
    rw [Outcome.require_pos complete, Outcome.require_pos (by omega), Outcome.bind_ok,
      Outcome.bind_ok, sliced,
      Outcome.bind_ok]
    rfl
  · rw [Outcome.require_neg complete, Outcome.require_neg (by omega)]
    rfl

theorem parseAttributes_overrun {kind length : UInt16} (overrun : after.length < length.toNat) :
    parseAttributes
      (before ++ (put 2 kind.toNat ++ (put 2 length.toNat ++ after))) txID before.length =
      .error .attributeOverrun := by
  rw [parseAttributes_head, Outcome.require_neg (by omega)]
  rfl

/-- The walk returns the address of the attribute it stands at, or goes on behind
the padding. -/
theorem parseAttributes_entry :
    parseAttributes (before ++ (entry.bytes ++ after)) txID before.length =
      match address txID entry with
      | some addr => .ok addr
      | none => parseAttributes (before ++ (entry.bytes ++ after)) txID
          (before.length + (4 + alignUp 4 entry.value.length)) := by
  have head :=
    parseAttributes_head txID before (entry.value ++ after) entry.kind
      (UInt16.ofNat entry.value.length)
  rw [entry.length_toNat, Outcome.require_pos (by simp), Outcome.bind_ok, List.take_left,
    addressOf_eq,
    Outcome.bind_ok] at head
  simp only [Entry.bytes, List.append_assoc]
  rw [head]
  cases address txID entry <;> rfl

/-- Complete attributes are passed over up to the first that carries an address. -/
theorem parseAttributes_stream (records : List (Record 4)) :
    parseAttributes (before ++ (stream records ++ after)) txID before.length =
      match records.findSome? fun record => address txID record.toEntry with
      | some addr => .ok addr
      | none =>
        parseAttributes (before ++ (stream records ++ after)) txID
          (before ++ stream records).length := by
  induction records generalizing before with
  | nil => simp
  | cons record records ih =>
    have rest := @ih (before ++ record.bytes)
    rw [stream_cons, List.append_assoc]
    rw [List.append_assoc, List.length_append, Record.bytes_length] at rest
    rw [Record.bytes, List.append_assoc, parseAttributes_entry, List.findSome?_cons]
    cases address txID record.toEntry with
    | some addr => rfl
    | none =>
      rw [Record.bytes, List.append_assoc] at rest
      rw [rest]
      simp [List.append_assoc]

/-- What the walk accepts: complete attributes without an address, then a
complete attribute with this address. -/
theorem parseAttributes_ok {addr : UDPAddr} :
    parseAttributes (before ++ after) txID before.length = .ok addr ↔
      ∃ (skipped : List (Record 4)) (found : Entry) (rest : List UInt8),
        after = stream skipped ++ (found.bytes ++ rest) ∧
        (∀ record ∈ skipped, address txID record.toEntry = none) ∧ address txID found =
          some addr := by
  constructor
  · intro parsed
    -- the bytes left decrease; all before them is in attributes already passed
    induction left : after.length using Nat.strongRecOn generalizing before after with
    | ind size ih =>
      rcases entry_cases after with short | ⟨kind, length, rest, rfl, overrun⟩ | ⟨entry, rest, rfl⟩
      · rw [parseAttributes_short (by simp; omega)] at parsed
        contradiction
      · rw [parseAttributes_overrun overrun] at parsed
        contradiction
      · rw [parseAttributes_entry] at parsed
        cases carried : address txID entry with
        | some other =>
          rw [carried] at parsed
          cases parsed
          exact ⟨[], entry, rest, rfl, nofun, carried⟩
        | none =>
          rw [carried] at parsed
          by_cases enough : alignUp 4 entry.value.length ≤ entry.value.length + rest.length
          · obtain ⟨record, rest, rfl, rfl⟩ := entry.fill enough (by decide)
            have moved :
              parseAttributes (before ++ record.bytes ++ rest) txID
                (before ++ record.bytes).length =
                .ok addr := by
              rw [List.append_assoc, List.length_append, Record.bytes_length, Record.bytes,
                List.append_assoc]
              exact parsed
            have smaller : rest.length < size := by
              simp only [List.length_append, Entry.bytes_length] at left
              omega
            obtain ⟨skipped, found, tail, rfl, passed, decodes⟩ := ih rest.length smaller moved rfl
            refine ⟨record :: skipped, found, tail, by simp [Record.bytes], ?_, decodes⟩
            exact List.forall_mem_cons.mpr ⟨carried, passed⟩
          · dsimp only at parsed
            rw [parseAttributes_short (by simp; omega)] at parsed
            contradiction
  · rintro ⟨skipped, found, rest, rfl, passed, decodes⟩
    have none : (skipped.findSome? fun record => address txID record.toEntry) = none :=
      List.findSome?_eq_none_iff.mpr passed
    rw [parseAttributes_stream, none]
    dsimp only
    rw [← List.append_assoc, parseAttributes_entry, decodes]

end Walk

end GotaDaemon.Stun
