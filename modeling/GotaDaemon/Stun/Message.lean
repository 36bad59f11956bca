import GotaDaemon.Stun.Attributes

/-! Whole responses: the header, the declared length and the attributes. -/
namespace GotaDaemon.Stun
open Go BigEndian Tlv
/-- The first 20 bytes of a message. -/
def fields (msgType msgLen : UInt16) (cookie : UInt32) (id : TransactionID) : List UInt8 :=
  put 2 msgType.toNat ++ (put 2 msgLen.toNat ++ (put 4 cookie.toNat ++ id.val))

/-- The header of a Binding Success Response. -/
def header (msgLen : UInt16) (txID : TransactionID) : List UInt8 :=
  fields 0x0101 msgLen magicCookie txID

theorem Endpoint.value_fits (endpoint : Endpoint) (kind : AddressKind) (ignored : UInt8)
    (txID : TransactionID) :
    (endpoint.value kind ignored txID).length < 2 ^ 16 := by
  have family := endpoint.family
  rw [Endpoint.value, value_length, kind.maskIP_length (by omega)]
  omega

/-- The attribute that carries an endpoint. -/
def Endpoint.attribute (endpoint : Endpoint) (kind : AddressKind) (ignored : UInt8)
    (txID : TransactionID) : Entry where
  kind := kind.type
  value := endpoint.value kind ignored txID
  fits := endpoint.value_fits kind ignored txID

/-- A Binding Success Response with these attributes. -/
def response (txID : TransactionID) (attrs : List UInt8) : List UInt8 :=
  header (UInt16.ofNat attrs.length) txID ++ attrs

/-- Complete attributes that carry no address, followed by a complete attribute
that carries this one. -/
def Located (txID : TransactionID) (attrs : List UInt8) (addr : UDPAddr) : Prop :=
  ∃ (skipped : List (Record 4)) (found : Entry) (rest : List UInt8),
    attrs = stream skipped ++ (found.bytes ++ rest) ∧
    (∀ record ∈ skipped, address txID record.toEntry = none) ∧
    (found.kind = 0x0020 ∧ parseXORMappedAddress found.value txID = .ok addr ∨
      found.kind = 0x0001 ∧ parseMappedAddress found.value = .ok addr)

/-- The length that the header declares. -/
def declared (data : List UInt8) : Nat := get ((data.drop 2).take 2)

/-- An attribute that needs a byte of padding. -/
def software : Record 4 where
  kind := 0x8022
  value := [1, 2, 3]
  fits := by decide
  padding := [9]
  aligned := by decide

def testEndpoint : Endpoint where
  ip := [192, 0, 2, 1]
  port := 32853
  family := .inl rfl

variable {txID : TransactionID} {data body : List UInt8}

section Header
variable {msgType msgLen : UInt16} {cookie : UInt32} {id : TransactionID}

@[simp] theorem fields_length : (fields msgType msgLen cookie id).length = 20 := by
  simp only [fields, List.length_append, put_length, id.property]

@[simp] theorem header_length : (header msgLen txID).length = 20 := fields_length

theorem exists_fields (long : 20 ≤ data.length) :
    ∃ msgType msgLen cookie id body, data = fields msgType msgLen cookie id ++ body := by
  obtain ⟨msgType, data, rfl⟩ := exists_put_uint16 (show 2 ≤ data.length by omega)
  rw [List.length_append, put_length] at long
  obtain ⟨msgLen, data, rfl⟩ := exists_put_uint16 (show 2 ≤ data.length by omega)
  rw [List.length_append, put_length] at long
  obtain ⟨cookie, data, rfl⟩ := exists_put_uint32 (show 4 ≤ data.length by omega)
  rw [List.length_append, put_length] at long
  have twelve : (data.take 12).length = 12 := List.length_take_of_le (by omega)
  refine ⟨msgType, msgLen, cookie, ⟨data.take 12, twelve⟩, data.drop 12, ?_⟩
  simp only [fields, List.append_assoc, List.take_append_drop]

theorem parseSTUNResponse_short (short : data.length < 20) :
    parseSTUNResponse data txID = .error .tooShort := by
  rw [parseSTUNResponse, Outcome.require_neg (by omega)]
  rfl

/-- The checks on the header, read off its fields. -/
theorem parseSTUNResponse_fields :
    parseSTUNResponse (fields msgType msgLen cookie id ++ body) txID = (do
    .require (msgType = 0x0101) (.unexpectedType msgType)
    .require (cookie = magicCookie) (.invalidCookie cookie)
    .require (id = txID) .txIDMismatch
    .require (msgLen.toNat ≤ body.length) .truncated
    let attrs ← slice (fields msgType msgLen cookie id ++ body) 20 (20 + msgLen).toNat
    parseAttributes attrs id 0) := by
  have type : uint16At (fields msgType msgLen cookie id ++ body) 0 =
      (.ok msgType : Outcome ParseError UInt16) := by
    simp only [fields, List.append_assoc]
    exact uint16At_put [] _ msgType
  have length : uint16At (fields msgType msgLen cookie id ++ body) 2 =
      (.ok msgLen : Outcome ParseError UInt16) := by
    have read :=
      @uint16At_put ParseError (put 2 msgType.toNat) (put 4 cookie.toNat ++ (id.val ++ body)) msgLen
    rw [put_length] at read
    simpa only [fields, List.append_assoc] using read
  have third : uint32At (fields msgType msgLen cookie id ++ body) 4 =
      (.ok cookie : Outcome ParseError UInt32) := by
    have read :=
      @uint32At_append ParseError (put 2 msgType.toNat ++ put 2 msgLen.toNat) (id.val ++ body) _
      (put_length 4 cookie.toNat)
    rw [List.length_append, put_length, put_length, get_put cookie.toNat_lt, UInt32.ofNat_toNat]
      at read
    simpa only [fields, List.append_assoc] using read
  have sliced : slice (fields msgType msgLen cookie id ++ body) 8 20 =
      (.ok id.val : Outcome ParseError (List UInt8)) := by
    refine slice_eq_ok.mpr ⟨put 2 msgType.toNat ++ (put 2 msgLen.toNat ++ put 4 cookie.toNat),
      body, ?_, ?_, ?_⟩
    · simp only [fields, List.append_assoc]
    · simp only [List.length_append, put_length]
    · rw [id.property]
  have copied : TransactionID.copy id.val = id := Subtype.ext (TransactionID.copy_val id.property)
  have total : 20 + msgLen.toNat ≤ (fields msgType msgLen cookie id ++ body).length ↔
      msgLen.toNat ≤ body.length := by
    rw [List.length_append, fields_length]
    omega
  rw [parseSTUNResponse, Outcome.require_pos (by simp), Outcome.bind_ok, type, Outcome.bind_ok,
    length, Outcome.bind_ok,
    third, Outcome.bind_ok, sliced, Outcome.bind_ok, copied, Outcome.require_congr total]

/-- Up to 65515 bytes the bound of the slice is the declared length. -/
theorem slice_declared (small : msgLen.toNat ≤ 65515) (enough : msgLen.toNat ≤ body.length) :
    slice (fields msgType msgLen cookie id ++ body) 20 (20 + msgLen).toNat =
      (.ok (body.take msgLen.toNat) : Outcome ParseError (List UInt8)) := by
  have bound : (20 + msgLen).toNat = 20 + msgLen.toNat := by
    rw [UInt16.toNat_add, show (20 : UInt16).toNat = 20 from rfl]
    omega
  refine slice_eq_ok.mpr ⟨fields msgType msgLen cookie id, body.drop msgLen.toNat, ?_,
    fields_length, ?_⟩
  · rw [List.append_assoc, List.take_append_drop]
  · rw [List.length_take_of_le enough, bound]

/-- From 65516 on it wraps around to less than 20. -/
theorem slice_wrapped (large : 65515 < msgLen.toNat) :
    slice data 20 (20 + msgLen).toNat =
      (.panic .sliceBoundsOutOfRange : Outcome ParseError (List UInt8)) := by
  have bound : (20 + msgLen).toNat < 20 := by
    have below := msgLen.toNat_lt
    rw [UInt16.toNat_add, show (20 : UInt16).toNat = 20 from rfl]
    omega
  rw [slice, if_neg (by omega)]

/-- What becomes of a response to the transaction. -/
theorem parseSTUNResponse_header : parseSTUNResponse (header msgLen txID ++ body) txID =
    if body.length < msgLen.toNat then .error .truncated
    else if msgLen.toNat ≤ 65515 then parseAttributes (body.take msgLen.toNat) txID 0
    else .panic .sliceBoundsOutOfRange := by
  rw [header, parseSTUNResponse_fields, Outcome.require_pos rfl, Outcome.require_pos rfl,
    Outcome.require_pos rfl,
    Outcome.bind_ok, Outcome.bind_ok, Outcome.bind_ok]
  split
  · rw [Outcome.require_neg (by omega)]
    rfl
  · rw [Outcome.require_pos (by omega), Outcome.bind_ok]
    split
    · rw [slice_declared (by omega) (by omega)]
      rfl
    · rw [slice_wrapped (by omega)]
      rfl

/-- Everything else is refused. -/
theorem parseSTUNResponse_foreign (foreign : ∀ msgLen body, data ≠ header msgLen txID ++ body) :
    ∃ err, parseSTUNResponse data txID = .error err := by
  by_cases short : data.length < 20
  · exact ⟨_, parseSTUNResponse_short short⟩
  obtain ⟨msgType, msgLen, cookie, id, body, rfl⟩ := exists_fields (Nat.le_of_not_lt short)
  rw [parseSTUNResponse_fields]
  by_cases type : msgType = 0x0101
  · by_cases magic : cookie = magicCookie
    · by_cases same : id = txID
      · subst type magic same
        exact absurd rfl (foreign msgLen body)
      · rw [Outcome.require_pos type, Outcome.require_pos magic, Outcome.require_neg same]
        exact ⟨_, rfl⟩
    · rw [Outcome.require_pos type, Outcome.require_neg magic]
      exact ⟨_, rfl⟩
  · rw [Outcome.require_neg type]
    exact ⟨_, rfl⟩

end Header

/-- The parsers of the two attributes never panic, and the parser of responses
panics only when a response to the transaction is so long that the slice bound
wraps around. -/
theorem parser_safe_iff (data : List UInt8) (txID : TransactionID) :
    (∀ val, (parseXORMappedAddress val txID).Safe ∧ (parseMappedAddress val).Safe) ∧
    ((parseSTUNResponse data txID).Safe ↔
      ¬ ∃ msgLen body, data = header msgLen txID ++ body ∧ 65516 ≤ msgLen.toNat ∧
      msgLen.toNat ≤ body.length) := by
  refine ⟨fun val => ⟨parseXORMappedAddress_safe, parseMappedAddress_safe⟩, ?_⟩
  constructor
  · rintro safe ⟨msgLen, body, rfl, large, enough⟩
    rw [parseSTUNResponse_header, if_neg (by omega), if_neg (by omega)] at safe
    exact Outcome.not_safe_panic _ safe
  · intro small
    by_cases known : ∃ msgLen body, data = header msgLen txID ++ body
    · obtain ⟨msgLen, body, rfl⟩ := known
      rw [parseSTUNResponse_header]
      split
      · exact Outcome.safe_error _
      · rw [if_pos]
        · exact parseAttributes_safe _ 0
        · by_contra large
          exact small ⟨msgLen, body, rfl, by omega, by omega⟩
    · have foreign : ∀ msgLen body, data ≠ header msgLen txID ++ body := by
        intro msgLen body same
        exact known ⟨msgLen, body, same⟩
      obtain ⟨err, refused⟩ := parseSTUNResponse_foreign foreign
      rw [refused]
      exact Outcome.safe_error err

/-- A header that declares 65516 bytes of attributes, and all of them. -/
theorem declared_length_wraps :
    parseSTUNResponse (header 65516 (TransactionID.copy []) ++ List.replicate 65516 0)
      (TransactionID.copy []) =
      .panic .sliceBoundsOutOfRange := by
  rw [parseSTUNResponse_header, if_neg, if_neg]
  · decide
  · rw [List.length_replicate]
    decide

theorem parseAttributes_located (before : List UInt8) {attrs : List UInt8} {addr : UDPAddr} :
    parseAttributes (before ++ attrs) txID before.length = .ok addr ↔ Located txID attrs addr := by
  have decodes : ∀ found, address txID found = some addr ↔
      (found.kind = 0x0020 ∧ parseXORMappedAddress found.value txID = .ok addr ∨
        found.kind = 0x0001 ∧ parseMappedAddress found.value = .ok addr) := by
    intro found
    rw [address_eq_parse]
    constructor
    · rintro ⟨kind, type, parsed⟩
      cases kind with
      | mapped => exact .inr ⟨type, parsed⟩
      | xorMapped => exact .inl ⟨type, parsed⟩
    · rintro (⟨type, parsed⟩ | ⟨type, parsed⟩)
      · exact ⟨.xorMapped, type, parsed⟩
      · exact ⟨.mapped, type, parsed⟩
  simp only [parseAttributes_ok, Located, decodes]

theorem parseSTUNResponse_response {attrs : List UInt8} {addr : UDPAddr}
    (located : Located txID attrs addr) (fits : attrs.length ≤ 65515) (beyond : List UInt8) :
    parseSTUNResponse (response txID attrs ++ beyond) txID = .ok addr := by
  have length : (UInt16.ofNat attrs.length).toNat = attrs.length := by
    rw [UInt16.toNat_ofNat']
    omega
  rw [response, List.append_assoc, parseSTUNResponse_header, length, if_neg (by simp), if_pos fits,
    List.take_left]
  exact (parseAttributes_located []).mpr located

/-- Behind attributes without an address, the address of an attribute is found
whatever its kind and whatever follows. -/
theorem response_round_trip (txID : TransactionID) (endpoint : Endpoint) (kind : AddressKind)
    (ignored : UInt8) (others : List (Record 4)) (after beyond : List UInt8)
    (undecodable : ∀ record ∈ others, ∀ other, ¬ Carries txID record.toEntry other)
    (fits : (stream others ++ ((endpoint.attribute kind ignored txID).bytes ++ after)).length ≤
      65515) :
    parseSTUNResponse
      (response txID (stream others ++ ((endpoint.attribute kind ignored txID).bytes ++ after)) ++
        beyond) txID =
        .ok endpoint.addr := by
  apply parseSTUNResponse_response _ fits
  apply (parseAttributes_located []).mp
  refine parseAttributes_ok.mpr ⟨others, endpoint.attribute kind ignored txID, after, rfl, ?_, ?_⟩
  · intro record member
    apply Option.eq_none_iff_forall_ne_some.mpr
    intro addr found
    obtain ⟨other, carries, _⟩ := address_eq_some.mp found
    exact undecodable record member other carries
  · exact address_eq_some.mpr ⟨endpoint, ⟨kind, ignored, [], rfl, (List.append_nil _).symm⟩, rfl⟩

theorem response_round_trip_padded :
    parseSTUNResponse (response (TransactionID.copy []) (stream [software] ++
      ((testEndpoint.attribute .xorMapped 0 (TransactionID.copy [])).bytes ++ [7])) ++ [8])
        (TransactionID.copy []) =
        .ok { ip := [192, 0, 2, 1], port := 32853 } := by
  refine response_round_trip _ testEndpoint .xorMapped 0 [software] [7] [8] ?_ (by decide)
  rintro record member other ⟨kind, _, _, type, _⟩
  obtain rfl := List.mem_singleton.mp member
  cases kind <;> exact absurd type (by decide)

section Agreement
variable {msgType msgLen : UInt16} {cookie : UInt32} {id : TransactionID} {other : List UInt8}

theorem declared_fields : declared (fields msgType msgLen cookie id ++ body) = msgLen.toNat := by
  simp only [declared, fields, List.append_assoc]
  rw [List.drop_left' (put_length 2 msgType.toNat), List.take_left' (put_length 2 msgLen.toNat),
    get_put msgLen.toNat_lt]

/-- Nothing behind the declared length is looked at. -/
theorem parseSTUNResponse_beyond {attrs : List UInt8} (length : attrs.length = msgLen.toNat)
    (beyond : List UInt8) :
    parseSTUNResponse (fields msgType msgLen cookie id ++ (attrs ++ beyond)) txID =
      parseSTUNResponse (fields msgType msgLen cookie id ++ attrs) txID := by
  have sliced :
      slice (fields msgType msgLen cookie id ++ (attrs ++ beyond)) 20 (20 + msgLen).toNat =
        (slice (fields msgType msgLen cookie id ++ attrs) 20 (20 + msgLen).toNat :
          Outcome ParseError (List UInt8)) := by
    by_cases small : msgLen.toNat ≤ 65515
    · rw [slice_declared small (by simp; omega), slice_declared small (by omega), ← length,
        List.take_left,
        List.take_length]
    · rw [slice_wrapped (by omega), slice_wrapped (by omega)]
  have enough : msgLen.toNat ≤ (attrs ++ beyond).length ↔ msgLen.toNat ≤ attrs.length := by
    rw [List.length_append]
    omega
  rw [parseSTUNResponse_fields, parseSTUNResponse_fields, sliced, Outcome.require_congr enough]

theorem parseSTUNResponse_agree
    (same : data.take (20 + declared data) = other.take (20 + declared data)) :
    parseSTUNResponse other txID = parseSTUNResponse data txID := by
  by_cases enough : 20 + declared data ≤ data.length
  · obtain ⟨msgType, msgLen, cookie, id, body, rfl⟩ := exists_fields (Nat.le_of_add_right_le enough)
    rw [declared_fields, List.length_append, fields_length] at enough
    have taken : (body.take msgLen.toNat).length = msgLen.toNat := List.length_take_of_le (by omega)
    have split :
        other = fields msgType msgLen cookie id ++
          (body.take msgLen.toNat ++ other.drop (20 + msgLen.toNat)) := by
      rw [declared_fields, ← fields_length, List.take_length_add_append, fields_length] at same
      rw [← List.append_assoc, same, List.take_append_drop]
    rw [split, parseSTUNResponse_beyond taken]
    conv => rhs; rw [← List.take_append_drop msgLen.toNat body, parseSTUNResponse_beyond taken]
  · rw [List.take_of_length_le (by omega)] at same
    have lengths := congrArg List.length same
    rw [List.length_take] at lengths
    rw [List.take_of_length_le (by omega)] at same
    rw [same]

end Agreement

/-- However the bytes are read as complete attributes, the walk stops at the first
of them with an address or finds one behind them. -/
theorem located_behind {records : List (Record 4)} {tail : List UInt8} {addr : UDPAddr}
    (parsed : parseAttributes (stream records ++ tail) txID 0 = .ok addr) :
    (records.findSome? fun record => address txID record.toEntry) = some addr ∨
      (∀ record ∈ records, address txID record.toEntry = none) ∧ Located txID tail addr := by
  have walked := @parseAttributes_stream txID [] tail records
  rw [List.nil_append, List.nil_append, List.length_nil, parsed] at walked
  cases first : records.findSome? fun record => address txID record.toEntry with
  | some found =>
    rw [first] at walked
    cases walked
    exact .inl rfl
  | none =>
    rw [first] at walked
    exact .inr ⟨List.findSome?_eq_none_iff.mp first,
      (parseAttributes_located (stream records)).mp walked.symm⟩

/-- A returned address comes from a response to the transaction, from the first
attribute in it that carries one. However the attributes are read as complete
attributes, it is the address of one of them or stands behind them. Bytes behind
the declared length have no influence. -/
theorem response_sound (data : List UInt8) (txID : TransactionID) :
    (∀ addr, parseSTUNResponse data txID = .ok addr →
      ∃ msgLen attrs beyond, data = header msgLen txID ++ (attrs ++ beyond) ∧
      attrs.length = msgLen.toNat ∧
        Located txID attrs addr ∧
        ∀ (records : List (Record 4)) tail, attrs = stream records ++ tail →
          (records.findSome? fun record => address txID record.toEntry) = some addr ∨
          (∀ record ∈ records, address txID record.toEntry = none) ∧ Located txID tail addr) ∧
    ∀ other, data.take (20 + declared data) = other.take (20 + declared data) →
      parseSTUNResponse other txID = parseSTUNResponse data txID := by
  refine ⟨fun addr parsed => ?_, fun other same => parseSTUNResponse_agree same⟩
  by_cases known : ∃ msgLen body, data = header msgLen txID ++ body
  · obtain ⟨msgLen, body, rfl⟩ := known
    rw [parseSTUNResponse_header] at parsed
    split at parsed
    · contradiction
    · split at parsed
      · refine ⟨msgLen, body.take msgLen.toNat, body.drop msgLen.toNat, ?_,
          List.length_take_of_le (by omega),
          (parseAttributes_located []).mp parsed, ?_⟩
        · rw [List.take_append_drop]
        · intro records tail whole
          rw [whole] at parsed
          exact located_behind parsed
      · contradiction
  · have foreign : ∀ msgLen body, data ≠ header msgLen txID ++ body := by
      intro msgLen body same
      exact known ⟨msgLen, body, same⟩
    obtain ⟨err, refused⟩ := parseSTUNResponse_foreign foreign
    rw [refused] at parsed
    contradiction

/-- The first part of the soundness theorem at a response with one attribute, the
second at the same response with a byte behind it. -/
theorem response_sound_single :
    (∃ msgLen attrs beyond,
      response (TransactionID.copy [])
        (testEndpoint.attribute .mapped 0 (TransactionID.copy [])).bytes =
        header msgLen (TransactionID.copy []) ++ (attrs ++ beyond) ∧ attrs.length = msgLen.toNat ∧
      Located (TransactionID.copy []) attrs testEndpoint.addr) ∧
    parseSTUNResponse
      (response (TransactionID.copy [])
        (testEndpoint.attribute .mapped 0 (TransactionID.copy [])).bytes ++ [1])
      (TransactionID.copy []) = .ok testEndpoint.addr := by
  have located :
    Located (TransactionID.copy []) (testEndpoint.attribute .mapped 0 (TransactionID.copy [])).bytes
      testEndpoint.addr :=
    ⟨[], testEndpoint.attribute .mapped 0 (TransactionID.copy []), [],
      by simp, by simp, .inr ⟨rfl, by decide⟩⟩
  have parsed := parseSTUNResponse_response located (by decide) []
  rw [List.append_nil] at parsed
  obtain ⟨sound, agree⟩ := response_sound
    (response (TransactionID.copy [])
      (testEndpoint.attribute .mapped 0 (TransactionID.copy [])).bytes)
    (TransactionID.copy [])
  obtain ⟨msgLen, attrs, beyond, split, length, placed, _⟩ := sound _ parsed
  exact ⟨⟨msgLen, attrs, beyond, split, length, placed⟩, (agree _ (by decide)).trans parsed⟩

end GotaDaemon.Stun
