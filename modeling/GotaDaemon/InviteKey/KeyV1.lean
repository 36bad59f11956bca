import GotaDaemon.Go.Base64
import GotaDaemon.Go.Crypto

/-! Invite keys of version 1: KeyGeneratorV1 and KeyParserV1 of package
invitekey. Strings are byte strings; any bytes may stand in an address. -/
namespace GotaDaemon.InviteKey
open Go Base64 Ecdh

/-- The errors of the package. `other` is any error of a generator or parser
that somebody else has registered. -/
inductive KeyError where
  | peerAddressEmpty
  | peerIdentityNil
  | signingKeyEmpty
  | invalidKeyPrefix
  | tooShort
  | missingSignatureSeparator
  | decodeSignature (err : CorruptInputError)
  | signatureSize (got : Nat)
  | missingEd25519Separator
  | missingX25519Separator
  | decodeEd25519 (err : CorruptInputError)
  | ed25519Size (got : Nat)
  | decodeX25519 (err : CorruptInputError)
  | verificationFailed
  | parsePublicKey (err : String)
  | missingPrefixSeparator
  | unsupportedKeyPrefix (keyPrefix : List UInt8)
  | noParser (version : UInt32)
  | noGenerator (version : UInt32)
  | other (text : List UInt8)
  deriving DecidableEq, Repr

def KeyError.text : KeyError → List UInt8
  | .peerAddressEmpty => utf8 "peer address is empty"
  | .peerIdentityNil => utf8 "peer identity public key is nil"
  | .signingKeyEmpty => utf8 "signing private key is empty"
  | .invalidKeyPrefix => utf8 "invalid key prefix"
  | .tooShort => utf8 "invite key is too short"
  | .missingSignatureSeparator => utf8 "invalid format: missing signature separator"
  | .decodeSignature err => utf8 ("failed to decode signature: " ++ err.text)
  | .signatureSize got => utf8 ("invalid signature size: expected 64, got " ++ toString got)
  | .missingEd25519Separator => utf8 "invalid payload: missing ed25519 key separator"
  | .missingX25519Separator => utf8 "invalid payload: missing x25519 key separator"
  | .decodeEd25519 err => utf8 ("failed to decode ed25519 key: " ++ err.text)
  | .ed25519Size got => utf8 ("invalid ed25519 key size: expected 32, got " ++ toString got)
  | .decodeX25519 err => utf8 ("failed to decode x25519 key: " ++ err.text)
  | .verificationFailed => utf8 "tampering detected: signature verification failed"
  | .parsePublicKey err => utf8 ("failed to parse ecdh public key: " ++ err)
  | .missingPrefixSeparator => utf8 "invalid key format: missing prefix separator"
  | .unsupportedKeyPrefix keyPrefix => utf8 "unsupported key prefix: " ++ keyPrefix
  | .noParser version => utf8 ("no parser registered for version: " ++ toString version.toNat)
  | .noGenerator version =>
    utf8 ("key generator not registered for version: " ++ toString version.toNat)
  | .other text => text

def dash : UInt8 := 45

def bar : UInt8 := 124

/-- The signed part of a key. -/
def payloadOf (peerAddr encodedX25519 encodedEd25519 : List UInt8) : List UInt8 :=
  peerAddr ++ bar :: encodedX25519 ++ bar :: encodedEd25519

structure KeyGeneratorV1 where
  keyPrefix : List UInt8
  peerIdentity : Option PublicKey
  peerAddr : List UInt8
  signingKey : List UInt8

/-- NewKeyGeneratorV1 -/
def KeyGeneratorV1.new (peerIdentity : Option PublicKey) (peerAddr signingKey : List UInt8) :
    KeyGeneratorV1 :=
  ⟨utf8 "gota1", peerIdentity, peerAddr, signingKey⟩

/-- GenerateKey up to the signature. The type assertion on the derived public
key cannot fail. -/
def KeyGeneratorV1.payload (kg : KeyGeneratorV1) : Outcome KeyError (List UInt8) := do
  .require (kg.peerAddr ≠ []) .peerAddressEmpty
  let peerIdentity ← .orElse kg.peerIdentity .peerIdentityNil
  .require (kg.signingKey.length ≠ 0) .signingKeyEmpty
  let encodedPubKey := encodeToString peerIdentity.bytes
  let verifyingPubKey ← Ed25519.publicKey kg.signingKey
  let encodedVerifyingKey := encodeToString verifyingPubKey
  return payloadOf kg.peerAddr encodedPubKey encodedVerifyingKey

def KeyGeneratorV1.generateKey (scheme : Ed25519.Scheme) (kg : KeyGeneratorV1) :
    Outcome KeyError (List UInt8) := do
  let payload ← kg.payload
  let sigBytes ← Ed25519.sign scheme kg.signingKey payload
  return kg.keyPrefix ++ dash :: payload ++ dash :: encodeToString sigBytes

structure KeyParserV1 where
  keyPrefix : List UInt8

/-- NewKeyParserV1 -/
def KeyParserV1.new : KeyParserV1 := ⟨utf8 "gota1"⟩

def minKeyLen : Nat := 182

/-- ParseKey up to the slices for the payload and the signature. -/
def KeyParserV1.cutSignature (kp : KeyParserV1) (keyStr : List UInt8) :
    Outcome KeyError (List UInt8 × List UInt8) := do
  let prefixDash := kp.keyPrefix ++ [dash]
  .require (prefixDash <+: keyStr) .invalidKeyPrefix
  .require (minKeyLen ≤ keyStr.length) .tooShort
  let sigStart := keyStr.length - 86
  let dashIdx := sigStart - 1
  let separator ← charAt keyStr dashIdx
  .require (separator = dash) .missingSignatureSeparator
  let payload ← slice keyStr prefixDash.length dashIdx
  let signature ← slice keyStr sigStart keyStr.length
  return (payload, signature)

def KeyParserV1.parseKey (scheme : Ed25519.Scheme) (kp : KeyParserV1) (keyStr : List UInt8) :
    Outcome KeyError (PublicKey × List UInt8) := do
  let (payload, signature) ← kp.cutSignature keyStr
  let sigBytes ← .wrap (decodeString signature) .decodeSignature
  .require (sigBytes.length = Ed25519.signatureSize) (.signatureSize sigBytes.length)
  -- the payload is split from its end
  let (remainingPayload, encodedEd25519) ← splitLast bar payload .missingEd25519Separator
  let (peerAddr, encodedX25519) ← splitLast bar remainingPayload .missingX25519Separator
  .require (peerAddr ≠ []) .peerAddressEmpty
  let ed25519Bytes ← .wrap (decodeString encodedEd25519) .decodeEd25519
  .require (ed25519Bytes.length = Ed25519.publicKeySize) (.ed25519Size ed25519Bytes.length)
  let x25519Bytes ← .wrap (decodeString encodedX25519) .decodeX25519
  let verified ← Ed25519.verify scheme ed25519Bytes payload sigBytes
  .require (verified = true) .verificationFailed
  let peerIdentity ← .wrap (newPublicKey x25519Bytes) .parsePublicKey
  return (peerIdentity, peerAddr)

/-- The parts of a key as the parser cuts it. -/
structure Fields where
  peerAddr : List UInt8
  encodedX25519 : List UInt8
  encodedEd25519 : List UInt8
  signature : List UInt8
  x25519_bar : bar ∉ encodedX25519
  ed25519_bar : bar ∉ encodedEd25519
  signature_length : signature.length = 86

def Fields.payload (fields : Fields) : List UInt8 :=
  payloadOf fields.peerAddr fields.encodedX25519 fields.encodedEd25519

def Fields.render (fields : Fields) : List UInt8 :=
  utf8 "gota1" ++ dash :: fields.payload ++ dash :: fields.signature

/-- All that the parser has checked when it accepts. -/
structure Accepted (scheme : Ed25519.Scheme) (fields : Fields) (ed25519 sig : List UInt8)
    (peerIdentity : PublicKey) :
    Prop where
  peerAddr : fields.peerAddr ≠ []
  decodedSignature : decodeString fields.signature = .ok sig
  signatureSize : sig.length = Ed25519.signatureSize
  decodedEd25519 : decodeString fields.encodedEd25519 = .ok ed25519
  ed25519Size : ed25519.length = Ed25519.publicKeySize
  decodedX25519 : decodeString fields.encodedX25519 = .ok peerIdentity.bytes
  curve : peerIdentity.curve = .x25519
  verified : scheme.valid ed25519 fields.payload sig = true

theorem Fields.render_injective {first second : Fields} (same : first.render = second.render) :
    first = second := by
  obtain ⟨addr, x, ed, sig, xBar, edBar, length⟩ := first
  obtain ⟨addr', x', ed', sig', xBar', edBar', length'⟩ := second
  simp only [Fields.render, Fields.payload] at same
  obtain ⟨front, tail⟩ := List.append_inj' same (by simp [length, length'])
  obtain ⟨_, rfl⟩ := List.cons.inj tail
  obtain ⟨_, payload⟩ := List.cons.inj (List.append_cancel_left front)
  obtain ⟨addrX, rfl⟩ := last_unique payload edBar edBar'
  obtain ⟨rfl, rfl⟩ := last_unique addrX xBar xBar'
  rfl

section Generated
variable {scheme : Ed25519.Scheme} {peerIdentity : PublicKey}
  {peerAddr signingKey ed25519 sig : List UInt8}

theorem bar_encodeToString (bytes : List UInt8) : bar ∉ encodeToString bytes :=
  not_mem_encodeToString rfl bytes

/-- The fields of a key that GenerateKey makes. -/
def Fields.encoded (peerAddr : List UInt8) (peerIdentity : PublicKey) (ed25519 sig : List UInt8)
    (size : sig.length = Ed25519.signatureSize) : Fields where
  peerAddr := peerAddr
  encodedX25519 := encodeToString peerIdentity.bytes
  encodedEd25519 := encodeToString ed25519
  signature := encodeToString sig
  x25519_bar := bar_encodeToString _
  ed25519_bar := bar_encodeToString _
  signature_length := by rw [encodeToString_length, size, Ed25519.signatureSize]

theorem payload_eq_ok {message : List UInt8} (size : signingKey.length = Ed25519.privateKeySize) :
    (KeyGeneratorV1.new (some peerIdentity) peerAddr signingKey).payload = .ok message ↔
      peerAddr ≠ [] ∧ message = payloadOf peerAddr (encodeToString peerIdentity.bytes)
        (encodeToString (signingKey.drop 32)) := by
  have some : signingKey.length ≠ 0 := by simp [size, Ed25519.privateKeySize]
  simp only [KeyGeneratorV1.payload, Outcome.bind_eq_ok, Outcome.require_eq_ok,
    Outcome.orElse_eq_ok, Outcome.pure_ok,
    Outcome.ok.injEq]
  simp only [KeyGeneratorV1.new, Ed25519.publicKey_ok size, Outcome.ok.injEq, Option.some.injEq]
  constructor
  · rintro ⟨_, nonempty, _, rfl, _, _, _, rfl, rfl⟩
    exact ⟨nonempty, rfl⟩
  · rintro ⟨nonempty, rfl⟩
    exact ⟨(), nonempty, _, rfl, (), some, _, rfl, rfl⟩

theorem generateKey_ok (nonempty : peerAddr ≠ [])
    (size : signingKey.length = Ed25519.privateKeySize) :
    let fields := Fields.encoded peerAddr peerIdentity (signingKey.drop 32)
      (scheme.signature signingKey (payloadOf peerAddr (encodeToString peerIdentity.bytes)
        (encodeToString (signingKey.drop 32)))).val (scheme.signature _ _).property
    (KeyGeneratorV1.new (some peerIdentity) peerAddr signingKey).generateKey scheme =
      .ok fields.render := by
  rw [KeyGeneratorV1.generateKey, (payload_eq_ok size).mpr ⟨nonempty, rfl⟩]
  simp [KeyGeneratorV1.new, Ed25519.sign_ok size, Fields.render, Fields.encoded, Fields.payload]

end Generated

theorem cutSignature_eq_ok {keyStr : List UInt8} {parts : List UInt8 × List UInt8} :
    KeyParserV1.new.cutSignature keyStr = .ok parts ↔
      keyStr = utf8 "gota1" ++ dash :: parts.1 ++ dash :: parts.2 ∧ parts.2.length = 86 ∧
      minKeyLen ≤ keyStr.length := by
  obtain ⟨payload, signature⟩ := parts
  generalize start : utf8 "gota1" ++ [dash] = prefixDash
  have six : prefixDash.length = 6 := by rw [← start]; rfl
  simp only [KeyParserV1.cutSignature, KeyParserV1.new, start, Outcome.bind_eq_ok,
    Outcome.require_eq_ok, charAt_eq_ok,
    slice_eq_ok, Outcome.pure_ok, Outcome.ok.injEq, Prod.mk.injEq]
  rw [List.append_cons (utf8 "gota1"), start]
  constructor
  · rintro ⟨_, ⟨rest, rfl⟩, _, long, _, dashed, _, rfl, payload,
      ⟨head, after, split, headLength, payloadLength⟩,
      signature, ⟨front, last, split', frontLength, signatureLength⟩, rfl, rfl⟩
    rw [List.append_assoc] at split
    obtain ⟨rfl, rfl⟩ := List.append_inj split headLength.symm
    have total := congrArg List.length split'
    simp only [minKeyLen, List.length_append]
      at long payloadLength frontLength signatureLength total
    -- the slices leave one byte between them, the one that has been compared
    obtain ⟨separator, tail, rfl⟩ := List.exists_cons_of_length_pos (l := after) (by omega)
    obtain rfl : last = [] := List.length_eq_zero_iff.mp (by omega)
    simp only [List.length_cons] at payloadLength frontLength signatureLength total
    obtain ⟨_, rfl⟩ : front = prefixDash ++ payload ++ [separator] ∧ signature = tail := by
      refine List.append_inj' ?_ (by omega)
      simpa using split'.symm
    have between :
      (prefixDash ++ (payload ++ separator :: signature))[prefixDash.length + payload.length]? =
        some separator := by
      rw [← List.append_assoc, ← List.length_append]
      simp
    rw [List.length_append, List.length_append, List.length_cons, ← payloadLength, between,
      Option.some.injEq] at dashed
    subst dashed
    exact ⟨by simp, by omega, by simp [minKeyLen]; omega⟩
  · rintro ⟨rfl, length, long⟩
    have dashed : (prefixDash ++ payload ++ dash :: signature)[(prefixDash ++ payload).length]? =
        some dash := by simp
    have size : (prefixDash ++ payload ++ dash :: signature).length - 86 - 1 =
        (prefixDash ++ payload).length := by
      simp only [List.length_append, List.length_cons, length]
      omega
    rw [← size] at dashed
    refine ⟨(), ?_, (), long, dash, dashed, (), rfl, payload, ?_, signature, ?_, rfl, rfl⟩
    · rw [List.append_assoc]
      exact List.prefix_append _ _
    · exact ⟨prefixDash, dash :: signature, rfl, rfl, by rw [size, List.length_append]⟩
    · refine ⟨prefixDash ++ payload ++ [dash], [], by simp, ?_, ?_⟩ <;>
        simp only [List.length_append, List.length_cons, List.length_nil, length] <;> omega

/-- The minimum length follows from the sizes of what the fields decode to. -/
theorem Accepted.long {scheme : Ed25519.Scheme} {fields : Fields} {ed25519 sig : List UInt8}
    {peerIdentity : PublicKey} (accepted : Accepted scheme fields ed25519 sig peerIdentity) :
    minKeyLen ≤ fields.render.length := by
  have addr := List.length_pos_of_ne_nil accepted.peerAddr
  have x := decodeString_length accepted.decodedX25519
  have ed := decodeString_length accepted.decodedEd25519
  have prefixed : (utf8 "gota1").length = 5 := rfl
  rw [peerIdentity.size, accepted.curve, Curve.keySize] at x
  rw [accepted.ed25519Size, Ed25519.publicKeySize] at ed
  simp only [Fields.render, Fields.payload, payloadOf, List.length_append, List.length_cons,
    fields.signature_length,
    prefixed, minKeyLen]
  omega

/-- The parser accepts what its grammar and its checks describe, and nothing else. -/
theorem parseKey_ok {scheme : Ed25519.Scheme} {keyStr addr : List UInt8}
    {peerIdentity : PublicKey} :
    KeyParserV1.new.parseKey scheme keyStr = .ok (peerIdentity, addr) ↔
      ∃ fields ed25519 sig, fields.render = keyStr ∧ fields.peerAddr = addr ∧
        Accepted scheme fields ed25519 sig peerIdentity := by
  simp only [KeyParserV1.parseKey, Outcome.bind_eq_ok, Outcome.require_eq_ok, Outcome.wrap_eq_ok,
    cutSignature_eq_ok,
    splitLast_eq_ok, Ed25519.verify_eq_ok, newPublicKey_eq_ok, Outcome.pure_ok, Outcome.ok.injEq,
      Prod.mk.injEq]
  constructor
  · rintro ⟨⟨_, signature⟩, ⟨rfl, length, _⟩, sig, decodedSignature, _, signatureSize,
      ⟨_, encodedEd25519⟩, ⟨rfl, edBar⟩,
      ⟨peerAddr, encodedX25519⟩, ⟨rfl, xBar⟩, _, nonempty, ed25519, decodedEd25519, _, ed25519Size,
        _, decodedX25519,
      _, ⟨_, verified⟩, _, rfl, _, ⟨curve, rfl⟩, rfl, rfl⟩
    exact ⟨⟨peerAddr, encodedX25519, encodedEd25519, signature, xBar, edBar, length⟩, ed25519,
      sig, rfl, rfl,
      ⟨nonempty, decodedSignature, signatureSize, decodedEd25519, ed25519Size, decodedX25519,
        curve, verified⟩⟩
  · rintro ⟨fields, ed25519, sig, rfl, rfl, accepted⟩
    have long : minKeyLen ≤ fields.render.length := accepted.long
    exact ⟨(fields.payload, fields.signature), ⟨rfl, fields.signature_length, long⟩, sig,
      accepted.decodedSignature, (),
      accepted.signatureSize, (_, fields.encodedEd25519), ⟨rfl, fields.ed25519_bar⟩,
      (fields.peerAddr, fields.encodedX25519), ⟨rfl, fields.x25519_bar⟩, (),
        accepted.peerAddr, ed25519,
      accepted.decodedEd25519, (), accepted.ed25519Size, _, accepted.decodedX25519, true,
      ⟨accepted.ed25519Size, accepted.verified⟩, (), rfl, peerIdentity,
        ⟨accepted.curve, rfl⟩, rfl, rfl⟩

/-! A key made with Ed25519, and its parts. -/

/-- A signing key, its seed and its public half. -/
def recordedKey : List UInt8 :=
  [0x9d, 0x61, 0xb1, 0x9d, 0xef, 0xfd, 0x5a, 0x60, 0xba, 0x84, 0x4a, 0xf4, 0x92, 0xec, 0x2c, 0xc4,
    0x44, 0x49, 0xc5, 0x69, 0x7b, 0x32, 0x69, 0x19, 0x70, 0x3b, 0xac, 0x03, 0x1c, 0xae, 0x7f, 0x60,
    0xd7, 0x5a, 0x98, 0x01, 0x82, 0xb1, 0x0a, 0xb7, 0xd5, 0x4b, 0xfe, 0xd3, 0xc9, 0x64, 0x07, 0x3a,
    0x0e, 0xe1, 0x72, 0xf3, 0xda, 0xa6, 0x23, 0x25, 0xaf, 0x02, 0x1a, 0x68, 0xf7, 0x07, 0x51, 0x1a]

def recordedIdentity : PublicKey where
  curve := .x25519
  bytes :=
    [0x85, 0x20, 0xf0, 0x09, 0x89, 0x30, 0xa7, 0x54, 0x74, 0x8b, 0x7d, 0xdc, 0xb4, 0x3e, 0xf7, 0x5a,
     0x0d, 0xbf, 0x3a, 0x0d, 0x26, 0x38, 0x1a, 0xf4, 0xeb, 0xa4, 0xa9, 0x8e, 0xaa, 0x9b, 0x4e, 0x6a]
  size := rfl

def recordedPayload : List UInt8 :=
  utf8 ("127.0.0.1:9000|hSDwCYkwp1R0i33ctD73Wg2_Og0mOBr066SpjqqbTmo" ++
    "|11qYAYKxCrfVS_7TyWQHOg7hcvPapiMlrwIaaPcHURo")

/-- The Ed25519 signature of the payload. -/
def recordedSig : List UInt8 :=
  [0xdb, 0xa8, 0x9c, 0x06, 0x8e, 0xe4, 0xe5, 0x54, 0x67, 0xb2, 0x8c, 0xf8, 0x4d, 0xf5, 0xd8, 0x70,
    0xb4, 0x24, 0x5d, 0x68, 0x5a, 0xc7, 0x09, 0x9b, 0xc5, 0xa7, 0xb5, 0xe0, 0x50, 0xa9, 0x1c, 0x73,
    0x19, 0x29, 0xe8, 0x21, 0xd5, 0x07, 0x8e, 0x33, 0x98, 0x3f, 0x68, 0xdf, 0x45, 0x33, 0x10, 0xa6,
    0x68, 0x7f, 0xa7, 0x35, 0x55, 0x44, 0x5c, 0xa0, 0x61, 0x59, 0xef, 0xbe, 0xf6, 0x83, 0x29, 0x01]

theorem recordedSig_length : recordedSig.length = 64 := rfl

def recordedString : List UInt8 :=
  utf8 "gota1-" ++ recordedPayload ++
    utf8 "-26icBo7k5VRnsoz4TfXYcLQkXWhaxwmbxae14FCpHHMZKegh1QeOM5g_aN9FMxCmaH-nNVVEXKBhWe--9oMpAQ"

def recordedFields : Fields :=
  .encoded (utf8 "127.0.0.1:9000") recordedIdentity (recordedKey.drop 32) recordedSig rfl

end GotaDaemon.InviteKey
