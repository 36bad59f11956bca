import GotaDaemon.InviteKey.KeyManager

/-! GenerateKey and ParseKey check their input independently. Where they agree,
GenerateKey does not panic and the parser accepts what it makes. -/
namespace GotaDaemon.InviteKey
open Go Base64 Ecdh

/-- The generator returns, and what it emits is accepted. -/
structure Agrees (scheme : Ed25519.Scheme) (kg : KeyGeneratorV1) : Prop where
  safe : (kg.generateKey scheme).Safe
  accepted : ∀ key, kg.generateKey scheme = .ok key →
    ∃ result, KeyParserV1.new.parseKey scheme key = .ok result

/-- What GenerateKey signs. -/
def signedPayload (peerIdentity : PublicKey) (peerAddr signingKey : List UInt8) : List UInt8 :=
  payloadOf peerAddr (encodeToString peerIdentity.bytes) (encodeToString (signingKey.drop 32))

/-- A point of P-256, uncompressed. -/
def p256Identity : PublicKey where
  curve := .p256
  bytes :=
    [0x04, 0x6b, 0x17, 0xd1, 0xf2, 0xe1, 0x2c, 0x42, 0x47, 0xf8, 0xbc, 0xe6, 0xe5, 0x63, 0xa4, 0x40,
     0xf2, 0x77, 0x03, 0x7d, 0x81, 0x2d, 0xeb, 0x33, 0xa0, 0xf4, 0xa1, 0x39, 0x45, 0xd8, 0x98, 0xc2,
     0x96, 0x4f, 0xe3, 0x42, 0xe2, 0xfe, 0x1a, 0x7f, 0x9b, 0x8e, 0xe7, 0xeb, 0x4a, 0x7c, 0x0f, 0x9e,
     0x16, 0x2b, 0xce, 0x33, 0x57, 0x6b, 0x31, 0x5e, 0xce, 0xcb, 0xb6, 0x40, 0x68, 0x37, 0xbf, 0x51,
     0xf5]
  size := rfl

variable {scheme : Ed25519.Scheme} {kg : KeyGeneratorV1}

theorem agrees_of_error {err : KeyError} (refused : kg.generateKey scheme = .error err) :
    Agrees scheme kg := by
  constructor
  · rw [refused]
    exact Outcome.safe_error err
  · intro key emitted
    rw [refused] at emitted
    contradiction

theorem agrees_ok {key : List UInt8} (emitted : kg.generateKey scheme = .ok key) :
    Agrees scheme kg ↔ ∃ result, KeyParserV1.new.parseKey scheme key = .ok result := by
  constructor
  · intro agrees
    exact agrees.accepted key emitted
  · intro parsed
    constructor
    · rw [emitted]
      exact Outcome.safe_ok key
    · intro other same
      rw [emitted] at same
      cases same
      exact parsed

theorem not_agrees_of_panic {reason : Panic} (panics : kg.generateKey scheme = .panic reason) :
    ¬ Agrees scheme kg := by
  intro agrees
  exact agrees.safe reason panics

/-- The checks of the generator refuse what is missing. -/
theorem generateKey_missing
    (missing : kg.peerAddr = [] ∨ kg.peerIdentity = none ∨ kg.signingKey = []) :
    ∃ err, kg.generateKey scheme = .error err := by
  rw [KeyGeneratorV1.generateKey, KeyGeneratorV1.payload]
  by_cases nonempty : kg.peerAddr ≠ []
  · rw [Outcome.require_pos nonempty]
    cases given : kg.peerIdentity with
    | none => exact ⟨_, rfl⟩
    | some identity =>
      have empty : kg.signingKey = [] := by simpa [nonempty, given] using missing
      rw [Outcome.require_neg (by simp [empty])]
      exact ⟨_, rfl⟩
  · rw [Outcome.require_neg nonempty]
    exact ⟨_, rfl⟩

theorem publicKey_total {ε : Type} {key : List UInt8} (half : 32 ≤ key.length) :
    ∃ half, (Ed25519.publicKey key : Outcome ε (List UInt8)) = .ok half := by
  rw [Ed25519.publicKey, slice, if_pos ⟨half, le_rfl⟩]
  exact ⟨_, rfl⟩

/-- A key of any other length than 64 panics, in Public or in Sign. -/
theorem generateKey_panics {identity : PublicKey} (nonempty : kg.peerAddr ≠ [])
    (given : kg.peerIdentity = some identity) (present : kg.signingKey ≠ [])
    (size : kg.signingKey.length ≠ Ed25519.privateKeySize) :
    ∃ reason, kg.generateKey scheme = .panic reason := by
  have positive : kg.signingKey.length ≠ 0 := by simpa using present
  rw [KeyGeneratorV1.generateKey, KeyGeneratorV1.payload, Outcome.require_pos nonempty, given,
    Outcome.require_pos positive]
  by_cases half : 32 ≤ kg.signingKey.length
  · obtain ⟨verifyingPubKey, derived⟩ := @publicKey_total KeyError _ half
    have unsigned (message : List UInt8) :
        (Ed25519.sign scheme kg.signingKey message : Outcome KeyError (List UInt8)) =
          .panic .badKeyLength := if_neg size
    refine ⟨.badKeyLength, ?_⟩
    simp only [derived, Outcome.orElse, Outcome.bind_ok, Outcome.pure_ok, unsigned]
    rfl
  · refine ⟨.sliceBoundsOutOfRange, ?_⟩
    rw [Ed25519.publicKey, slice, if_neg (by omega)]
    rfl

theorem Curve.keySize_eq {curve : Curve} (size : curve.keySize = Curve.x25519.keySize) :
    curve = .x25519 := by
  cases curve with
  | x25519 => rfl
  | p256 | p384 | p521 => contradiction

section Emitted
variable {peerIdentity : PublicKey} {peerAddr signingKey : List UInt8}

/-- The parser accepts an emitted key exactly when its X25519 field is one and its
signature verifies. -/
theorem parseKey_encoded {ed25519 sig : List UInt8} (nonempty : peerAddr ≠ [])
    (size : ed25519.length = Ed25519.publicKeySize) (length : sig.length = Ed25519.signatureSize) :
    (∃ result, KeyParserV1.new.parseKey scheme
      (Fields.encoded peerAddr peerIdentity ed25519 sig length).render = .ok result) ↔
      peerIdentity.curve = .x25519 ∧
      scheme.valid ed25519 (Fields.encoded peerAddr peerIdentity ed25519 sig length).payload sig =
        true := by
  constructor
  · rintro ⟨⟨identity, addr⟩, parsed⟩
    obtain ⟨fields, key, signature, same, rfl, accepted⟩ := parseKey_ok.mp parsed
    obtain rfl := Fields.render_injective same
    have bytes := accepted.decodedX25519
    have ed := accepted.decodedEd25519
    have signed := accepted.decodedSignature
    simp only [Fields.encoded, decodeString_encodeToString, Except.ok.injEq] at bytes ed signed
    subst ed signed
    refine ⟨Curve.keySize_eq ?_, accepted.verified⟩
    rw [← peerIdentity.size, bytes, identity.size, accepted.curve]
  · rintro ⟨curve, valid⟩
    exact ⟨_, parseKey_ok.mpr ⟨_, _, _, rfl, rfl,
      Accepted.encoded nonempty curve size length valid⟩⟩

end Emitted

/-- The generator and the parser agree where the generator finds something
missing, and otherwise for X25519 keys and signing keys of 64 bytes whose public
half verifies what they sign. -/
theorem generator_agrees_iff (scheme : Ed25519.Scheme) (peerIdentity : Option PublicKey)
    (peerAddr signingKey : List UInt8) :
    Agrees scheme (KeyGeneratorV1.new peerIdentity peerAddr signingKey) ↔
      peerAddr = [] ∨ peerIdentity = none ∨ signingKey = [] ∨
      signingKey.length = 64 ∧ ∃ identity, peerIdentity = some identity ∧
        identity.curve = .x25519 ∧
        scheme.Verifies signingKey (signedPayload identity peerAddr signingKey) := by
  by_cases missing : peerAddr = [] ∨ peerIdentity = none ∨ signingKey = []
  · obtain ⟨err, refused⟩ := @generateKey_missing scheme
      (KeyGeneratorV1.new peerIdentity peerAddr signingKey) missing
    exact iff_of_true (agrees_of_error refused) (by tauto)
  · obtain ⟨nonempty, given, present⟩ : peerAddr ≠ [] ∧ peerIdentity ≠ none ∧ signingKey ≠ [] := by
      tauto
    obtain ⟨identity, rfl⟩ := Option.ne_none_iff_exists'.mp given
    simp only [nonempty, present, given, false_or]
    by_cases size : signingKey.length = Ed25519.privateKeySize
    · have half : (signingKey.drop 32).length = Ed25519.publicKeySize := by
        rw [List.length_drop, size, Ed25519.privateKeySize, Ed25519.publicKeySize]
      rw [agrees_ok (generateKey_ok nonempty size), parseKey_encoded nonempty half]
      constructor
      · rintro ⟨curve, valid⟩
        exact ⟨size, identity, rfl, curve, valid⟩
      · rintro ⟨_, _, ⟨⟩, curve, valid⟩
        exact ⟨curve, valid⟩
    · obtain ⟨reason, panics⟩ := @generateKey_panics scheme
        (KeyGeneratorV1.new (some identity) peerAddr signingKey) identity nonempty rfl present size
      exact iff_of_false (not_agrees_of_panic panics) fun agreed => size agreed.1

/-- A seed in place of the private key, and a key of another curve. -/
theorem generator_disagrees :
    (KeyGeneratorV1.new (some recordedIdentity) (utf8 "127.0.0.1:9000")
      (recordedKey.take 32)).generateKey signer = .panic .badKeyLength ∧
    ∃ key, (KeyGeneratorV1.new (some p256Identity) (utf8 "127.0.0.1:9000")
      recordedKey).generateKey signer = .ok key ∧
      ∀ result, KeyParserV1.new.parseKey signer key ≠ .ok result := by
  refine ⟨rfl, _, generateKey_ok (by decide) rfl, fun result parsed => ?_⟩
  have curve := (parseKey_encoded (by decide) rfl _).mp ⟨result, parsed⟩
  exact absurd curve.1 (by decide)

end GotaDaemon.InviteKey
