import GotaDaemon.InviteKey.KeyV1
import Mathlib.Data.Set.Basic

/-! What the signature of an invite key protects. The address and the public
key that the parser returns have been signed together. The text of a key is not
protected to the last bit: where base64 leaves bits or line ends open, a
different text is the same key to the parser. -/
namespace GotaDaemon.InviteKey
open Go Base64 Ecdh
variable {scheme : Ed25519.Scheme} {keyStr peerAddr signingKey ed25519 sig : List UInt8}
  {peerIdentity : PublicKey}
  {fields : Fields}

/-- An accepted key has been cut into its only fields. -/
theorem parseKey_fields
    (parsed : KeyParserV1.new.parseKey scheme keyStr = .ok (peerIdentity, peerAddr))
    (rendered : fields.render = keyStr) :
    fields.peerAddr = peerAddr ∧ ∃ ed25519 sig,
      Accepted scheme fields ed25519 sig peerIdentity := by
  obtain ⟨cut, ed25519, sig, same, rfl, accepted⟩ := parseKey_ok.mp parsed
  obtain rfl := Fields.render_injective (same.trans rendered.symm)
  exact ⟨rfl, ed25519, sig, accepted⟩

/-- A payload splits in one way only, whatever its address looks like. -/
theorem payload_unique {addr x ed : List UInt8} (xBar : bar ∉ x) (edBar : bar ∉ ed)
    (same : fields.payload = payloadOf addr x ed) :
    fields.peerAddr = addr ∧ fields.encodedX25519 = x ∧ fields.encodedEd25519 = ed := by
  obtain ⟨front, edSame⟩ := last_unique same fields.ed25519_bar edBar
  obtain ⟨addrSame, xSame⟩ := last_unique front fields.x25519_bar xBar
  exact ⟨addrSame, xSame, edSame⟩

theorem PublicKey.eq_of_bytes {first second : PublicKey} (curve : first.curve = .x25519)
    (curve' : second.curve = .x25519) (same : first.bytes = second.bytes) : first = second := by
  obtain ⟨_, bytes, _⟩ := first
  obtain ⟨_, bytes', _⟩ := second
  cases curve
  cases curve'
  cases same
  rfl

/-- The holder of the key has signed this payload only. -/
def recorded : Ed25519.Scheme where
  signature _ _ := ⟨recordedSig, recordedSig_length⟩
  valid key message sig :=
    decide (key = recordedKey.drop 32 ∧ message = recordedPayload ∧ sig = recordedSig)

theorem parseKey_recorded : KeyParserV1.new.parseKey recorded recordedString =
    .ok (recordedIdentity, utf8 "127.0.0.1:9000") := by
  decide +kernel

theorem recordedFields_render : recordedFields.render = recordedString := by
  decide +kernel

/-- The holder of a signing key has signed the payloads of the keys generated
for the issued pairs, and Verify accepts nothing else under the public half.
Then every accepted key that embeds it carries an address and an identity that
have been issued together. -/
theorem parseKey_authentic {issued : Set (List UInt8 × PublicKey)} {signed : Set (List UInt8)}
    (size : signingKey.length = Ed25519.privateKeySize)
    (curves : ∀ pair ∈ issued, pair.2.curve = .x25519)
    (generated : ∀ message ∈ signed, ∃ pair ∈ issued,
      (KeyGeneratorV1.new (some pair.2) pair.1 signingKey).payload = .ok message)
    (unforged : ∀ message sig, scheme.valid (signingKey.drop 32) message sig = true →
      message ∈ signed)
    (parsed : KeyParserV1.new.parseKey scheme keyStr = .ok (peerIdentity, peerAddr))
    (rendered : fields.render = keyStr)
    (embedded : decodeString fields.encodedEd25519 = .ok (signingKey.drop 32)) :
    (peerAddr, peerIdentity) ∈ issued := by
  obtain ⟨rfl, ed25519, sig, accepted⟩ := parseKey_fields parsed rendered
  obtain rfl := Except.ok.inj (accepted.decodedEd25519.symm.trans embedded)
  obtain ⟨⟨addr, identity⟩, member, payload⟩ := generated _ (unforged _ _ accepted.verified)
  obtain ⟨_, same⟩ := (payload_eq_ok size).mp payload
  obtain ⟨addrSame, xSame, _⟩ := payload_unique (bar_encodeToString _) (bar_encodeToString _) same
  have decoded := accepted.decodedX25519
  rw [xSame, decodeString_encodeToString] at decoded
  have identitySame :=
    PublicKey.eq_of_bytes (curves _ member) accepted.curve (Except.ok.inj decoded)
  rw [addrSame, ← identitySame]
  exact member

theorem parseKey_authentic_recorded :
    KeyParserV1.new.parseKey recorded recordedString =
      .ok (recordedIdentity, utf8 "127.0.0.1:9000") ∧
    (utf8 "127.0.0.1:9000", recordedIdentity) ∈
      ({(utf8 "127.0.0.1:9000", recordedIdentity)} : Set _) := by
  have unforged : ∀ message sig, recorded.valid (recordedKey.drop 32) message sig = true →
      message ∈ ({recordedPayload} : Set (List UInt8)) :=
        fun _ _ valid => (of_decide_eq_true valid).2.1
  refine ⟨parseKey_recorded, parseKey_authentic rfl ?_ ?_ unforged parseKey_recorded
    recordedFields_render (decodeString_encodeToString _)⟩
  · rintro _ rfl
    rfl
  · rintro _ rfl
    exact ⟨_, rfl, by decide +kernel⟩

/-- The text GenerateKey would give the parts of a key. -/
def canonicalKey (peerAddr : List UInt8) (peerIdentity : PublicKey) (ed25519 sig : List UInt8) :
    List UInt8 :=
  utf8 "gota1-" ++ peerAddr ++ utf8 "|" ++ encodeToString peerIdentity.bytes ++ utf8 "|" ++
    encodeToString ed25519 ++
    utf8 "-" ++ encodeToString sig

theorem render_encoded (size : sig.length = Ed25519.signatureSize) :
    (Fields.encoded peerAddr peerIdentity ed25519 sig size).render =
      canonicalKey peerAddr peerIdentity ed25519 sig := by
  have gota : utf8 "gota1-" = utf8 "gota1" ++ [dash] := by decide
  have separator : utf8 "|" = [bar] := by decide
  have hyphen : utf8 "-" = [dash] := by decide
  simp [Fields.render, Fields.encoded, Fields.payload, payloadOf, canonicalKey, gota,
    separator, hyphen]

/-- An accepted key is its own canonical text exactly if its base64 fields are. -/
theorem Accepted.render_canonical (accepted : Accepted scheme fields ed25519 sig peerIdentity) :
    fields.render = canonicalKey fields.peerAddr peerIdentity ed25519 sig ↔
      Canonical fields.encodedX25519 ∧ Canonical fields.encodedEd25519 ∧
      Canonical fields.signature := by
  rw [← encodeToString_decodeString accepted.decodedX25519,
    ← encodeToString_decodeString accepted.decodedEd25519,
    ← encodeToString_decodeString accepted.decodedSignature,
      ← render_encoded accepted.signatureSize]
  constructor
  · intro same
    have parts := Fields.render_injective same
    rw [parts]
    exact ⟨rfl, rfl, rfl⟩
  · rintro ⟨x, ed, signature⟩
    simp only [Fields.render, Fields.payload, Fields.encoded, x, ed, signature]

/-- An accepted text is the canonical one for what it decodes to exactly if its
three base64 fields are canonical. Where a generated key carries the only
payload and signature that Verify accepts under its public key, the text of that
key and an accepted one differ exactly if the signature field is not canonical. -/
theorem canonical_iff
    (parsed : KeyParserV1.new.parseKey scheme keyStr = .ok (peerIdentity, peerAddr))
    (rendered : fields.render = keyStr)
    (decodedEd25519 : decodeString fields.encodedEd25519 = .ok ed25519)
    (decodedSignature : decodeString fields.signature = .ok sig) :
    (keyStr = canonicalKey peerAddr peerIdentity ed25519 sig ↔
      Canonical fields.encodedX25519 ∧ Canonical fields.encodedEd25519 ∧
      Canonical fields.signature) ∧
    ∀ signingKey identity addr key, signingKey.length = Ed25519.privateKeySize →
    signingKey.drop 32 = ed25519 →
      (KeyGeneratorV1.new (some identity) addr signingKey).generateKey scheme = .ok key →
      (∀ message tag, scheme.valid ed25519 message tag = true →
        (KeyGeneratorV1.new (some identity) addr signingKey).payload = .ok message ∧
        tag = (scheme.signature signingKey message).val) →
      (keyStr = key ↔ Canonical fields.signature) := by
  obtain ⟨rfl, ed, tag, accepted⟩ := parseKey_fields parsed rendered
  obtain rfl := Except.ok.inj (accepted.decodedEd25519.symm.trans decodedEd25519)
  obtain rfl := Except.ok.inj (accepted.decodedSignature.symm.trans decodedSignature)
  subst rendered
  refine ⟨accepted.render_canonical, ?_⟩
  rintro signingKey identity addr key size rfl generated genuine
  obtain ⟨payload, rfl⟩ := genuine _ _ accepted.verified
  obtain ⟨nonempty, same⟩ := (payload_eq_ok size).mp payload
  obtain ⟨_, xSame, edSame⟩ := payload_unique (bar_encodeToString _) (bar_encodeToString _) same
  obtain rfl := Outcome.ok.inj ((generateKey_ok nonempty size).symm.trans generated)
  rw [← encodeToString_decodeString accepted.decodedSignature, same]
  constructor
  · intro texts
    rw [Fields.render_injective texts]
    rfl
  · intro signature
    simp only [Fields.render, same, ← signature]
    rfl

/-- The last character of a signature has four bits that belong to no byte. -/
theorem signature_malleable :
    let altered := utf8 "gota1-" ++ recordedPayload ++
      utf8 "-26icBo7k5VRnsoz4TfXYcLQkXWhaxwmbxae14FCpHHMZKegh1QeOM5g_aN9FMxCmaH-nNVVEXKBhWe--9oMpAR"
    (KeyGeneratorV1.new (some recordedIdentity)
      (utf8 "127.0.0.1:9000") recordedKey).generateKey recorded =
      .ok recordedString ∧
    KeyParserV1.new.parseKey recorded altered = .ok (recordedIdentity, utf8 "127.0.0.1:9000") ∧
    altered ≠ canonicalKey (utf8 "127.0.0.1:9000") recordedIdentity
      (recordedKey.drop 32) recordedSig ∧
    altered ≠ recordedString := by
  decide +kernel

theorem canonical_iff_recorded :
    recordedString = canonicalKey (utf8 "127.0.0.1:9000") recordedIdentity
      (recordedKey.drop 32) recordedSig := by
  have settled := canonical_iff parseKey_recorded recordedFields_render
    (decodeString_encodeToString _) (decodeString_encodeToString _)
  exact settled.1.mpr (by decide +kernel)

end GotaDaemon.InviteKey
