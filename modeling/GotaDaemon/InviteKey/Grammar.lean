import GotaDaemon.InviteKey.Authenticity

/-! The strings that KeyParserV1 accepts. The parser counts the signature off the
end and splits the payload from its end, so every string has at most one reading,
whatever separators the address contains. -/
namespace GotaDaemon.InviteKey
open Go Base64 Ecdh

/-- The string reads gota1-addr|ex|eed-sig. -/
structure Reads (keyStr addr ex eed sig : List UInt8) : Prop where
  text : keyStr = utf8 "gota1-" ++ addr ++ bar :: ex ++ bar :: eed ++ dash :: sig
  x25519_bar : bar ∉ ex
  ed25519_bar : bar ∉ eed
  signature_length : sig.length = 86

/-- The parts decode to keys and a signature, and the signature is valid. -/
def Checks (scheme : Ed25519.Scheme) (addr ex eed sig x25519 : List UInt8) : Prop :=
  addr ≠ [] ∧ decodeString ex = .ok x25519 ∧ x25519.length = 32 ∧
    ∃ ed25519 sigBytes, decodeString eed = .ok ed25519 ∧ ed25519.length = 32 ∧
      decodeString sig = .ok sigBytes ∧ sigBytes.length = 64 ∧
      scheme.valid ed25519 (addr ++ bar :: ex ++ bar :: eed) sigBytes = true

variable {scheme : Ed25519.Scheme} {keyStr addr ex eed sig : List UInt8}

theorem reads_iff : Reads keyStr addr ex eed sig ↔ ∃ fields :
    Fields, fields.render = keyStr ∧ fields.peerAddr = addr ∧ fields.encodedX25519 = ex ∧
    fields.encodedEd25519 = eed ∧ fields.signature = sig := by
  have start : utf8 "gota1-" = utf8 "gota1" ++ [dash] := by decide
  constructor
  · rintro ⟨rfl, xBar, edBar, length⟩
    refine ⟨⟨addr, ex, eed, sig, xBar, edBar, length⟩, ?_, rfl, rfl, rfl, rfl⟩
    simp [Fields.render, Fields.payload, payloadOf, start]
  · rintro ⟨fields, rfl, rfl, rfl, rfl, rfl⟩
    refine ⟨?_, fields.x25519_bar, fields.ed25519_bar, fields.signature_length⟩
    simp [Fields.render, Fields.payload, payloadOf, start]

theorem Reads.unique {addr' ex' eed' sig' : List UInt8} (first : Reads keyStr addr ex eed sig)
    (second : Reads keyStr addr' ex' eed' sig') :
    addr = addr' ∧ ex = ex' ∧ eed = eed' ∧ sig = sig' := by
  obtain ⟨fields, rendered, rfl, rfl, rfl, rfl⟩ := reads_iff.mp first
  obtain ⟨others, rendered', rfl, rfl, rfl, rfl⟩ := reads_iff.mp second
  obtain rfl := Fields.render_injective (rendered.trans rendered'.symm)
  exact ⟨rfl, rfl, rfl, rfl⟩

theorem checks_iff {fields : Fields} {peerIdentity : PublicKey} :
    (∃ ed25519 sigBytes, Accepted scheme fields ed25519 sigBytes peerIdentity) ↔
      peerIdentity.curve = .x25519 ∧
      Checks scheme fields.peerAddr fields.encodedX25519 fields.encodedEd25519 fields.signature
        peerIdentity.bytes := by
  constructor
  · rintro ⟨ed25519, sigBytes, accepted⟩
    have size := peerIdentity.size
    rw [accepted.curve] at size
    exact ⟨accepted.curve, accepted.peerAddr, accepted.decodedX25519, size, ed25519, sigBytes,
      accepted.decodedEd25519,
      accepted.ed25519Size, accepted.decodedSignature, accepted.signatureSize, accepted.verified⟩
  · rintro ⟨curve, nonempty, x25519, _, ed25519, sigBytes, decodedEd25519, ed25519Size,
      decodedSignature, signatureSize,
      verified⟩
    exact ⟨ed25519, sigBytes, nonempty, decodedSignature, signatureSize, decodedEd25519,
      ed25519Size, x25519, curve,
      verified⟩

theorem parseKey_reads {peerIdentity : PublicKey} :
    KeyParserV1.new.parseKey scheme keyStr = .ok (peerIdentity, addr) ↔
      peerIdentity.curve = .x25519 ∧
      ∃ ex eed sig, Reads keyStr addr ex eed sig ∧
      Checks scheme addr ex eed sig peerIdentity.bytes := by
  rw [parseKey_ok]
  constructor
  · rintro ⟨fields, ed25519, sigBytes, rendered, rfl, accepted⟩
    obtain ⟨curve, checks⟩ := checks_iff.mp ⟨ed25519, sigBytes, accepted⟩
    exact ⟨curve, _, _, _, reads_iff.mpr ⟨fields, rendered, rfl, rfl, rfl, rfl⟩, checks⟩
  · rintro ⟨curve, ex, eed, sig, reads, checks⟩
    obtain ⟨fields, rendered, rfl, rfl, rfl, rfl⟩ := reads_iff.mp reads
    obtain ⟨ed25519, sigBytes, accepted⟩ := checks_iff.mpr ⟨curve, checks⟩
    exact ⟨fields, ed25519, sigBytes, rendered, rfl, accepted⟩

theorem Reads.long {x25519 : List UInt8} (reads : Reads keyStr addr ex eed sig)
    (checks : Checks scheme addr ex eed sig x25519) : minKeyLen ≤ keyStr.length := by
  obtain ⟨fields, rfl, rfl, rfl, rfl, rfl⟩ := reads_iff.mp reads
  obtain ⟨_, _, accepted⟩ := checks_iff.mpr
    (⟨rfl, checks⟩ : (⟨.x25519, x25519, checks.2.2.1⟩ : PublicKey).curve = .x25519 ∧ _)
  exact accepted.long

section Bounds

theorem cutSignature_safe : (KeyParserV1.new.cutSignature keyStr).Safe := by
  refine Outcome.safe_require.bind fun _ _ => ?_
  refine Outcome.safe_require.bind fun _ checked => ?_
  have long : 182 ≤ keyStr.length := Outcome.require_eq_ok.mp checked
  have six : (KeyParserV1.new.keyPrefix ++ [dash]).length = 6 := by decide
  refine (safe_charAt (by omega)).bind fun separator _ => ?_
  refine Outcome.safe_require.bind fun _ _ => ?_
  refine (safe_slice (by omega) (by omega)).bind fun payload _ => ?_
  refine (safe_slice (by omega) (by omega)).bind fun signature _ => ?_
  exact Outcome.safe_ok _

theorem parseKey_safe (scheme : Ed25519.Scheme) (keyStr : List UInt8) :
    (KeyParserV1.new.parseKey scheme keyStr).Safe := by
  refine cutSignature_safe.bind fun parts _ => ?_
  refine Outcome.safe_wrap.bind fun sigBytes _ => ?_
  refine Outcome.safe_require.bind fun _ _ => ?_
  refine safe_splitLast.bind fun payload _ => ?_
  refine safe_splitLast.bind fun remaining _ => ?_
  refine Outcome.safe_require.bind fun _ _ => ?_
  refine Outcome.safe_wrap.bind fun ed25519Bytes _ => ?_
  refine Outcome.safe_require.bind fun _ checked => ?_
  refine Outcome.safe_wrap.bind fun x25519Bytes _ => ?_
  refine (Ed25519.safe_verify (Outcome.require_eq_ok.mp checked)).bind fun verified _ => ?_
  refine Outcome.safe_require.bind fun _ _ => ?_
  exact Outcome.safe_wrap.bind fun _ _ => Outcome.safe_ok _

/-- Verify is asked about keys of 32 and signatures of 64 bytes only: what it would
answer for others makes no difference. -/
theorem parseKey_verify {other : Ed25519.Scheme} (agree : ∀ key message sigBytes, key.length = 32 →
    sigBytes.length = 64 → other.valid key message sigBytes = scheme.valid key message sigBytes) :
    KeyParserV1.new.parseKey other keyStr = KeyParserV1.new.parseKey scheme keyStr := by
  refine Outcome.bind_congr fun parts _ => ?_
  refine Outcome.bind_congr fun sigBytes _ => ?_
  refine Outcome.bind_congr fun _ sized => ?_
  refine Outcome.bind_congr fun payload _ => ?_
  refine Outcome.bind_congr fun remaining _ => ?_
  refine Outcome.bind_congr fun _ _ => ?_
  refine Outcome.bind_congr fun ed25519Bytes _ => ?_
  refine Outcome.bind_congr fun _ checked => ?_
  refine Outcome.bind_congr fun x25519Bytes _ => ?_
  have size := Outcome.require_eq_ok.mp checked
  have same : (Ed25519.verify other ed25519Bytes parts.1 sigBytes : Outcome KeyError Bool) =
      Ed25519.verify scheme ed25519Bytes parts.1 sigBytes := by
    rw [Ed25519.verify, Ed25519.verify, agree _ _ _ size (Outcome.require_eq_ok.mp sized)]
  rw [same]

end Bounds

/-- KeyParserV1.ParseKey never panics, asks Verify only about a 32-byte key and a
64-byte signature, and accepts exactly the strings with a reading that passes the
checks. No string has two readings, and none that passes is shorter than the
minimum. -/
theorem parseKey_accepts_grammar (scheme : Ed25519.Scheme) (keyStr : List UInt8) :
    (KeyParserV1.new.parseKey scheme keyStr).Safe ∧
    (∀ other : Ed25519.Scheme, (∀ key message sigBytes, key.length = 32 → sigBytes.length = 64 →
        other.valid key message sigBytes = scheme.valid key message sigBytes) →
      KeyParserV1.new.parseKey other keyStr = KeyParserV1.new.parseKey scheme keyStr) ∧
    (∀ peerIdentity addr, KeyParserV1.new.parseKey scheme keyStr = .ok (peerIdentity, addr) ↔
      peerIdentity.curve = .x25519 ∧
      ∃ ex eed sig, Reads keyStr addr ex eed sig ∧
      Checks scheme addr ex eed sig peerIdentity.bytes) ∧
    (∀ addr ex eed sig addr' ex' eed' sig', Reads keyStr addr ex eed sig →
    Reads keyStr addr' ex' eed' sig' →
      addr = addr' ∧ ex = ex' ∧ eed = eed' ∧ sig = sig') ∧
    (∀ addr ex eed sig x25519, Reads keyStr addr ex eed sig → Checks scheme addr ex eed sig x25519 →
      minKeyLen ≤ keyStr.length) := by
  refine ⟨parseKey_safe scheme keyStr, ?_, ?_, ?_, ?_⟩
  · intro other agree
    exact parseKey_verify agree
  · intro peerIdentity addr
    exact parseKey_reads
  · intro addr ex eed sig addr' ex' eed' sig' first second
    exact first.unique second
  · intro addr ex eed sig x25519 reads checks
    exact reads.long checks

/-- The recorded key has its reading and no other, also for a Verify that accepts
keys of a wrong length. -/
theorem parseKey_accepts_grammar_recorded :
    (∃ ex eed sig, Reads recordedString (utf8 "127.0.0.1:9000") ex eed sig ∧
      ∀ addr ex' eed' sig', Reads recordedString addr ex' eed' sig' →
      utf8 "127.0.0.1:9000" = addr) ∧
    minKeyLen ≤ recordedString.length ∧
    KeyParserV1.new.parseKey
      ⟨recorded.signature, fun key message sig =>
        recorded.valid key message sig || decide (key.length ≠ 32)⟩
      recordedString = .ok (recordedIdentity, utf8 "127.0.0.1:9000") := by
  obtain ⟨_, asked, accepts, unique, long⟩ := parseKey_accepts_grammar recorded recordedString
  obtain ⟨_, ex, eed, sig, reads, checks⟩ := (accepts _ _).mp parseKey_recorded
  refine ⟨⟨ex, eed, sig, reads, ?_⟩, long _ _ _ _ _ reads checks, ?_⟩
  · intro addr ex' eed' sig' other
    exact (unique _ _ _ _ _ _ _ _ reads other).1
  · rw [asked _ _, parseKey_recorded]
    intro key message sigBytes size _
    simp [size]

end GotaDaemon.InviteKey
