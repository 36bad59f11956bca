import GotaDaemon.Go.Map
import GotaDaemon.InviteKey.KeyV1

/-! KeyManager of package invitekey, and the way of a key through it: what
GenerateKey makes, the parser and a fresh manager take apart again. -/
namespace GotaDaemon.InviteKey
open Go Base64 Ecdh

/-- What GenerateKey of a registered generator returns. -/
abbrev IKeyGenerator := Outcome KeyError (List UInt8)

abbrev IKeyParser := List UInt8 → Outcome KeyError (PublicKey × List UInt8)

def v1keytype : UInt32 := 0

structure KeyManager where
  generatorList : Map UInt32 IKeyGenerator
  ecdhParserList : Map UInt32 IKeyParser
  prefixToVersion : Map (List UInt8) UInt32

namespace KeyManager

/-- NewKeyManager -/
def new : KeyManager where
  generatorList := ∅
  ecdhParserList := ∅
  prefixToVersion := (∅ : Map (List UInt8) UInt32).insert (utf8 "gota1") v1keytype

def registerGenerator (km : KeyManager) (version : UInt32) (generator : IKeyGenerator) :
    KeyManager :=
  { km with generatorList := km.generatorList.insert version generator }

def registerParser (km : KeyManager) (version : UInt32) (keyPrefix : List UInt8)
    (parser : IKeyParser) : KeyManager :=
  { km with
    ecdhParserList := km.ecdhParserList.insert version parser
    prefixToVersion := km.prefixToVersion.insert keyPrefix version }

def generateKey (km : KeyManager) (version : UInt32) : Outcome KeyError (List UInt8) :=
  match km.generatorList.lookup version with
  | none => .error (.noGenerator version)
  | some generator => generator

/-- ParseKey may register the parser of version 1. -/
def parseKey (scheme : Ed25519.Scheme) (km : KeyManager) (keyStr : List UInt8) :
    Outcome KeyError (PublicKey × List UInt8) × KeyManager :=
  match cut dash keyStr with
  | none => (.error .missingPrefixSeparator, km)
  | some (before, _) =>
    match km.prefixToVersion.lookup before with
    | none => (.error (.unsupportedKeyPrefix before), km)
    | some version =>
      match km.ecdhParserList.lookup version with
      | some parser => (parser keyStr, km)
      | none =>
        if version ≠ v1keytype then (.error (.noParser version), km)
        else
          let parser := KeyParserV1.new.parseKey scheme
          (parser keyStr, { km with ecdhParserList := km.ecdhParserList.insert version parser })

end KeyManager

variable {scheme : Ed25519.Scheme}

/-- A fresh manager hands keys of version 1 to KeyParserV1. -/
theorem parseKey_fresh (rest : List UInt8) :
    (KeyManager.new.parseKey scheme (utf8 "gota1" ++ dash :: rest)).1 =
      KeyParserV1.new.parseKey scheme (utf8 "gota1" ++ dash :: rest) := by
  have first : cut dash (utf8 "gota1" ++ dash :: rest) = some (utf8 "gota1", rest) :=
    cut_append _ _ (by decide)
  have version : KeyManager.new.prefixToVersion.lookup (utf8 "gota1") = some v1keytype :=
    AList.lookup_insert _
  have unregistered : KeyManager.new.ecdhParserList.lookup v1keytype = none := rfl
  simp [KeyManager.parseKey, first, version, unregistered]

theorem Accepted.encoded {peerAddr ed25519 sig : List UInt8} {peerIdentity : PublicKey}
    (nonempty : peerAddr ≠ []) (curve : peerIdentity.curve = .x25519)
    (size : ed25519.length = Ed25519.publicKeySize) (length : sig.length = Ed25519.signatureSize)
    (valid : scheme.valid ed25519
      (Fields.encoded peerAddr peerIdentity ed25519 sig length).payload sig = true) :
    Accepted scheme (Fields.encoded peerAddr peerIdentity ed25519 sig length)
      ed25519 sig peerIdentity where
  peerAddr := nonempty
  decodedSignature := decodeString_encodeToString sig
  signatureSize := length
  decodedEd25519 := decodeString_encodeToString ed25519
  ed25519Size := size
  decodedX25519 := decodeString_encodeToString peerIdentity.bytes
  curve := curve
  verified := valid

/-- Whatever the address, GenerateKey makes a key from which the parser and a
fresh manager recover the public key and the address. -/
theorem parseKey_generateKey {peerAddr signingKey : List UInt8} {peerIdentity : PublicKey}
    (nonempty : peerAddr ≠ []) (curve : peerIdentity.curve = .x25519)
    (wellFormed : Ed25519.WellFormed scheme signingKey) :
    ∃ key, (KeyGeneratorV1.new (some peerIdentity) peerAddr signingKey).generateKey scheme =
      .ok key ∧ KeyParserV1.new.parseKey scheme key = .ok (peerIdentity, peerAddr) ∧
      (KeyManager.new.parseKey scheme key).1 = .ok (peerIdentity, peerAddr) := by
  have half : (signingKey.drop 32).length = Ed25519.publicKeySize := by
    rw [List.length_drop, wellFormed.size, Ed25519.privateKeySize, Ed25519.publicKeySize]
  have valid := wellFormed.accepts
    (payloadOf peerAddr (encodeToString peerIdentity.bytes) (encodeToString (signingKey.drop 32)))
  have accepted :=
    Accepted.encoded nonempty curve half (scheme.signature signingKey _).property valid
  have parsed := parseKey_ok.mpr ⟨_, _, _, rfl, rfl, accepted⟩
  refine ⟨_, generateKey_ok nonempty wellFormed.size, parsed, ?_⟩
  rw [Fields.render, List.append_assoc, List.cons_append] at parsed ⊢
  rw [parseKey_fresh]
  exact parsed

/-- Ed25519 as far as the recorded key goes. -/
def signer : Ed25519.Scheme where
  signature _ message :=
    if message = recordedPayload then ⟨recordedSig, recordedSig_length⟩
    else ⟨List.replicate 64 0, List.length_replicate ..⟩
  valid key message sig := decide (key = recordedKey.drop 32 ∧
    sig = if message = recordedPayload then recordedSig else List.replicate 64 0)

theorem signer_wellFormed : Ed25519.WellFormed signer recordedKey := by
  refine ⟨rfl, fun message => decide_eq_true ⟨rfl, ?_⟩⟩
  by_cases same : message = recordedPayload <;> simp [signer, same]

theorem parseKey_generateKey_recorded :
    ∃ key, (KeyGeneratorV1.new (some recordedIdentity)
      (utf8 "127.0.0.1:9000") recordedKey).generateKey signer = .ok key ∧
      KeyParserV1.new.parseKey signer key = .ok (recordedIdentity, utf8 "127.0.0.1:9000") ∧
      (KeyManager.new.parseKey signer key).1 = .ok (recordedIdentity, utf8 "127.0.0.1:9000") :=
  parseKey_generateKey (by decide) rfl signer_wellFormed

end GotaDaemon.InviteKey
