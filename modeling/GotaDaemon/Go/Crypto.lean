import GotaDaemon.Go.Strings

/-! The parts of crypto/ed25519 and crypto/ecdh that handle keys: sizes,
copies and panics as in the packages, the signature scheme itself a parameter. -/
namespace GotaDaemon.Go
variable {ε : Type}

namespace Ed25519

def publicKeySize : Nat := 32

def privateKeySize : Nat := 64

def signatureSize : Nat := 64

/-- What Sign and Verify compute on keys of the right size. -/
structure Scheme where
  signature : List UInt8 → List UInt8 → { sig : List UInt8 // sig.length = signatureSize }
  valid : List UInt8 → List UInt8 → List UInt8 → Bool

/-- PrivateKey.Public: a copy of the bytes from 32 on into 32 zero bytes. -/
def publicKey (key : List UInt8) : Outcome ε (List UInt8) := do
  let tail ← slice key 32 key.length
  return tail.take publicKeySize ++ List.replicate (publicKeySize - tail.length) 0

def sign (scheme : Scheme) (key message : List UInt8) : Outcome ε (List UInt8) :=
  if key.length = privateKeySize then .ok (scheme.signature key message).val
  else .panic .badKeyLength

def verify (scheme : Scheme) (key message sig : List UInt8) : Outcome ε Bool :=
  if key.length = publicKeySize then .ok (scheme.valid key message sig) else .panic .badKeyLength

/-- Verify accepts under the second half of a key what Sign makes of the message
with it. -/
def Scheme.Verifies (scheme : Scheme) (key message : List UInt8) : Prop :=
  scheme.valid (key.drop 32) message (scheme.signature key message).val = true

/-- A private key that GenerateKey could have returned: Verify accepts under
its public half what Sign makes with it. -/
structure WellFormed (scheme : Scheme) (key : List UInt8) : Prop where
  size : key.length = privateKeySize
  accepts : ∀ message, scheme.valid (key.drop 32) message (scheme.signature key message).val = true

section Laws
variable {scheme : Scheme} {key : List UInt8}

theorem publicKey_ok (size : key.length = privateKeySize) :
    (publicKey key : Outcome ε (List UInt8)) = .ok (key.drop 32) := by
  simp only [privateKeySize] at size
  have whole : key.take 64 = key := List.take_of_length_le (by omega)
  have half : (key.drop 32).take 32 = key.drop 32 := List.take_of_length_le (by simp; omega)
  simp [publicKey, slice, publicKeySize, size, whole, half]

theorem sign_ok (size : key.length = privateKeySize) (message : List UInt8) :
    (sign scheme key message : Outcome ε (List UInt8)) =
      .ok (scheme.signature key message).val := if_pos size

theorem verify_eq_ok {message sig : List UInt8} {answer : Bool} :
    (verify scheme key message sig : Outcome ε Bool) = .ok answer ↔
      key.length = publicKeySize ∧ scheme.valid key message sig = answer := by
  unfold verify
  split <;> simp_all

theorem safe_verify {message sig : List UInt8} (size : key.length = publicKeySize) :
    (verify scheme key message sig : Outcome ε Bool).Safe := by
  rw [verify, if_pos size]
  exact Outcome.safe_ok _

end Laws

end Ed25519

namespace Ecdh

inductive Curve where
  | x25519 | p256 | p384 | p521
  deriving DecidableEq, Repr

/-- Bytes of an encoded public key. -/
def Curve.keySize : Curve → Nat
  | .x25519 => 32
  | .p256 => 65
  | .p384 => 97
  | .p521 => 133

/-- The packages build public keys of the curve's own size only. -/
structure PublicKey where
  curve : Curve
  bytes : List UInt8
  size : bytes.length = curve.keySize
  deriving DecidableEq

/-- X25519().NewPublicKey -/
def newPublicKey (bytes : List UInt8) : Except String PublicKey :=
  if size : bytes.length = Curve.x25519.keySize then .ok ⟨.x25519, bytes, size⟩
  else .error "crypto/ecdh: invalid public key"

theorem newPublicKey_eq_ok {bytes : List UInt8} {key : PublicKey} :
    newPublicKey bytes = .ok key ↔ key.curve = .x25519 ∧ key.bytes = bytes := by
  obtain ⟨curve, held, size⟩ := key
  unfold newPublicKey
  split
  · simp only [Except.ok.injEq, PublicKey.mk.injEq]
    exact and_congr eq_comm eq_comm
  · rename_i wrong
    simp only [reduceCtorEq, false_iff, not_and]
    rintro rfl rfl
    exact wrong size

end Ecdh

end GotaDaemon.Go
