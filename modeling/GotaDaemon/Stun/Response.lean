import GotaDaemon.Core.BigEndian
import GotaDaemon.Go.Net
import GotaDaemon.Go.Strings

/-! Parsing of a STUN Binding Success Response, stun/stun_discoverer.go. Every
index and slice expression of the source is bounds-checked here as in Go. -/
namespace GotaDaemon.Stun
open Go

abbrev TransactionID := { bytes : List UInt8 // bytes.length = 12 }

/-- copy into a zeroed array of 12 bytes. -/
def TransactionID.copy (bytes : List UInt8) : TransactionID :=
  ⟨(bytes ++ List.replicate 12 0).take 12, by simp⟩

theorem TransactionID.copy_val {bytes : List UInt8} (twelve : bytes.length = 12) :
    (copy bytes).val = bytes :=
  List.take_left' twelve

def magicCookie : UInt32 := 0x2112A442

/-- Which of the two address attributes is being decoded. -/
inductive AddressKind where
  | mapped | xorMapped
  deriving DecidableEq, Repr

inductive AddressError where
  | tooShort (kind : AddressKind)
  | tooShortForIPv6 (kind : AddressKind)
  | unsupportedFamily (kind : AddressKind) (family : UInt8)
  deriving DecidableEq, Repr

def AddressKind.name : AddressKind → String
  | .mapped => "mapped-address"
  | .xorMapped => "xor-mapped-address"

def AddressError.text : AddressError → String
  | .tooShort kind => kind.name ++ " attribute is too short"
  | .tooShortForIPv6 kind => kind.name ++ " is too short for ipv6"
  | .unsupportedFamily kind family =>
    "unsupported protocol family in " ++ kind.name ++ ": " ++ toString family.toNat

inductive ParseError where
  | tooShort
  | unexpectedType (msgType : UInt16)
  | invalidCookie (cookie : UInt32)
  | txIDMismatch
  | truncated
  | attributeOverrun
  | noMappedAddress
  deriving DecidableEq, Repr

/-- The verbs %04x and %08x. -/
def hexPadded (width n : Nat) : String :=
  String.ofList (List.leftpad width '0' (Nat.toDigits 16 n))

def ParseError.text : ParseError → String
  | .tooShort => "stun response packet is too short"
  | .unexpectedType msgType => "unexpected stun message type: 0x" ++ hexPadded 4 msgType.toNat
  | .invalidCookie cookie => "invalid stun magic cookie: 0x" ++ hexPadded 8 cookie.toNat
  | .txIDMismatch => "stun transaction ID mismatch"
  | .truncated => "stun packet is truncated"
  | .attributeOverrun => "stun attribute length exceeds message boundaries"
  | .noMappedAddress => "no mapped address attribute found in stun response"

section Decoding
variable {ε : Type}

/-- binary.BigEndian.Uint16(data[i : i+2]) -/
def uint16At (data : List UInt8) (i : Nat) : Outcome ε UInt16 := do
  return UInt16.ofNat (BigEndian.get (← slice data i (i + 2)))

/-- binary.BigEndian.Uint32(data[i : i+4]) -/
def uint32At (data : List UInt8) (i : Nat) : Outcome ε UInt32 := do
  return UInt32.ofNat (BigEndian.get (← slice data i (i + 4)))

end Decoding

def parseXORMappedAddress (val : List UInt8) (txID : TransactionID) :
    Outcome AddressError UDPAddr := do
  .require (8 ≤ val.length) (.tooShort .xorMapped)
  let family ← charAt val 1
  let xPort ← uint16At val 2
  let port := xPort ^^^ 0x2112
  if family = 0x01 then
    let xAddr ← uint32At val 4
    return { ip := BigEndian.put 4 (xAddr ^^^ magicCookie).toNat, port := port.toNat }
  else if family = 0x02 then
    .require (20 ≤ val.length) (.tooShortForIPv6 .xorMapped)
    let mask := BigEndian.put 4 magicCookie.toNat ++ txID.val
    return { ip := List.zipWith (· ^^^ ·) (← slice val 4 20) mask, port := port.toNat }
  else .error (.unsupportedFamily .xorMapped family)

def parseMappedAddress (val : List UInt8) : Outcome AddressError UDPAddr := do
  .require (8 ≤ val.length) (.tooShort .mapped)
  let family ← charAt val 1
  let port ← uint16At val 2
  if family = 0x01 then
    return { ip := ← slice val 4 8, port := port.toNat }
  else if family = 0x02 then
    .require (20 ≤ val.length) (.tooShortForIPv6 .mapped)
    return { ip := ← slice val 4 20, port := port.toNat }
  else .error (.unsupportedFamily .mapped family)

/-- The address of a decodable address attribute. Other attributes and address
attributes that do not decode are passed over. -/
def addressOf (attrType : UInt16) (val : List UInt8) (txID : TransactionID) :
    Outcome ParseError (Option UDPAddr) :=
  let found (result : Outcome AddressError UDPAddr) : Outcome ParseError (Option UDPAddr) :=
    match result with
    | .ok addr => .ok (some addr)
    | .error _ => .ok none
    | .panic reason => .panic reason
  if attrType = 0x0020 then found (parseXORMappedAddress val txID)
  else if attrType = 0x0001 then found (parseMappedAddress val)
  else .ok none

/-- The loop over the attributes. -/
def parseAttributes (attrs : List UInt8) (txID : TransactionID) (idx : Nat) :
    Outcome ParseError UDPAddr :=
  if idx + 4 ≤ attrs.length then do
    let attrType ← uint16At attrs idx
    let attrLen ← uint16At attrs (idx + 2)
    let valStart := idx + 4
    let valEnd := valStart + attrLen.toNat
    .require (valEnd ≤ attrs.length) .attributeOverrun
    let val ← slice attrs valStart valEnd
    match ← addressOf attrType val txID with
    | some addr => return addr
    | none =>
      -- aligned to a 4-byte boundary
      let paddedLen := (attrLen.toNat + 3) / 4 * 4
      parseAttributes attrs txID (idx + (4 + paddedLen))
  else .error .noMappedAddress
termination_by attrs.length - idx

def parseSTUNResponse (data : List UInt8) (expectedTxID : TransactionID) :
    Outcome ParseError UDPAddr := do
  .require (20 ≤ data.length) .tooShort
  let msgType ← uint16At data 0
  let msgLen ← uint16At data 2
  let cookie ← uint32At data 4
  .require (msgType = 0x0101) (.unexpectedType msgType)
  .require (cookie = magicCookie) (.invalidCookie cookie)
  let txID := TransactionID.copy (← slice data 8 20)
  .require (txID = expectedTxID) .txIDMismatch
  .require (20 + msgLen.toNat ≤ data.length) .truncated
  -- the upper bound is computed in uint16
  let attrs ← slice data 20 (20 + msgLen).toNat
  parseAttributes attrs txID 0

end GotaDaemon.Stun
