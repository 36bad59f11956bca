import GotaDaemon.Core.BigEndian

/-! Records of a type, a length and a value, in 16-bit numbers. Each record is
filled up to a multiple of some unit with bytes that mean nothing. -/
namespace GotaDaemon.Tlv
open BigEndian

def alignUp (unit n : Nat) : Nat := (n + (unit - 1)) / unit * unit

theorem le_alignUp {unit n : Nat} (positive : 0 < unit) : n ≤ alignUp unit n := by
  have remainder := Nat.mod_lt (n + (unit - 1)) positive
  have whole := Nat.div_add_mod' (n + (unit - 1)) unit
  rw [alignUp]
  omega

structure Entry where
  kind : UInt16
  value : List UInt8
  fits : value.length < 2 ^ 16

def Entry.bytes (entry : Entry) : List UInt8 :=
  put 2 entry.kind.toNat ++ (put 2 entry.value.length ++ entry.value)

structure Record (unit : Nat) extends Entry where
  padding : List UInt8
  aligned : value.length + padding.length = alignUp unit value.length

variable {unit : Nat}

def Record.bytes (record : Record unit) : List UInt8 := record.toEntry.bytes ++ record.padding

def stream (records : List (Record unit)) : List UInt8 := records.flatMap Record.bytes

@[simp] theorem stream_nil : stream ([] : List (Record unit)) = [] := rfl

@[simp] theorem stream_cons (record : Record unit) (records : List (Record unit)) :
    stream (record :: records) = record.bytes ++ stream records := List.flatMap_cons

@[simp] theorem Entry.bytes_length (entry : Entry) :
    entry.bytes.length = 4 + entry.value.length := by
  simp only [bytes, List.length_append, put_length]
  omega

@[simp] theorem Record.bytes_length (record : Record unit) :
    record.bytes.length = 4 + alignUp unit record.value.length := by
  rw [bytes, List.length_append, Entry.bytes_length, ← record.aligned]
  omega

theorem Entry.length_toNat (entry : Entry) :
    (UInt16.ofNat entry.value.length).toNat = entry.value.length := by
  rw [UInt16.toNat_ofNat', Nat.mod_eq_of_lt entry.fits]

/-- An entry with enough bytes after it is a record. -/
theorem Entry.fill (entry : Entry) {after : List UInt8}
    (enough : alignUp unit entry.value.length ≤ entry.value.length + after.length)
    (positive : 0 < unit) :
    ∃ (record : Record unit) (rest : List UInt8), record.toEntry = entry ∧
    after = record.padding ++ rest := by
  have grows := le_alignUp (n := entry.value.length) positive
  have length : (after.take (alignUp unit entry.value.length - entry.value.length)).length =
      alignUp unit entry.value.length - entry.value.length := List.length_take_of_le (by omega)
  refine ⟨⟨entry, after.take (alignUp unit entry.value.length - entry.value.length), by omega⟩,
    after.drop (alignUp unit entry.value.length - entry.value.length), rfl, ?_⟩
  exact (List.take_append_drop _ after).symm

/-- Any bytes are too few for an entry, or declare more than there is, or begin
with an entry. -/
theorem entry_cases (bytes : List UInt8) :
    bytes.length < 4 ∨
    (∃ (kind length : UInt16) (rest : List UInt8),
      bytes = put 2 kind.toNat ++ (put 2 length.toNat ++ rest) ∧ rest.length < length.toNat) ∨
    ∃ (entry : Entry) (rest : List UInt8), bytes = entry.bytes ++ rest := by
  by_cases few : bytes.length < 4
  · exact .inl few
  obtain ⟨kind, bytes, rfl⟩ := exists_put_uint16 (show 2 ≤ bytes.length by omega)
  rw [List.length_append, put_length] at few
  obtain ⟨length, rest, rfl⟩ := exists_put_uint16 (show 2 ≤ bytes.length by omega)
  by_cases overrun : rest.length < length.toNat
  · exact .inr (.inl ⟨kind, length, rest, rfl, overrun⟩)
  · have whole : (rest.take length.toNat).length = length.toNat := List.length_take_of_le (by omega)
    refine .inr (.inr ⟨⟨kind, rest.take length.toNat, ?_⟩, rest.drop length.toNat, ?_⟩)
    · rw [whole]
      exact length.toNat_lt
    · simp only [Entry.bytes, whole, List.append_assoc, List.take_append_drop]

end GotaDaemon.Tlv
