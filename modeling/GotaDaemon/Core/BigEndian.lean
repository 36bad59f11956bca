import Mathlib.Data.List.Induction
import Mathlib.Tactic

/-! Network byte order for unsigned numbers of any width in bytes. -/
namespace GotaDaemon.BigEndian

/-- The `width` low-order bytes of a number, most significant byte first. -/
def put : Nat → Nat → List UInt8
  | 0, _ => []
  | width + 1, value => put width (value / 256) ++ [UInt8.ofNat value]

def get (bytes : List UInt8) : Nat :=
  bytes.foldl (fun value byte => 256 * value + byte.toNat) 0

@[simp] theorem put_length (width value : Nat) : (put width value).length = width := by
  induction width generalizing value with
  | zero => rfl
  | succ width ih => simp only [put, List.length_append, ih, List.length_singleton]

@[simp] theorem get_append_singleton (bytes : List UInt8) (byte : UInt8) :
    get (bytes ++ [byte]) = 256 * get bytes + byte.toNat := by
  simp only [get, List.foldl_append, List.foldl_cons, List.foldl_nil]

theorem get_put {width value : Nat} (fits : value < 256 ^ width) :
    get (put width value) = value := by
  induction width generalizing value with
  | zero =>
    have zero : value = 0 := by simpa using fits
    simp [put, get, zero]
  | succ width ih =>
    have high : value / 256 < 256 ^ width := by
      apply (Nat.div_lt_iff_lt_mul (by decide)).mpr
      simpa only [Nat.pow_succ] using fits
    rw [put, get_append_singleton, ih high, UInt8.toNat_ofNat']
    exact Nat.div_add_mod value 256

theorem get_lt (bytes : List UInt8) : get bytes < 256 ^ bytes.length := by
  induction bytes using List.reverseRecOn with
  | nil => decide
  | append_singleton bytes byte ih =>
    have low := byte.toNat_lt
    rw [get_append_singleton, List.length_append, List.length_singleton, Nat.pow_succ]
    omega

theorem put_get (bytes : List UInt8) : put bytes.length (get bytes) = bytes := by
  induction bytes using List.reverseRecOn with
  | nil => rfl
  | append_singleton bytes byte ih =>
    have low := byte.toNat_lt
    have high : (256 * get bytes + byte.toNat) / 256 = get bytes := by omega
    have last : UInt8.ofNat (256 * get bytes + byte.toNat) = byte := by
      apply UInt8.toNat_inj.mp
      rw [UInt8.toNat_ofNat']
      omega
    rw [get_append_singleton, List.length_append, List.length_singleton, put, high, ih, last]

/-- Any bytes at least as many as the width begin with a number. -/
theorem exists_put {width : Nat} {bytes : List UInt8} (enough : width ≤ bytes.length) :
    ∃ value rest, value < 256 ^ width ∧ bytes = put width value ++ rest := by
  have length : (bytes.take width).length = width := List.length_take_of_le enough
  refine ⟨get (bytes.take width), bytes.drop width, ?_, ?_⟩
  · have bound := get_lt (bytes.take width)
    rwa [length] at bound
  · have whole := put_get (bytes.take width)
    rw [length] at whole
    rw [whole, List.take_append_drop]

/-- Numbers are combined byte by byte. -/
theorem get_zipWith_xor {first second : List UInt8} (same : first.length = second.length) :
    get (List.zipWith (· ^^^ ·) first second) = get first ^^^ get second := by
  induction first using List.reverseRecOn generalizing second with
  | nil =>
    obtain rfl := List.length_eq_zero_iff.mp same.symm
    rfl
  | append_singleton first a ih =>
    rcases List.eq_nil_or_concat second with rfl | ⟨second, b, rfl⟩
    · simp at same
    · have shorter : first.length = second.length := by simpa using same
      have below := a.toNat_lt
      have below' := b.toNat_lt
      have high : ((256 * get first + a.toNat) ^^^ (256 * get second + b.toNat)) / 2 ^ 8 =
          get first ^^^ get second := by
        rw [Nat.xor_div_two_pow]
        congr 1 <;> omega
      have low : ((256 * get first + a.toNat) ^^^ (256 * get second + b.toNat)) % 2 ^ 8 =
          a.toNat ^^^ b.toNat := by
        rw [Nat.xor_mod_two_pow]
        congr 1 <;> omega
      rw [List.concat_eq_append, List.zipWith_append shorter, List.zipWith_cons_cons,
        List.zipWith_nil_left,
        get_append_singleton, get_append_singleton, get_append_singleton, ih shorter,
          UInt8.toNat_xor]
      omega

theorem get_put_uint16 (value : UInt16) : UInt16.ofNat (get (put 2 value.toNat)) = value := by
  rw [get_put value.toNat_lt, UInt16.ofNat_toNat]

theorem put_get_uint16 {bytes : List UInt8} (two : bytes.length = 2) :
    put 2 (UInt16.ofNat (get bytes)).toNat = bytes := by
  have bound : get bytes < 2 ^ 16 := by
    have below := get_lt bytes
    rw [two] at below
    omega
  rw [UInt16.toNat_ofNat', Nat.mod_eq_of_lt bound, ← two, put_get]

theorem exists_put_uint16 {bytes : List UInt8} (enough : 2 ≤ bytes.length) :
    ∃ (value : UInt16) (rest : List UInt8), bytes = put 2 value.toNat ++ rest := by
  obtain ⟨value, rest, bound, rfl⟩ := exists_put enough
  exact ⟨UInt16.ofNat value, rest, by rw [UInt16.toNat_ofNat', Nat.mod_eq_of_lt (by omega)]⟩

theorem exists_put_uint32 {bytes : List UInt8} (enough : 4 ≤ bytes.length) :
    ∃ (value : UInt32) (rest : List UInt8), bytes = put 4 value.toNat ++ rest := by
  obtain ⟨value, rest, bound, rfl⟩ := exists_put enough
  exact ⟨UInt32.ofNat value, rest, by rw [UInt32.toNat_ofNat', Nat.mod_eq_of_lt (by omega)]⟩

end GotaDaemon.BigEndian
