import Mathlib.Tactic

/-! Bytes in groups of six bits, most significant bits first. A last group that
the bytes do not fill is filled up with zero bits; reading the groups back
ignores those bits, whatever they are. -/
namespace GotaDaemon.Sextets

instance sixtyFour : NeZero 64 := ⟨by decide⟩

/-- Three bytes are four groups. -/
def sextets : List UInt8 → List (Fin 64)
  | a :: b :: c :: rest =>
    let val := a.toNat * 65536 + b.toNat * 256 + c.toNat
    .ofNat 64 (val / 262144) :: .ofNat 64 (val / 4096) ::
      .ofNat 64 (val / 64) :: .ofNat 64 val :: sextets rest
  | [a, b] =>
    let val := a.toNat * 65536 + b.toNat * 256
    [.ofNat 64 (val / 262144), .ofNat 64 (val / 4096), .ofNat 64 (val / 64)]
  | [a] =>
    let val := a.toNat * 65536
    [.ofNat 64 (val / 262144), .ofNat 64 (val / 4096)]
  | [] => []

/-- One group by itself holds no byte. -/
def octets : List (Fin 64) → Option (List UInt8)
  | a :: b :: c :: d :: rest =>
    let val := a.val * 262144 + b.val * 4096 + c.val * 64 + d.val
    (octets rest).map fun more => .ofNat (val / 65536) :: .ofNat (val / 256) :: .ofNat val :: more
  | [a, b, c] =>
    let val := a.val * 262144 + b.val * 4096 + c.val * 64
    some [.ofNat (val / 65536), .ofNat (val / 256)]
  | [a, b] =>
    let val := a.val * 262144 + b.val * 4096
    some [.ofNat (val / 65536)]
  | [_] => none
  | [] => some []

/-- The bits of the last group that belong to no byte are zero. -/
def Clean : List (Fin 64) → Prop
  | _ :: _ :: _ :: _ :: rest => Clean rest
  | [_, _, c] => c.val % 4 = 0
  | [_, b] => b.val % 16 = 0
  | _ => True

instance Clean.decide : (groups : List (Fin 64)) → Decidable (Clean groups)
  | _ :: _ :: _ :: _ :: rest => Clean.decide rest
  | [_, _, c] => inferInstanceAs (Decidable (c.val % 4 = 0))
  | [_, b] => inferInstanceAs (Decidable (b.val % 16 = 0))
  | [_] | [] => inferInstanceAs (Decidable True)

theorem byte_eq {byte : UInt8} {val : Nat} (same : val % 256 = byte.toNat) :
    UInt8.ofNat val = byte := by
  rw [← UInt8.toNat_inj, UInt8.toNat_ofNat', ← same]

theorem octets_sextets (bytes : List UInt8) : octets (sextets bytes) = some bytes := by
  fun_induction sextets bytes with
  | case1 a b c rest val ih =>
    have ha := a.toNat_lt
    have hb := b.toNat_lt
    have hc := c.toNat_lt
    simp only [octets, ih, Option.map_some, Option.some.injEq, List.cons.injEq, and_true,
      Fin.val_ofNat]
    refine ⟨byte_eq ?_, byte_eq ?_, byte_eq ?_⟩ <;> omega
  | case2 a b val =>
    have ha := a.toNat_lt
    have hb := b.toNat_lt
    simp only [octets, Option.some.injEq, List.cons.injEq, and_true, Fin.val_ofNat]
    refine ⟨byte_eq ?_, byte_eq ?_⟩ <;> omega
  | case3 a val =>
    have ha := a.toNat_lt
    simp only [octets, Option.some.injEq, List.cons.injEq, and_true, Fin.val_ofNat]
    exact byte_eq (by omega)
  | case4 => rfl

theorem sextets_clean (bytes : List UInt8) : Clean (sextets bytes) := by
  fun_induction sextets bytes with
  | case1 a b c rest val ih => exact ih
  | case2 a b val =>
    simp only [Clean, Fin.val_ofNat]
    omega
  | case3 a val =>
    simp only [Clean, Fin.val_ofNat]
    omega
  | case4 => trivial

/-- Groups that are clean are the groups of the bytes they hold. -/
theorem sextets_octets {groups : List (Fin 64)} {bytes : List UInt8}
    (read : octets groups = some bytes) (clean : Clean groups) : sextets bytes = groups := by
  induction groups using octets.induct generalizing bytes with
  | case1 a b c d rest ih =>
    rw [octets] at read
    obtain ⟨more, inner, rfl⟩ := Option.map_eq_some_iff.mp read
    simp only [sextets, ih inner clean, List.cons.injEq, and_true, UInt8.toNat_ofNat']
    refine ⟨Fin.ext ?_, Fin.ext ?_, Fin.ext ?_, Fin.ext ?_⟩ <;> simp only [Fin.val_ofNat] <;> omega
  | case2 a b c =>
    cases read
    simp only [Clean] at clean
    simp only [sextets, List.cons.injEq, and_true, UInt8.toNat_ofNat']
    refine ⟨Fin.ext ?_, Fin.ext ?_, Fin.ext ?_⟩ <;> simp only [Fin.val_ofNat] <;> omega
  | case3 a b =>
    cases read
    simp only [Clean] at clean
    simp only [sextets, List.cons.injEq, and_true, UInt8.toNat_ofNat']
    refine ⟨Fin.ext ?_, Fin.ext ?_⟩ <;> simp only [Fin.val_ofNat] <;> omega
  | case4 => simp [octets] at read
  | case5 =>
    cases read
    rfl

theorem sextets_length (bytes : List UInt8) :
    (sextets bytes).length = (bytes.length * 4 + 2) / 3 := by
  fun_induction sextets bytes with
  | case1 a b c rest val ih =>
    simp only [List.length_cons, ih]
    omega
  | case2 | case3 | case4 => simp

theorem octets_length {groups : List (Fin 64)} {bytes : List UInt8}
    (read : octets groups = some bytes) :
    groups.length = (bytes.length * 4 + 2) / 3 := by
  induction groups using octets.induct generalizing bytes with
  | case1 a b c d rest ih =>
    rw [octets] at read
    obtain ⟨more, inner, rfl⟩ := Option.map_eq_some_iff.mp read
    simp only [List.length_cons, ih inner]
    omega
  | case4 => simp [octets] at read
  | case2 | case3 | case5 =>
    cases read
    simp

end GotaDaemon.Sextets
