import Mathlib.Data.List.TakeWhile
import Mathlib.Data.Nat.Digits.Defs
import Mathlib.Tactic

/-! IP addresses of package net. IP.String has one text per address: what
compares equal as text is the same address, an IPv4 address being the same in
its 4-byte and its 16-byte form. -/
namespace GotaDaemon.Go

namespace Numeral
variable {base n m : Nat}

theorem digitChar_inj {d e : Nat} (left : d < 16) (right : e < 16)
    (same : d.digitChar = e.digitChar) : d = e := by
  have table : ∀ d e : Fin 16, d.val.digitChar = e.val.digitChar → d = e := by decide
  exact Fin.mk.inj (table ⟨d, left⟩ ⟨e, right⟩ same)

theorem mem_toDigits (large : 1 < base) {char : Char} (member : char ∈ base.toDigits n) :
    ∃ d, d < base ∧ char = d.digitChar := by
  induction n using Nat.strongRecOn with
  | ind n ih =>
    rw [Nat.toDigits_eq_if large] at member
    split at member
    · rename_i small
      exact ⟨n, small, List.mem_singleton.mp member⟩
    · rename_i big
      rcases List.mem_append.mp member with high | low
      · exact ih (n / base) (Nat.div_lt_self (by omega) large) high
      · exact ⟨n % base, Nat.mod_lt _ (by omega), List.mem_singleton.mp low⟩

theorem toDigits_injective (large : 1 < base) (bound : base ≤ 16)
    (same : base.toDigits n = base.toDigits m) :
    n = m := by
  induction n using Nat.strongRecOn generalizing m with
  | ind n ih =>
    rw [Nat.toDigits_eq_if large (n := n), Nat.toDigits_eq_if large (n := m)] at same
    split at same <;> split at same
    · exact digitChar_inj (by omega) (by omega) (List.singleton_inj.mp same)
    · have lengths := congrArg List.length same
      simp at lengths
    · have lengths := congrArg List.length same
      simp at lengths
    · obtain ⟨high, low⟩ := List.append_inj' same rfl
      have quotient := ih (n / base) (Nat.div_lt_self (by omega) large) high
      have remainder := digitChar_inj (by have := Nat.mod_lt n (y := base) (by omega); omega)
        (by have := Nat.mod_lt m (y := base) (by omega); omega) (List.singleton_inj.mp low)
      rw [← Nat.div_add_mod n base, ← Nat.div_add_mod m base, quotient, remainder]

/-- No numeral holds one of the characters that IP.String uses beside digits. -/
theorem digitChar_ne {d : Nat} (bound : d < 16) : d.digitChar ∉ ['.', ':', '<', '?'] := by
  have table : ∀ d : Fin 16, d.val.digitChar ∉ ['.', ':', '<', '?'] := by decide
  exact table ⟨d, bound⟩

theorem not_mem_toDigits (large : 1 < base) (bound : base ≤ 16) {char : Char}
    (mark : char ∈ ['.', ':', '<', '?']) :
    char ∉ base.toDigits n := by
  intro member
  obtain ⟨d, small, rfl⟩ := mem_toDigits large member
  exact digitChar_ne (by omega) mark

end Numeral

abbrev IP := List UInt8

structure UDPAddr where
  ip : IP
  port : Nat
  zone : String := ""
  deriving DecidableEq, Repr

namespace IP

def v4InV6Head : IP := List.replicate 10 0 ++ [0xff, 0xff]

def to4 (ip : IP) : Option IP :=
  if ip.length = 4 then some ip
  else if ip.length = 16 ∧ ip.take 12 = v4InV6Head then some (ip.drop 12)
  else none

/-- The address with the IPv4-in-IPv6 form undone. -/
def unmap (ip : IP) : IP := ip.to4.getD ip

/-- The 16-bit groups of an IPv6 address. -/
def groups : IP → List Nat
  | high :: low :: rest => (256 * high.toNat + low.toNat) :: groups rest
  | [_] => []
  | [] => []

/-- Start and length of the longest run of at least two zero groups, the first
one of several; length 0 where there is none. -/
def zeroRun (parts : List Nat) : Nat × Nat :=
  (List.range parts.length).foldl (fun best i =>
    let run := ((parts.drop i).takeWhile (· = 0)).length
    if 2 ≤ run ∧ best.2 < run then (i, run) else best) (0, 0)

/-- An empty side of a "::" still has its colon. -/
def side (parts : List (List Char)) : List (List Char) :=
  if parts = [] then [[]] else parts

/-- What stands between the colons; the empty piece inside is the "::". -/
def pieces (parts : List Nat) : List (List Char) :=
  let (start, run) := zeroRun parts
  if run = 0 then parts.map (Nat.toDigits 16)
  else side ((parts.take start).map (Nat.toDigits 16)) ++ [[]] ++
    side ((parts.drop (start + run)).map (Nat.toDigits 16))

def hexString (ip : IP) : List Char :=
  ip.flatMap fun byte => [(byte.toNat / 16).digitChar, (byte.toNat % 16).digitChar]

/-- IP.String -/
def string (ip : IP) : List Char :=
  if ip.length = 0 then ['<', 'n', 'i', 'l', '>']
  else if ip.length ≠ 4 ∧ ip.length ≠ 16 then '?' :: hexString ip
  else match ip.to4 with
    | some v4 => ['.'].intercalate (v4.map fun byte => Nat.toDigits 10 byte.toNat)
    | none => [':'].intercalate (pieces (groups ip))

section Text
variable {ip other : IP} {parts others : List Nat}

theorem groups_injective (same : groups ip = groups other) (even : ip.length % 2 = 0)
    (lengths : ip.length = other.length) : ip = other := by
  induction ip using groups.induct generalizing other with
  | case1 high low rest ih =>
    match other, lengths with
    | first :: second :: tail, lengths =>
      simp only [groups, List.cons.injEq] at same
      have bounds := And.intro low.toNat_lt second.toNat_lt
      have highs : high = first := UInt8.toNat_inj.mp (by omega)
      have lows : low = second := UInt8.toNat_inj.mp (by omega)
      rw [highs, lows, ih same.2 (by simp at even; omega) (by simpa using lengths)]
  | case2 => simp at even
  | case3 => exact (List.eq_nil_of_length_eq_zero lengths.symm).symm

theorem groups_length : ∀ ip : IP, (groups ip).length = ip.length / 2
  | [] | [_] => by simp [groups]
  | _ :: _ :: rest => by simp [groups, groups_length rest]; omega

/-- The run that is left out holds zeros only. -/
theorem zeroRun_split (parts : List Nat) :
    parts = parts.take (zeroRun parts).1 ++ List.replicate (zeroRun parts).2 0 ++
      parts.drop ((zeroRun parts).1 + (zeroRun parts).2) := by
  suffices zeros :
      ∃ rest, parts.drop (zeroRun parts).1 = List.replicate (zeroRun parts).2 0 ++ rest by
    obtain ⟨rest, zeros⟩ := zeros
    rw [← List.drop_drop, zeros, List.drop_left' (List.length_replicate ..),
      List.append_assoc, ← zeros,
      List.take_append_drop]
  unfold zeroRun
  generalize List.range parts.length = starts
  -- the best run found so far is a run of zeros
  suffices invariant : ∀ best : Nat × Nat,
    (∃ rest, parts.drop best.1 = List.replicate best.2 0 ++ rest) →
      ∃ rest, parts.drop (starts.foldl _ best).1 =
        List.replicate (starts.foldl _ best).2 0 ++ rest from
    invariant (0, 0) ⟨parts, by simp⟩
  induction starts with
  | nil => exact fun best held => held
  | cons i starts ih =>
    intro best held
    apply ih
    dsimp only
    split
    · refine ⟨(parts.drop i).dropWhile (· = 0), ?_⟩
      have zeros :
          (parts.drop i).takeWhile (· = 0) =
            List.replicate ((parts.drop i).takeWhile (· = 0)).length 0 :=
        List.eq_replicate_of_mem fun part member => by simpa using List.mem_takeWhile_imp member
      conv_lhs => rw [← List.takeWhile_append_dropWhile (p := (· = 0)) (l := parts.drop i), zeros]
    · exact held

variable {left right first last rest tail : List (List Char)}

theorem takeWhile_side (full : ∀ piece ∈ left, piece ≠ []) (rest : List (List Char)) :
    (side left ++ [] :: rest).takeWhile (· ≠ []) = left := by
  unfold side
  split
  · simp_all
  · rw [List.takeWhile_append_of_pos (by simpa using full)]
    simp

theorem side_inj (full : ∀ piece ∈ left, piece ≠ []) (filled : ∀ piece ∈ first, piece ≠ [])
    (same : side left ++ [] :: rest = side first ++ [] :: tail) : left = first := by
  rw [← takeWhile_side full rest, same, takeWhile_side filled]

theorem reverse_sides :
    (side left ++ [] :: side right).reverse = side right.reverse ++ [] :: side left.reverse := by
  have reverse_side (parts : List (List Char)) : (side parts).reverse = side parts.reverse := by
    unfold side
    split <;> simp_all
  simp [reverse_side]

theorem numerals_full : ∀ piece ∈ parts.map (Nat.toDigits 16), piece ≠ [] := by
  intro piece member
  obtain ⟨part, _, rfl⟩ := List.mem_map.mp member
  exact Nat.toDigits_ne_nil

theorem numerals_injective (same : parts.map (Nat.toDigits 16) = others.map (Nat.toDigits 16)) :
    parts = others :=
  List.map_injective_iff.mpr (fun _ _ => Numeral.toDigits_injective (by decide) (by decide)) same

/-- Both sides of the "::" can be read off the pieces, and zeros fill the gap. -/
theorem pieces_injective (lengths : parts.length = others.length)
    (same : pieces parts = pieces others) :
    parts = others := by
  have gap (left right : List (List Char)) (parts : List Nat) :
      side left ++ [] :: side right ≠ parts.map (Nat.toDigits 16) := by
    intro same
    have member : [] ∈ parts.map (Nat.toDigits 16) := by simp [← same]
    exact numerals_full [] member rfl
  unfold pieces at same
  simp only [List.append_assoc, List.singleton_append] at same
  split at same <;> split at same
  · exact numerals_injective same
  · exact (gap _ _ _ same.symm).elim
  · exact (gap _ _ _ same).elim
  · have head := numerals_injective (side_inj numerals_full numerals_full same)
    have mirrored := congrArg List.reverse same
    simp only [reverse_sides, ← List.map_reverse] at mirrored
    have tail :=
      List.reverse_inj.mp (numerals_injective (side_inj numerals_full numerals_full mirrored))
    have split := zeroRun_split parts
    have divided := zeroRun_split others
    rw [← head, ← tail] at divided
    have total := congrArg List.length split
    have sum := congrArg List.length divided
    simp only [List.length_append, List.length_replicate] at total sum
    have zeros : (zeroRun others).2 = (zeroRun parts).2 := by omega
    rw [zeros] at divided
    exact split.trans divided.symm

theorem pieces_marks (many : 2 ≤ parts.length) : 2 ≤ (pieces parts).length ∧
    ∀ piece ∈ pieces parts, ∀ char ∈ ['.', ':', '<', '?'], char ∉ piece := by
  have numeral (parts : List Nat) :
      ∀ piece ∈ parts.map (Nat.toDigits 16), ∀ char ∈ ['.', ':', '<', '?'], char ∉ piece := by
    intro piece member char mark
    obtain ⟨part, _, rfl⟩ := List.mem_map.mp member
    exact Numeral.not_mem_toDigits (by decide) (by decide) mark
  have padded (parts : List Nat) :
      ∀ piece ∈ side (parts.map (Nat.toDigits 16)), ∀ char ∈ ['.', ':', '<', '?'],
        char ∉ piece := by
    unfold side
    split
    · simp
    · exact numeral parts
  have filled (parts : List (List Char)) : 1 ≤ (side parts).length := by
    unfold side
    split
    · simp
    · exact List.length_pos_iff.mpr ‹_›
  unfold pieces
  dsimp only
  split
  · exact ⟨by simpa using many, numeral parts⟩
  · refine ⟨?_, fun piece member => ?_⟩
    · have before := filled ((parts.take (zeroRun parts).1).map (Nat.toDigits 16))
      simp only [List.length_append, List.length_singleton]
      omega
    · simp only [List.mem_append, List.mem_singleton] at member
      rcases member with (left | rfl) | right
      · exact padded _ piece left
      · simp
      · exact padded _ piece right

theorem mem_intercalate {sep char : Char} {texts : List (List Char)} :
    char ∈ [sep].intercalate texts ↔ (char = sep ∧ 2 ≤ texts.length) ∨ ∃ text ∈ texts,
      char ∈ text := by
  induction texts with
  | nil => simp
  | cons text texts ih =>
    cases texts with
    | nil => simp
    | cons second texts =>
      rw [List.intercalate_cons_cons, List.mem_append, List.mem_append, List.mem_singleton, ih]
      simp only [List.length_cons, List.mem_cons, exists_eq_or_imp]
      constructor
      · rintro ((inside | rfl) | ⟨rfl, _⟩ | later)
        · exact .inr (.inl inside)
        · exact .inl ⟨rfl, by omega⟩
        · exact .inl ⟨rfl, by omega⟩
        · exact .inr (.inr later)
      · rintro (⟨rfl, _⟩ | inside | later)
        · exact .inl (.inr rfl)
        · exact .inl (.inl inside)
        · exact .inr (.inr later)

theorem intercalate_inj {sep : Char} {texts others : List (List Char)} (some : texts ≠ [])
    (any : others ≠ []) (free : ∀ text ∈ texts, sep ∉ text) (clear : ∀ text ∈ others, sep ∉ text)
    (same : [sep].intercalate texts = [sep].intercalate others) : texts = others := by
  rw [← List.splitOn_intercalate sep free some, same, List.splitOn_intercalate sep clear any]

theorem to4_length {v4 : IP} (found : ip.to4 = some v4) : v4.length = 4 := by
  unfold to4 at found
  split at found
  · cases found
    assumption
  · split at found
    · cases found
      simp_all
    · contradiction

theorem dotted_marks {v4 : IP} : ∀ text ∈ v4.map (fun byte => Nat.toDigits 10 byte.toNat),
    ∀ char ∈ ['.', ':', '<', '?'], char ∉ text := by
  intro text member char mark
  obtain ⟨byte, _, rfl⟩ := List.mem_map.mp member
  exact Numeral.not_mem_toDigits (by decide) (by decide) mark

theorem groups_many (sixteen : ip.length = 16) : 2 ≤ (groups ip).length := by
  rw [groups_length, sixteen]
  decide

/-- The four forms of IP.String, told apart by the character they are given with. -/
inductive Form (ip : IP) : Char → Prop where
  | nil : ip = [] → ip.string = ['<', 'n', 'i', 'l', '>'] → Form ip '<'
  | hexadecimal : ip.unmap = ip → ip.string = '?' :: hexString ip → Form ip '?'
  | dotted : ip.unmap.length = 4 →
      ip.string = ['.'].intercalate (ip.unmap.map fun byte => Nat.toDigits 10 byte.toNat) →
      Form ip '.'
  | colons : ip.length = 16 → ip.unmap = ip →
      ip.string = [':'].intercalate (pieces (groups ip)) → Form ip ':'

theorem exists_form (ip : IP) : ∃ mark, Form ip mark := by
  have text : ip.string = ip.string := rfl
  conv_rhs at text => unfold string
  split at text
  · exact ⟨_, .nil (List.eq_nil_of_length_eq_zero ‹_›) text⟩
  · split at text
    · rename_i lengths
      exact ⟨_, .hexadecimal (by simp [unmap, to4, lengths]) text⟩
    · rename_i lengths
      split at text
      · rename_i v4 found
        have same : ip.unmap = v4 := by simp [unmap, found]
        exact ⟨_, .dotted (same ▸ to4_length found) (same ▸ text)⟩
      · rename_i missing
        have sixteen : ip.length = 16 := by
          by_contra other
          have four : ip.length = 4 := by omega
          simp [to4, four] at missing
        exact ⟨_, .colons sixteen (by simp [unmap, missing]) text⟩

theorem Form.mem_string {mark char : Char} (form : Form ip mark)
    (known : char ∈ ['.', ':', '<', '?']) :
    char ∈ ip.string ↔ char = mark := by
  cases form with
  | nil _ text =>
    rw [text]
    fin_cases known <;> decide
  | hexadecimal _ text =>
    have digits : char ∉ hexString ip := by
      intro member
      obtain ⟨byte, _, inside⟩ := List.mem_flatMap.mp member
      have bound := byte.toNat_lt
      simp only [List.mem_cons, List.not_mem_nil, or_false] at inside
      rcases inside with rfl | rfl
      · exact Numeral.digitChar_ne (by omega) known
      · exact Numeral.digitChar_ne (by omega) known
    simp [text, digits]
  | dotted four text =>
    have free : ¬ ∃ text ∈ ip.unmap.map (fun byte => Nat.toDigits 10 byte.toNat), char ∈ text :=
      fun ⟨text, member, inside⟩ => dotted_marks text member char known inside
    simp only [text, mem_intercalate, free, or_false, List.length_map, four]
    simp
  | colons sixteen _ text =>
    obtain ⟨long, free⟩ := pieces_marks (groups_many sixteen)
    have absent : ¬ ∃ text ∈ pieces (groups ip), char ∈ text :=
      fun ⟨text, member, inside⟩ => free text member char known inside
    simp [text, mem_intercalate, long, absent]

theorem hexString_injective (same : hexString ip = hexString other) : ip = other := by
  induction ip generalizing other with
  | nil =>
    cases other with
    | nil => rfl
    | cons byte rest => simp [hexString] at same
  | cons byte rest ih =>
    cases other with
    | nil => simp [hexString] at same
    | cons first tail =>
      have bounds := And.intro byte.toNat_lt first.toNat_lt
      simp only [hexString, List.flatMap_cons, List.cons_append, List.nil_append,
        List.cons.injEq] at same
      have high := Numeral.digitChar_inj (by omega) (by omega) same.1
      have low := Numeral.digitChar_inj (by omega) (by omega) same.2.1
      rw [ih same.2.2, UInt8.toNat_inj.mp (show byte.toNat = first.toNat by omega)]

theorem dotted_injective {v4 second : IP} (four : v4.length = 4) (lengths : second.length = 4)
    (same : ['.'].intercalate (v4.map fun byte => Nat.toDigits 10 byte.toNat) =
      ['.'].intercalate (second.map fun byte => Nat.toDigits 10 byte.toNat)) : v4 = second := by
  have some (address : IP) (four : address.length = 4) :
      address.map (fun byte => Nat.toDigits 10 byte.toNat) ≠ [] := by
    intro empty
    simp [List.map_eq_nil_iff.mp empty] at four
  have texts := intercalate_inj (some v4 four) (some second lengths)
    (fun text member => dotted_marks text member '.' (by decide))
    (fun text member => dotted_marks text member '.' (by decide)) same
  exact List.map_injective_iff.mpr (fun _ _ numerals =>
    UInt8.toNat_inj.mp (Numeral.toDigits_injective (by decide) (by decide) numerals)) texts

theorem colons_injective (sixteen : ip.length = 16) (lengths : other.length = 16)
    (same : [':'].intercalate (pieces (groups ip)) = [':'].intercalate (pieces (groups other))) :
    ip = other := by
  have some (address : IP) (sixteen : address.length = 16) :
      pieces (groups address) ≠ [] ∧ ∀ piece ∈ pieces (groups address), ':' ∉ piece := by
    obtain ⟨long, free⟩ := pieces_marks (groups_many sixteen)
    exact ⟨fun empty =>
      by simp [empty] at long, fun piece member => free piece member ':' (by decide)⟩
  have texts := intercalate_inj (some ip sixteen).1 (some other lengths).1
    (some ip sixteen).2 (some other lengths).2 same
  refine groups_injective (pieces_injective ?_ texts) (by simp [sixteen])
    (by simp [sixteen, lengths])
  rw [groups_length, groups_length, sixteen, lengths]

/-- Addresses with the same text are the same address. -/
theorem unmap_eq_of_string (same : ip.string = other.string) : ip.unmap = other.unmap := by
  obtain ⟨mark, form⟩ := exists_form ip
  obtain ⟨sign, shape⟩ := exists_form other
  have marks : mark = sign := by
    have known : mark ∈ ['.', ':', '<', '?'] := by cases form <;> decide
    rw [← shape.mem_string known, ← same, form.mem_string known]
  subst marks
  cases form with
  | nil empty _ =>
    cases shape with
    | nil void _ => rw [empty, void]
  | hexadecimal whole text =>
    cases shape with
    | hexadecimal entire spelled =>
      rw [text, spelled] at same
      rw [whole, entire, hexString_injective (List.cons.inj same).2]
  | dotted four text =>
    cases shape with
    | dotted lengths spelled =>
      rw [text, spelled] at same
      exact dotted_injective four lengths same
  | colons sixteen whole text =>
    cases shape with
    | colons lengths entire spelled =>
      rw [text, spelled] at same
      rw [whole, entire, colons_injective sixteen lengths same]

end Text

end IP
end GotaDaemon.Go
