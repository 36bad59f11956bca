import GotaDaemon.Core.Sextets

/-! RawURLEncoding of encoding/base64: the URL alphabet, no padding, not
strict. Decoding skips CR and LF and does not look at the bits of the last
character that belong to no byte, so several texts decode to the same bytes;
the canonical one among them is the encoding of those bytes. -/
namespace GotaDaemon.Go.Base64
open Sextets

structure CorruptInputError where
  offset : Nat
  deriving DecidableEq, Repr

def CorruptInputError.text (err : CorruptInputError) : String :=
  "illegal base64 data at input byte " ++ toString err.offset

/-- A–Z, a–z, 0–9, dash and underscore. -/
def encodeURL (digit : Fin 64) : UInt8 :=
  if digit.val < 26 then .ofNat (65 + digit.val)
  else if digit.val < 52 then .ofNat (97 + (digit.val - 26))
  else if digit.val < 62 then .ofNat (48 + (digit.val - 52))
  else if digit.val = 62 then 45 else 95

def decodeMap (char : UInt8) : Option (Fin 64) :=
  if 65 ≤ char ∧ char ≤ 90 then some (.ofNat 64 (char.toNat - 65))
  else if 97 ≤ char ∧ char ≤ 122 then some (.ofNat 64 (char.toNat - 97 + 26))
  else if 48 ≤ char ∧ char ≤ 57 then some (.ofNat 64 (char.toNat - 48 + 52))
  else if char = 45 then some 62
  else if char = 95 then some 63
  else none

def newline (char : UInt8) : Bool := char = 10 || char = 13

def encodeToString (bytes : List UInt8) : List UInt8 := (sextets bytes).map encodeURL

/-- The decoder at position `si` with the digits of an unfinished quantum in
`dbuf`. A quantum is complete with four digits, or with two or three at the end
of the input. -/
def decodeFrom (si : Nat) (dbuf : List (Fin 64)) :
    List UInt8 → Except CorruptInputError (List UInt8)
  | [] =>
    match octets dbuf with
    | some bytes => .ok bytes
    | none => .error ⟨si - 1⟩
  | char :: rest =>
    match decodeMap char with
    | some digit =>
      if dbuf.length = 3 then
        (decodeFrom (si + 1) [] rest).map fun more => (octets (dbuf ++ [digit])).getD [] ++ more
      else decodeFrom (si + 1) (dbuf ++ [digit]) rest
    | none => if newline char then decodeFrom (si + 1) dbuf rest else .error ⟨si⟩

def decodeString (text : List UInt8) : Except CorruptInputError (List UInt8) := decodeFrom 0 [] text

theorem decodeMap_encodeURL (digit : Fin 64) : decodeMap (encodeURL digit) = some digit := by
  revert digit
  decide

theorem encodeURL_decodeMap {char : UInt8} {digit : Fin 64} (value : decodeMap char = some digit) :
    encodeURL digit = char := by
  have table : ∀ char : Fin 256,
      ((decodeMap ⟨⟨char⟩⟩).all fun digit => encodeURL digit == ⟨⟨char⟩⟩) = true := by
    decide +kernel
  obtain ⟨⟨char⟩⟩ := char
  have row := table char
  rw [value] at row
  exact eq_of_beq row

theorem decodeMap_newline {char : UInt8} (skipped : newline char = true) :
    decodeMap char = none := by
  simp only [newline, Bool.or_eq_true, decide_eq_true_eq] at skipped
  rcases skipped with rfl | rfl <;> rfl

theorem newline_encodeURL (digit : Fin 64) : newline (encodeURL digit) = false := by
  rw [← Bool.not_eq_true]
  intro skipped
  have none := decodeMap_newline skipped
  simp [decodeMap_encodeURL] at none

variable {text bytes : List UInt8}

/-- What is left of a text without its line ends. -/
def unwrapped (text : List UInt8) : List UInt8 := text.filter fun char => !newline char

theorem octets_quantum {dbuf : List (Fin 64)} (full : dbuf.length = 4) (rest : List (Fin 64)) :
    octets (dbuf ++ rest) = (octets rest).map fun more => (octets dbuf).getD [] ++ more := by
  obtain ⟨a, b, c, d, rfl⟩ : ∃ a b c d, dbuf = [a, b, c, d] := by
    match dbuf, full with
    | [a, b, c, d], _ => exact ⟨a, b, c, d, rfl⟩
  simp [octets]

theorem encodeURL_cons {digit : Fin 64} {rest : List UInt8} (P : List (Fin 64) → Prop) :
    (∃ digits, encodeURL digit :: rest = digits.map encodeURL ∧ P digits) ↔
      ∃ more, rest = more.map encodeURL ∧ P (digit :: more) := by
  constructor
  · rintro ⟨digits, same, holds⟩
    cases digits with
    | nil => simp at same
    | cons first more =>
      obtain ⟨head, tail⟩ := List.cons.inj same
      have equal := congrArg decodeMap head
      simp only [decodeMap_encodeURL, Option.some.injEq] at equal
      exact ⟨more, tail, equal ▸ holds⟩
  · rintro ⟨more, rfl, holds⟩
    exact ⟨digit :: more, rfl, holds⟩

/-- What the decoder accepts from within a quantum. -/
theorem decodeFrom_ok {dbuf : List (Fin 64)} {si : Nat} (short : dbuf.length ≤ 3) :
    decodeFrom si dbuf text = .ok bytes ↔
      ∃ digits, unwrapped text = digits.map encodeURL ∧ octets (dbuf ++ digits) = some bytes := by
  induction text generalizing si dbuf bytes with
  | nil =>
    have none : ∀ digits : List (Fin 64), unwrapped [] = digits.map encodeURL ↔ digits = [] := by
      simp [unwrapped]
    simp only [none, exists_eq_left, List.append_nil, decodeFrom]
    cases octets dbuf <;> simp
  | cons char rest ih =>
    rw [decodeFrom]
    cases value : decodeMap char with
    | none =>
      cases skipped : newline char with
      | true =>
        rw [if_pos rfl, ih short]
        simp [unwrapped, skipped]
      | false =>
        simp only [Bool.false_eq_true, if_false, reduceCtorEq, false_iff, not_exists, not_and]
        intro digits same
        -- a character that is neither skipped nor a digit is nobody's encoding
        have member : char ∈ digits.map encodeURL := by
          rw [← same]
          simp [unwrapped, skipped]
        obtain ⟨digit, _, rfl⟩ := List.mem_map.mp member
        simp [decodeMap_encodeURL] at value
    | some digit =>
      obtain rfl := encodeURL_decodeMap value
      have kept : unwrapped (encodeURL digit :: rest) = encodeURL digit :: unwrapped rest := by
        simp [unwrapped, newline_encodeURL]
      have cons : (∃ digits, unwrapped (encodeURL digit :: rest) = digits.map encodeURL ∧
          octets (dbuf ++ digits) = some bytes) ↔ ∃ more, unwrapped rest = more.map encodeURL ∧
          octets ((dbuf ++ [digit]) ++ more) = some bytes := by
        rw [kept, encodeURL_cons (P := fun digits => octets (dbuf ++ digits) = some bytes)]
        simp
      rw [cons]
      by_cases full : dbuf.length = 3
      · have four : (dbuf ++ [digit]).length = 4 := by simp [full]
        simp only [if_pos full, octets_quantum four, Option.map_eq_some_iff]
        constructor
        · intro decoded
          cases inner : decodeFrom (si + 1) [] rest with
          | error => simp [inner, Except.map] at decoded
          | ok more =>
            simp only [inner, Except.map, Except.ok.injEq] at decoded
            obtain ⟨digits, same, read⟩ := (ih (by simp)).mp inner
            exact ⟨digits, same, more, read, decoded⟩
        · rintro ⟨digits, same, more, read, rfl⟩
          have inner : decodeFrom (si + 1) [] rest = .ok more :=
            (ih (by simp)).mpr ⟨digits, same, read⟩
          rw [inner]
          rfl
      · have still : (dbuf ++ [digit]).length ≤ 3 := by
          simp only [List.length_append, List.length_singleton]
          omega
        simp only [if_neg full, ih still]

theorem decodeString_ok : decodeString text = .ok bytes ↔
    ∃ digits, unwrapped text = digits.map encodeURL ∧ octets digits = some bytes := by
  rw [decodeString, decodeFrom_ok (by simp)]
  simp only [List.nil_append]

theorem unwrapped_map (digits : List (Fin 64)) :
    unwrapped (digits.map encodeURL) = digits.map encodeURL := by
  apply List.filter_eq_self.mpr
  intro char member
  obtain ⟨digit, _, rfl⟩ := List.mem_map.mp member
  rw [newline_encodeURL, Bool.not_false]

theorem decodeString_encodeToString (bytes : List UInt8) :
    decodeString (encodeToString bytes) = .ok bytes :=
  decodeString_ok.mpr ⟨sextets bytes, unwrapped_map _, octets_sextets bytes⟩

theorem encodeToString_length (bytes : List UInt8) :
    (encodeToString bytes).length = (bytes.length * 4 + 2) / 3 := by
  rw [encodeToString, List.length_map, sextets_length]

theorem decodeString_length (read : decodeString text = .ok bytes) :
    (bytes.length * 4 + 2) / 3 ≤ text.length := by
  obtain ⟨digits, same, octs⟩ := decodeString_ok.mp read
  have fewer : (unwrapped text).length ≤ text.length := List.length_filter_le _ _
  rw [same, List.length_map, octets_length octs] at fewer
  exact fewer

/-- An encoding has only characters of the alphabet. -/
theorem not_mem_encodeToString {char : UInt8} (outside : decodeMap char = none)
    (bytes : List UInt8) :
    char ∉ encodeToString bytes := by
  intro member
  obtain ⟨digit, _, rfl⟩ := List.mem_map.mp member
  simp [decodeMap_encodeURL] at outside

/-- No line ends, and zeros for the bits that belong to no byte. -/
def Canonical (text : List UInt8) : Prop :=
  (∀ char ∈ text, newline char = false) ∧ Clean (text.filterMap decodeMap)

instance (text : List UInt8) : Decidable (Canonical text) := inferInstanceAs (Decidable (_ ∧ _))

theorem filterMap_map (digits : List (Fin 64)) :
    (digits.map encodeURL).filterMap decodeMap = digits := by
  induction digits with
  | nil => rfl
  | cons digit rest ih => simp [decodeMap_encodeURL, ih]

/-- Of all the texts that decode to some bytes only the canonical one is their
encoding. -/
theorem encodeToString_decodeString (read : decodeString text = .ok bytes) :
    encodeToString bytes = text ↔ Canonical text := by
  constructor
  · rintro rfl
    refine ⟨fun char member => ?_, ?_⟩
    · obtain ⟨digit, _, rfl⟩ := List.mem_map.mp member
      exact newline_encodeURL digit
    · rw [encodeToString, filterMap_map]
      exact sextets_clean bytes
  · rintro ⟨unbroken, clean⟩
    obtain ⟨digits, same, octs⟩ := decodeString_ok.mp read
    have whole : unwrapped text = text := by
      apply List.filter_eq_self.mpr
      intro char member
      rw [unbroken char member, Bool.not_false]
    rw [whole] at same
    rw [same, filterMap_map] at clean
    rw [encodeToString, sextets_octets octs clean, same]

end GotaDaemon.Go.Base64
