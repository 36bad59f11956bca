import GotaDaemon.Core.BigEndian

/-! Self-delimiting frames over an arbitrary alphabet. A framing carries the
laws that make a concatenation of frames uniquely readable, also when it has
been cut at an arbitrary place. -/
namespace GotaDaemon

structure Framing (α β : Type) where
  Valid : α → Prop
  encode : α → List β
  /-- Reads one complete frame off the front, or nothing. -/
  read : List β → Option (α × List β)
  read_encode : ∀ {a}, Valid a → ∀ rest, read (encode a ++ rest) = some (a, rest)
  read_sound : ∀ {input a rest}, read input = some (a, rest) → Valid a ∧ input = encode a ++ rest
  encode_ne_nil : ∀ {a}, Valid a → encode a ≠ []

namespace Framing
variable {α β : Type} (framing : Framing α β)

def stream (frames : List α) : List β := frames.flatMap framing.encode

def readUpTo : Nat → List β → List α × List β
  | 0, input => ([], input)
  | fuel + 1, input =>
    match framing.read input with
    | none => ([], input)
    | some (frame, rest) =>
      (frame :: (readUpTo fuel rest).1, (readUpTo fuel rest).2)

/-- All complete frames at the front, and what is left after them. A frame
takes at least one symbol, so the length of the input is fuel enough. -/
def readAll (input : List β) : List α × List β := framing.readUpTo input.length input

/-- The beginning of a frame of which at least one symbol is missing. -/
def Cut (tail : List β) : Prop :=
  ∃ frame missing, framing.Valid frame ∧ missing ≠ [] ∧ framing.encode frame = tail ++ missing

variable {framing} {frames : List α} {frame : α} {input tail : List β}

@[simp] theorem stream_nil : framing.stream [] = [] := rfl

@[simp] theorem stream_cons :
    framing.stream (frame :: frames) = framing.encode frame ++ framing.stream frames := by
  simp only [stream, List.flatMap_cons]

@[simp] theorem stream_append (more : List α) :
    framing.stream (frames ++ more) = framing.stream frames ++ framing.stream more := by
  simp only [stream, List.flatMap_append]

theorem length_le_stream (valid : ∀ frame ∈ frames, framing.Valid frame) :
    frames.length ≤ (framing.stream frames).length := by
  induction frames with
  | nil => exact Nat.zero_le _
  | cons head rest ih =>
    have positive := List.length_pos_iff.mpr (framing.encode_ne_nil (valid head (by simp)))
    have bound := ih (fun frame member => valid frame (by simp [member]))
    simp only [stream_cons, List.length_cons, List.length_append]
    omega

theorem readUpTo_stream (valid : ∀ frame ∈ frames, framing.Valid frame)
    (incomplete : framing.read tail = none) (enough : frames.length ≤ fuel) :
    framing.readUpTo fuel (framing.stream frames ++ tail) = (frames, tail) := by
  induction frames generalizing fuel with
  | nil => cases fuel <;> simp [readUpTo, incomplete]
  | cons head rest ih =>
    cases fuel with
    | zero => simp at enough
    | succ fuel =>
      have bound : rest.length ≤ fuel := by simpa using enough
      have following := ih (fun frame member => valid frame (by simp [member])) bound
      have first := framing.read_encode (valid head (by simp)) (framing.stream rest ++ tail)
      simp only [readUpTo, stream_cons, List.append_assoc, first, following]

theorem readAll_stream (valid : ∀ frame ∈ frames, framing.Valid frame)
    (incomplete : framing.read tail = none) :
    framing.readAll (framing.stream frames ++ tail) = (frames, tail) := by
  apply readUpTo_stream valid incomplete
  have bound := length_le_stream valid
  simp only [List.length_append]
  omega

/-- The frames at the front are read whatever follows them. -/
theorem prefix_readUpTo (valid : ∀ frame ∈ frames, framing.Valid frame)
    (enough : frames.length ≤ fuel) :
    frames <+: (framing.readUpTo fuel (framing.stream frames ++ tail)).1 := by
  induction frames generalizing fuel with
  | nil => exact List.nil_prefix
  | cons head rest ih =>
    cases fuel with
    | zero => simp at enough
    | succ fuel =>
      have bound : rest.length ≤ fuel := by simpa using enough
      have first := framing.read_encode (valid head (by simp)) (framing.stream rest ++ tail)
      simp only [readUpTo, stream_cons, List.append_assoc, first, List.cons_prefix_cons, true_and]
      exact ih (fun frame member => valid frame (by simp [member])) bound

theorem prefix_readAll (valid : ∀ frame ∈ frames, framing.Valid frame) (tail : List β) :
    frames <+: (framing.readAll (framing.stream frames ++ tail)).1 := by
  apply prefix_readUpTo valid
  have bound := length_le_stream valid
  simp only [List.length_append]
  omega

/-- No frame is a proper initial part of another one followed by anything. -/
theorem encode_unique {first second : α} {rest more : List β} (valid₁ : framing.Valid first)
    (valid₂ : framing.Valid second)
    (same : framing.encode first ++ rest = framing.encode second ++ more) :
    first = second ∧ rest = more := by
  have reading := framing.read_encode valid₁ rest
  rw [same, framing.read_encode valid₂ more] at reading
  cases reading
  exact ⟨rfl, rfl⟩

/-- Where nothing can be read, no frame stands in front. -/
theorem read_none_ne (incomplete : framing.read input = none) (valid : framing.Valid frame)
    (rest : List β) : input ≠ framing.encode frame ++ rest := by
  rintro rfl
  rw [framing.read_encode valid] at incomplete
  contradiction

theorem read_nil : framing.read [] = none := by
  cases reading : framing.read [] with
  | none => rfl
  | some result =>
    obtain ⟨good, empty⟩ := framing.read_sound reading
    exact absurd (List.append_eq_nil_iff.mp empty.symm).1 (framing.encode_ne_nil good)

theorem readAll_encode (valid : framing.Valid frame) :
    framing.readAll (framing.encode frame) = ([frame], []) := by
  have whole := readAll_stream (List.forall_mem_singleton.mpr valid) framing.read_nil
  simpa only [stream_cons, stream_nil, List.append_nil] using whole

theorem Cut.read (cut : framing.Cut tail) : framing.read tail = none := by
  obtain ⟨frame, missing, valid, some_, whole⟩ := cut
  cases reading : framing.read tail with
  | none => rfl
  | some result =>
    obtain ⟨other, rest⟩ := result
    obtain ⟨good, rfl⟩ := framing.read_sound reading
    have same : framing.encode frame ++ [] = framing.encode other ++ (rest ++ missing) := by
      rw [List.append_nil, whole, List.append_assoc]
    have empty := (encode_unique valid good same).2
    exact absurd (List.append_eq_nil_iff.mp empty.symm).2 some_

theorem readUpTo_sound (fuel : Nat) (input : List β) :
    (∀ frame ∈ (framing.readUpTo fuel input).1, framing.Valid frame) ∧
    framing.stream (framing.readUpTo fuel input).1 ++ (framing.readUpTo fuel input).2 = input := by
  induction fuel generalizing input with
  | zero => simp [readUpTo]
  | succ fuel ih =>
    rw [readUpTo]
    cases reading : framing.read input with
    | none => simp
    | some result =>
      obtain ⟨frame, rest⟩ := result
      obtain ⟨valid, rfl⟩ := framing.read_sound reading
      obtain ⟨others, whole⟩ := ih rest
      constructor
      · exact List.forall_mem_cons.mpr ⟨valid, others⟩
      · rw [stream_cons, List.append_assoc, whole]

theorem readUpTo_stops {fuel : Nat} (enough : input.length ≤ fuel) :
    framing.read (framing.readUpTo fuel input).2 = none := by
  induction fuel generalizing input with
  | zero =>
    obtain rfl := List.length_eq_zero_iff.mp (Nat.le_zero.mp enough)
    exact read_nil
  | succ fuel ih =>
    rw [readUpTo]
    cases reading : framing.read input with
    | none => exact reading
    | some result =>
      obtain ⟨frame, rest⟩ := result
      obtain ⟨valid, rfl⟩ := framing.read_sound reading
      have positive := List.length_pos_iff.mpr (framing.encode_ne_nil valid)
      apply ih
      rw [List.length_append] at enough
      omega

/-- A cut stream of frames is a list of whole frames, which is an initial
segment of the frames sent, and a part of the next one. -/
theorem prefix_split (valid : ∀ frame ∈ frames, framing.Valid frame)
    (cut : input <+: framing.stream frames) :
    ∃ whole rest tail, frames = whole ++ rest ∧ input = framing.stream whole ++ tail ∧
      framing.read tail = none := by
  induction frames generalizing input with
  | nil =>
    obtain rfl : input = [] := by simpa using cut
    exact ⟨[], [], [], rfl, rfl, read_nil⟩
  | cons head others ih =>
    cases reading : framing.read input with
    | none => exact ⟨[], head :: others, input, rfl, rfl, reading⟩
    | some result =>
      obtain ⟨frame, left⟩ := result
      obtain ⟨good, rfl⟩ := framing.read_sound reading
      obtain ⟨missing, same⟩ := cut
      rw [List.append_assoc, stream_cons] at same
      obtain ⟨rfl, aligned⟩ := encode_unique good (valid head (by simp)) same
      obtain ⟨whole, rest, tail, rfl, rfl, incomplete⟩ :=
        ih (fun frame member => valid frame (by simp [member])) ⟨missing, aligned⟩
      exact ⟨frame :: whole, rest, tail, rfl, by simp, incomplete⟩

theorem readAll_prefix (valid : ∀ frame ∈ frames, framing.Valid frame)
    (cut : input <+: framing.stream frames) : (framing.readAll input).1 <+: frames := by
  obtain ⟨whole, rest, tail, rfl, rfl, incomplete⟩ := prefix_split valid cut
  rw [readAll_stream (fun frame member => valid frame (by simp [member])) incomplete]
  exact List.prefix_append _ _

/-- The same frames under other names. -/
def rename {γ : Type} (framing : Framing α β) (out : γ → α) (back : α → γ)
    (back_out : ∀ c, back (out c) = c) (out_back : ∀ a, framing.Valid a → out (back a) = a) :
    Framing γ β where
  Valid c := framing.Valid (out c)
  encode c := framing.encode (out c)
  read input := (framing.read input).map fun result => (back result.1, result.2)
  read_encode := by
    intro c valid rest
    rw [framing.read_encode valid, Option.map_some, back_out]
  read_sound := by
    intro input c rest reading
    obtain ⟨⟨a, left⟩, found, same⟩ := Option.map_eq_some_iff.mp reading
    obtain ⟨rfl, rfl⟩ := Prod.mk.inj same
    obtain ⟨valid, rfl⟩ := framing.read_sound found
    simp only [out_back a valid]
    exact ⟨valid, trivial⟩
  encode_ne_nil := framing.encode_ne_nil

theorem rename_read_none {γ : Type} {out : γ → α} {back : α → γ}
    {back_out : ∀ c, back (out c) = c} {out_back : ∀ a, framing.Valid a → out (back a) = a} :
    (framing.rename out back back_out out_back).read input = none ↔ framing.read input = none :=
  Option.map_eq_none_iff

theorem Cut.rename {γ : Type} {out : γ → α} {back : α → γ} {back_out : ∀ c, back (out c) = c}
    {out_back : ∀ a, framing.Valid a → out (back a) = a} (cut : framing.Cut tail) :
    (framing.rename out back back_out out_back).Cut tail := by
  obtain ⟨frame, missing, valid, some_, whole⟩ := cut
  refine ⟨back frame, missing, ?_, some_, ?_⟩
  · dsimp only [Framing.rename]
    rwa [out_back frame valid]
  · dsimp only [Framing.rename]
    rwa [out_back frame valid]

/-- A header of fixed size, the payload's length in two bytes, the payload. -/
def lengthPrefixed (size : Nat) : Framing (List UInt8 × List UInt8) UInt8 where
  Valid frame := frame.1.length = size ∧ frame.2.length < 65536
  encode frame := frame.1 ++ (BigEndian.put 2 frame.2.length ++ frame.2)
  read input :=
    let length := BigEndian.get ((input.drop size).take 2)
    if input.length < size + 2 then none
    else if input.length < size + 2 + length then none
    else some ((input.take size, (input.drop (size + 2)).take length),
      input.drop (size + 2 + length))
  read_encode := by
    rintro ⟨header, payload⟩ ⟨sized, fits⟩ rest
    dsimp only at sized fits ⊢
    subst sized
    have body : (header ++ (BigEndian.put 2 payload.length ++ payload) ++ rest).drop
        (header.length + 2) = payload ++ rest := by
      rw [List.append_assoc, List.append_assoc, ← List.drop_drop, List.drop_left,
        List.drop_left' (BigEndian.put_length 2 _)]
    have length :
      BigEndian.get (((header ++ (BigEndian.put 2 payload.length ++ payload) ++ rest).drop
        header.length).take 2) = payload.length := by
      rw [List.append_assoc, List.append_assoc, List.drop_left,
        List.take_left' (BigEndian.put_length 2 _), BigEndian.get_put fits]
    have total : (header ++ (BigEndian.put 2 payload.length ++ payload) ++ rest).length =
        header.length + 2 + payload.length + rest.length := by
      simp only [List.length_append, BigEndian.put_length]
      omega
    rw [length, if_neg (by omega), if_neg (by omega), body, ← List.drop_drop, body,
      List.take_left, List.drop_left, List.append_assoc, List.take_left]
  read_sound := by
    rintro input ⟨header, payload⟩ rest reading
    dsimp only at reading
    split at reading
    · contradiction
    · rename_i headed
      split at reading
      · contradiction
      · rename_i long
        simp only [Option.some.injEq, Prod.mk.injEq] at reading
        obtain ⟨⟨rfl, rfl⟩, rfl⟩ := reading
        have digits : ((input.drop size).take 2).length = 2 := by
          simp only [List.length_take, List.length_drop]
          omega
        have bound := BigEndian.get_lt ((input.drop size).take 2)
        rw [digits] at bound
        have length : ((input.drop (size + 2)).take
            (BigEndian.get ((input.drop size).take 2))).length =
              BigEndian.get ((input.drop size).take 2) := by
          simp only [List.length_take, List.length_drop]
          omega
        have digitsEq := BigEndian.put_get ((input.drop size).take 2)
        rw [digits] at digitsEq
        refine ⟨⟨by simp only [List.length_take]; omega, by dsimp only; omega⟩, ?_⟩
        dsimp only
        rw [length, digitsEq]
        simp only [← List.drop_drop, List.append_assoc, List.take_append_drop]
  encode_ne_nil := by
    rintro ⟨header, payload⟩ _ empty
    have := congrArg List.length empty
    simp at this

/-- What cannot be read is a frame with its end missing. -/
theorem lengthPrefixed_cut {size : Nat} {tail : List UInt8}
    (unread : (lengthPrefixed size).read tail = none) : (lengthPrefixed size).Cut tail := by
  -- a header and a length of which the payload is missing at least in part
  have complete (front payload missing : List UInt8) (sized : front.length = size + 2)
      (length : payload.length = BigEndian.get (front.drop size)) (some_ : missing ≠ [])
      (whole : front ++ payload = tail ++ missing) : (lengthPrefixed size).Cut tail := by
    have digits : (front.drop size).length = 2 := by
      rw [List.length_drop]
      omega
    have bound := BigEndian.get_lt (front.drop size)
    have numbers := BigEndian.put_get (front.drop size)
    rw [digits] at bound numbers
    refine ⟨(front.take size, payload), missing, ⟨?_, ?_⟩, some_, ?_⟩
    · exact List.length_take_of_le (by omega)
    · dsimp only
      omega
    · dsimp only [lengthPrefixed]
      rw [length, numbers, ← List.append_assoc, List.take_append_drop, whole]
  simp only [lengthPrefixed] at unread
  split at unread
  · rename_i short
    let zeros : List UInt8 := List.replicate (size + 2 - tail.length) 0
    let payload : List UInt8 := List.replicate (BigEndian.get ((tail ++ zeros).drop size)) 0
    refine complete (tail ++ zeros) payload (zeros ++ payload) ?_ List.length_replicate ?_
      (List.append_assoc ..)
    · simp only [zeros, List.length_append, List.length_replicate]
      omega
    · intro empty
      have none := congrArg List.length (List.append_eq_nil_iff.mp empty).1
      simp only [zeros, List.length_replicate, List.length_nil] at none
      omega
  · rename_i headed
    split at unread
    · rename_i short
      have digits : (tail.take (size + 2)).drop size = (tail.drop size).take 2 := by
        rw [List.drop_take, Nat.add_sub_cancel_left]
      let length := BigEndian.get ((tail.drop size).take 2)
      let zeros : List UInt8 := List.replicate (size + 2 + length - tail.length) 0
      refine complete (tail.take (size + 2)) (tail.drop (size + 2) ++ zeros) zeros ?_ ?_ ?_ ?_
      · exact List.length_take_of_le (by omega)
      · rw [digits, List.length_append, List.length_drop, List.length_replicate]
        omega
      · intro empty
        have none := congrArg List.length empty
        simp only [zeros, List.length_replicate, List.length_nil] at none
        omega
      · rw [← List.append_assoc, List.take_append_drop]
    · contradiction

end Framing
end GotaDaemon
