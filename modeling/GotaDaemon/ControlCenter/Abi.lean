import GotaDaemon.ControlCenter.Dispatcher

/-! The parameters of system calls, as controlcenter/abi.go reads them. -/
namespace GotaDaemon.ControlCenter
open BigEndian

def readBytesParam (payload : List UInt8) : List UInt8 × List UInt8 × UInt16 :=
  if payload.length < 2 then ([], payload, errInvalidArgs)
  else
    let paramLen := get (payload.take 2)
    if payload.length < 2 + paramLen then ([], payload, errInvalidArgs)
    else ((payload.drop 2).take paramLen, payload.drop (2 + paramLen), success)

/-- Parameters are frames without a header. -/
def paramFraming : Framing (List UInt8) UInt8 :=
  (Framing.lengthPrefixed 0).rename (fun param => ([], param)) Prod.snd (fun _ => rfl)
    (by
      rintro ⟨header, param⟩ ⟨empty, _⟩
      dsimp only at empty ⊢
      rw [List.length_eq_zero_iff.mp empty])

theorem paramFraming_encode (param : List UInt8) :
    paramFraming.encode param = put 2 param.length ++ param := rfl

theorem paramFraming_valid {param : List UInt8} :
    paramFraming.Valid param ↔ param.length ≤ 65535 := by
  simp [paramFraming, Framing.rename, Framing.lengthPrefixed, Nat.lt_succ_iff]

/-- A parameter is read whole, or the payload is handed back. -/
theorem readBytesParam_eq (payload : List UInt8) : readBytesParam payload =
    match paramFraming.read payload with
    | some (param, rest) => (param, rest, success)
    | none => ([], payload, errInvalidArgs) := by
  simp only [readBytesParam, paramFraming, Framing.rename, Framing.lengthPrefixed, List.drop_zero,
    Nat.zero_add]
  split
  · rfl
  · split <;> rfl

/-- Reading this many parameters, each from the rest of the one before. -/
def readParams : Nat → List UInt8 → List (List UInt8 × UInt16) × List UInt8
  | 0, payload => ([], payload)
  | count + 1, payload =>
    let (param, rest, statusCode) := readBytesParam payload
    ((param, statusCode) :: (readParams count rest).1, (readParams count rest).2)

/-- Success says that the payload is the parameter with its length in front, and the rest. -/
theorem readBytesParam_success {payload : List UInt8} :
    (readBytesParam payload).2.2 = success ↔ paramFraming.read payload =
      some ((readBytesParam payload).1, (readBytesParam payload).2.1) := by
  rw [readBytesParam_eq]
  cases paramFraming.read payload with
  | some result => simp
  | none => simp [success, errInvalidArgs]

theorem readBytesParam_shorter {payload : List UInt8}
    (read : (readBytesParam payload).2.2 = success) :
    (readBytesParam payload).2.1.length < payload.length := by
  obtain ⟨_, whole⟩ := paramFraming.read_sound (readBytesParam_success.mp read)
  have total := congrArg List.length whole
  rw [paramFraming_encode, List.length_append, List.length_append, put_length] at total
  omega

/-- Reading parameters until one cannot be read. -/
def readUntilFailure (payload : List UInt8) : List (List UInt8) × List UInt8 :=
  if read : (readBytesParam payload).2.2 = success then
    have := readBytesParam_shorter read
    ((readBytesParam payload).1 :: (readUntilFailure (readBytesParam payload).2.1).1,
      (readUntilFailure (readBytesParam payload).2.1).2)
  else ([], (readBytesParam payload).2.1)
termination_by payload.length

theorem readBytesParam_encode {param : List UInt8} (small : param.length ≤ 65535)
    (rest : List UInt8) :
    readBytesParam (paramFraming.encode param ++ rest) = (param, rest, success) := by
  rw [readBytesParam_eq, paramFraming.read_encode (paramFraming_valid.mpr small)]

theorem readParams_stream {params : List (List UInt8)}
    (small : ∀ param ∈ params, param.length ≤ 65535) (tail : List UInt8) :
    readParams params.length (paramFraming.stream params ++ tail) =
      (params.map fun param => (param, success), tail) := by
  induction params with
  | nil => rfl
  | cons param params ih =>
    obtain ⟨first, others⟩ := List.forall_mem_cons.mp small
    have following := ih others
    rw [Framing.stream_cons, List.append_assoc, List.length_cons, readParams,
      readBytesParam_encode first]
    simp only [following, List.map_cons]

/-- A status other than Success hands the payload back. -/
theorem readBytesParam_failure {payload : List UInt8}
    (failed : (readBytesParam payload).2.2 ≠ success) :
    readBytesParam payload = ([], payload, errInvalidArgs) := by
  rw [readBytesParam_eq] at failed ⊢
  cases read : paramFraming.read payload with
  | some result =>
    rw [read] at failed
    contradiction
  | none => rfl

theorem readBytesParam_success_iff {payload : List UInt8} :
    (readBytesParam payload).2.2 = success ↔
      payload = put 2 (readBytesParam payload).1.length ++ (readBytesParam payload).1 ++
        (readBytesParam payload).2.1 := by
  constructor
  · intro read
    exact (paramFraming.read_sound (readBytesParam_success.mp read)).2
  · intro whole
    by_contra failed
    have total := congrArg List.length whole
    rw [readBytesParam_failure failed] at total
    simp at total

/-- What has been read, put back in front of the rest, is the payload. -/
theorem readUntilFailure_whole (payload : List UInt8) :
    paramFraming.stream (readUntilFailure payload).1 ++ (readUntilFailure payload).2 = payload ∧
      (readBytesParam (readUntilFailure payload).2).2.2 ≠ success := by
  induction payload using readUntilFailure.induct with
  | case1 payload read _ ih =>
    obtain ⟨whole, stops⟩ := ih
    have first := (paramFraming.read_sound (readBytesParam_success.mp read)).2
    rw [readUntilFailure, dif_pos read]
    refine ⟨?_, stops⟩
    rw [Framing.stream_cons, List.append_assoc, whole]
    exact first.symm
  | case2 payload failed =>
    rw [readUntilFailure, dif_neg failed, readBytesParam_failure failed]
    exact ⟨rfl, failed⟩

/-- Parameters are read back one by one, whatever follows them. A parameter is
read exactly when the payload begins with its encoding, and a failure consumes
nothing, so that reading up to the first failure splits any payload. -/
theorem params_round_trip (params : List (List UInt8))
    (small : ∀ param ∈ params, param.length ≤ 65535) (tail payload : List UInt8) :
    readParams params.length
        ((params.flatMap fun param => put 2 param.length ++ param) ++ tail) =
      (params.map fun param => (param, success), tail) ∧
    ((readBytesParam payload).2.2 = success ↔
      payload = put 2 (readBytesParam payload).1.length ++ (readBytesParam payload).1 ++
        (readBytesParam payload).2.1) ∧
    ((readBytesParam payload).2.2 ≠ success → (readBytesParam payload).2.1 = payload) ∧
    ((readUntilFailure payload).1.flatMap fun param => put 2 param.length ++ param) ++
      (readUntilFailure payload).2 = payload ∧
    (readBytesParam (readUntilFailure payload).2).2.2 ≠ success := by
  obtain ⟨whole, stops⟩ := readUntilFailure_whole payload
  refine ⟨readParams_stream small tail, readBytesParam_success_iff, fun failed => ?_, whole, stops⟩
  rw [readBytesParam_failure failed]

/-- Two parameters and a byte, and a payload whose second parameter is cut off. -/
theorem params_round_trip_pair :
    readParams 2 ([0, 1, 7] ++ ([0, 0] ++ [9])) = ([([7], success), ([], success)], [9]) ∧
    (readBytesParam [0, 2, 5]).2.2 ≠ success ∧ (readBytesParam [0, 2, 5]).2.1 = [0, 2, 5] := by
  obtain ⟨chain, -, failure, -⟩ := params_round_trip [[7], []] (by decide) [9] [0, 2, 5]
  exact ⟨chain, by decide, failure (by decide)⟩

end GotaDaemon.ControlCenter
