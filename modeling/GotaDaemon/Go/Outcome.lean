import Mathlib.Tactic

/-! Results of Go functions that may return an error or panic. -/
namespace GotaDaemon.Go

inductive Panic where
  | sendOnClosedChannel
  | closeOfClosedChannel
  | indexOutOfRange
  | sliceBoundsOutOfRange
  | badKeyLength
  deriving DecidableEq, Repr

inductive Outcome (ε α : Type) where
  | ok (value : α)
  | error (err : ε)
  | panic (reason : Panic)
  deriving DecidableEq, Repr

namespace Outcome
variable {ε α β : Type}

def andThen : Outcome ε α → (α → Outcome ε β) → Outcome ε β
  | .ok value, next => next value
  | .error err, _ => .error err
  | .panic reason, _ => .panic reason

instance : Monad (Outcome ε) where
  pure := .ok
  bind := andThen

/-- An `if` that returns early with an error. -/
def require (condition : Prop) [Decidable condition] (err : ε) : Outcome ε Unit :=
  if condition then .ok () else .error err

/-- A call whose error is wrapped and returned. -/
def wrap {δ : Type} (result : Except δ α) (err : δ → ε) : Outcome ε α :=
  match result with
  | .ok value => .ok value
  | .error reason => .error (err reason)

/-- A search whose failure is returned as an error. -/
def orElse (result : Option α) (err : ε) : Outcome ε α :=
  match result with
  | some value => .ok value
  | none => .error err

/-- A result passed on with the error type of the caller. -/
def mapError {δ : Type} (convert : δ → ε) : Outcome δ α → Outcome ε α
  | .ok value => .ok value
  | .error reason => .error (convert reason)
  | .panic reason => .panic reason

section Laws
variable {result : Outcome ε α} {next : α → Outcome ε β} {value : β}

@[simp] theorem bind_ok (value : α) : (Outcome.ok value >>= next) = next value := rfl

@[simp] theorem pure_ok (value : α) : (pure value : Outcome ε α) = .ok value := rfl

@[simp] theorem bind_error (err : ε) : ((Outcome.error err : Outcome ε α) >>= next) = .error err :=
  rfl

theorem require_pos {condition : Prop} [Decidable condition] {err : ε} (holds : condition) :
    require condition err = .ok () := if_pos holds

theorem require_neg {condition : Prop} [Decidable condition] {err : ε} (fails : ¬ condition) :
    require condition err = .error err := if_neg fails

theorem require_congr {condition other : Prop} [Decidable condition] [Decidable other] {err : ε}
    (same : condition ↔ other) : require condition err = require other err := by
  by_cases holds : condition
  · rw [require_pos holds, require_pos (same.mp holds)]
  · rw [require_neg holds, require_neg (fun h => holds (same.mpr h))]

theorem bind_congr {other : α → Outcome ε β}
    (same : ∀ value, result = .ok value → next value = other value) :
    (result >>= next) = (result >>= other) := by
  cases result with
  | ok value => exact same value rfl
  | error | panic => rfl

theorem bind_eq_ok : (result >>= next) = .ok value ↔
    ∃ middle, result = .ok middle ∧ next middle = .ok value := by
  constructor
  · intro same
    cases result with
    | ok middle => exact ⟨middle, rfl, same⟩
    | error | panic => contradiction
  · rintro ⟨middle, rfl, same⟩
    exact same

theorem require_eq_ok {condition : Prop} [Decidable condition] {err : ε} {done : Unit} :
    require condition err = .ok done ↔ condition := by
  unfold require
  split <;> simp_all

theorem wrap_eq_ok {δ : Type} {source : Except δ β} {err : δ → ε} : wrap source err = .ok value ↔
    source = .ok value := by
  cases source <;> simp [wrap]

theorem orElse_eq_ok {source : Option β} {err : ε} : orElse source err = .ok value ↔
    source = some value := by
  cases source <;> simp [orElse]

theorem mapError_eq_ok {δ : Type} {convert : δ → ε} {source : Outcome δ β} :
    source.mapError convert = .ok value ↔ source = .ok value := by
  cases source <;> simp [mapError]

end Laws

/-- A call that does not panic. -/
def Safe (result : Outcome ε α) : Prop := ∀ reason, result ≠ .panic reason

section Safety
variable {result : Outcome ε α} {next : α → Outcome ε β}

theorem safe_ok (value : α) : (Outcome.ok value : Outcome ε α).Safe := nofun

theorem safe_error (err : ε) : (Outcome.error err : Outcome ε α).Safe := nofun

theorem not_safe_panic (reason : Panic) : ¬ (Outcome.panic reason : Outcome ε α).Safe :=
  fun safe => safe reason rfl

/-- What follows only has to be safe for the value it is called with. -/
theorem Safe.bind (safe : result.Safe) (rest : ∀ value, result = .ok value → (next value).Safe) :
    (result >>= next).Safe := by
  cases result with
  | ok value => exact rest value rfl
  | error err => exact safe_error err
  | panic reason => exact absurd rfl (safe reason)

theorem safe_require {condition : Prop} [Decidable condition] {err : ε} :
    (require condition err).Safe := by
  unfold require
  split
  · exact safe_ok _
  · exact safe_error _

theorem safe_wrap {δ : Type} {source : Except δ α} {err : δ → ε} : (wrap source err).Safe := by
  cases source with
  | ok value => exact safe_ok value
  | error reason => exact safe_error _

theorem Safe.mapError {δ : Type} {source : Outcome δ α} (safe : source.Safe) {convert : δ → ε} :
    (source.mapError convert).Safe := by
  cases source with
  | ok value => exact safe_ok value
  | error reason => exact safe_error _
  | panic reason => exact absurd rfl (safe reason)

theorem safe_orElse {source : Option α} {err : ε} : (orElse source err).Safe := by
  cases source with
  | some value => exact safe_ok value
  | none => exact safe_error err

end Safety

end Outcome

end GotaDaemon.Go
