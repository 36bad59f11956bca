import GotaDaemon.Go.Outcome

/-! Buffered channels of the Go runtime, with the two run-time panics that
sending on and closing a closed channel raise. -/
namespace GotaDaemon.Go

/-- The buffer never exceeds the capacity the channel was made with. -/
structure Chan (α : Type) where
  capacity : Nat
  buffer : List α
  closed : Bool
  bounded : buffer.length ≤ capacity

namespace Chan
variable {α : Type}

def make (capacity : Nat) : Chan α := ⟨capacity, [], false, Nat.zero_le _⟩

/-- The send of a `select` that has a `default` branch, which is `none`. -/
def trySend (ch : Chan α) (value : α) : Except Panic (Option (Chan α)) :=
  if ch.closed then .error .sendOnClosedChannel
  else if room : ch.buffer.length < ch.capacity then
    .ok (some { ch with buffer := ch.buffer ++ [value]
                        bounded := by simpa using Nat.succ_le_of_lt room })
  else .ok none

def close (ch : Chan α) : Except Panic (Chan α) :=
  if ch.closed then .error .closeOfClosedChannel else .ok { ch with closed := true }

/-- The two-valued receive. It blocks (`none`) while the channel is empty and
open; a closed channel still hands out what its buffer holds. -/
def recv (ch : Chan α) : Option (Option α × Chan α) :=
  match filled : ch.buffer with
  | [] => if ch.closed then some (none, ch) else none
  | value :: rest =>
    some (some value, { ch with buffer := rest
                                bounded := by have := ch.bounded; simp [filled] at this; omega })

variable {ch next : Chan α} {value : α} {reason : Panic}

theorem trySend_some (sent : ch.trySend value = .ok (some next)) :
    ch.closed = false ∧ next.closed = false ∧ next.buffer = ch.buffer ++ [value] ∧
      next.capacity = ch.capacity := by
  unfold trySend at sent
  split at sent
  · contradiction
  · rename_i isOpen
    split at sent
    · cases sent
      exact ⟨by simpa using isOpen, by simpa using isOpen, rfl, rfl⟩
    · cases sent

theorem trySend_none (full : ch.trySend value = .ok none) :
    ch.closed = false ∧ ch.capacity ≤ ch.buffer.length := by
  unfold trySend at full
  split at full
  · contradiction
  · rename_i isOpen
    split at full
    · cases full
    · rename_i noRoom
      exact ⟨by simpa using isOpen, Nat.le_of_not_lt noRoom⟩

theorem trySend_error (failed : ch.trySend value = .error reason) : ch.closed = true := by
  unfold trySend at failed
  split at failed
  · assumption
  · split at failed <;> cases failed

theorem close_ok (closed : ch.close = .ok next) :
    ch.closed = false ∧ next = { ch with closed := true } := by
  unfold close at closed
  split at closed
  · contradiction
  · rename_i isOpen
    cases closed
    exact ⟨by simpa using isOpen, rfl⟩

theorem close_error (failed : ch.close = .error reason) : ch.closed = true := by
  unfold close at failed
  split at failed
  · assumption
  · contradiction

theorem recv_some (received : ch.recv = some (some value, next)) :
    ch.buffer = value :: next.buffer ∧ next.closed = ch.closed ∧ next.capacity = ch.capacity := by
  unfold recv at received
  split at received
  · split at received <;> simp at received
  · rename_i filled
    simp only [Option.some.injEq, Prod.mk.injEq] at received
    obtain ⟨rfl, rfl⟩ := received
    exact ⟨filled, rfl, rfl⟩

theorem recv_none (drained : ch.recv = some (none, next)) :
    ch.buffer = [] ∧ ch.closed = true ∧ next = ch := by
  unfold recv at drained
  split at drained
  · rename_i empty
    split at drained
    · rename_i closed
      simp only [Option.some.injEq, Prod.mk.injEq, true_and] at drained
      exact ⟨empty, closed, drained.symm⟩
    · contradiction
  · simp at drained

end Chan
end GotaDaemon.Go
