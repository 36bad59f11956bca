import GotaDaemon.ControlCenter.Linearization
import GotaDaemon.Ipc.Completion

/-! What the daemon brings about when it is left alone, in whatever order its
goroutines run: all requests that have arrived are answered, and a Close of the
session manager comes to its end. The dispatcher's callback makes a handful of
moves and never waits. -/
namespace GotaDaemon.ControlCenter
open Go Transition Ipc

/-- How many moves the callback has ahead before the last one. -/
def Activation.rank {W : Type} : Activation W → Nat
  | .dispatch _ _ _ => 3
  | .handler _ _ _ _ => 2
  | .reply _ _ => 1
  | .done => 0

variable {W : Type} {may : Dispatcher W × W → Dispatcher W × W → Prop} {s : Dispatcher W × W}
  {st next : WiredState W} {events more : List (WiredEvent W)}

section Serving

end Serving

end GotaDaemon.ControlCenter
