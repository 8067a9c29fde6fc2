import SocketCpp.System.Frame

namespace SocketCpp

open Data

/-! Descriptors that several objects of one process may hold.

The ledger of one object counts what it does with a descriptor.  A `close` of a number
below zero concerns nobody, and neither does a timeout that is set for one.  The setters of
the timeouts go through a number that may be stale, and `setters` says whether they count. -/

def Call.descriptorEvents (setters : Bool) : Call → List (Ledger.Event Socket)
  | .close fd => if 0 ≤ fd then [.release fd] else []
  | .setsockopt fd (.rcvTimeo _) _ | .setsockopt fd (.sndTimeo _) _ =>
      if setters = true ∧ 0 ≤ fd then [.touch fd] else []
  | call => call.socketEvents

namespace Trace

/-- The object uses and closes only what it has open. -/
def Proper (setters : Bool) (trace : Trace) : Prop :=
  Ledger.Disciplined (Ledger.entries (Call.descriptorEvents setters) trace)

variable {setters : Bool}

@[simp] theorem held_descriptorEvents (setters : Bool) (trace : Trace) :
    Ledger.held (Ledger.entries (Call.descriptorEvents setters) trace) = trace.sockets := by
  change _ = Ledger.held (Ledger.entries Call.socketEvents trace)
  induction trace with
  | nil => rfl
  | cons call earlier ih =>
      have same (events : List (Ledger.Event Socket)) := Ledger.held_append_congr events ih
      rw [Ledger.entries_cons, Ledger.entries_cons]
      cases call with
      | close fd =>
          by_cases valid : 0 ≤ fd
          · rw [Call.descriptorEvents, if_pos valid]
            exact same [.release fd]
          · have absent : fd ∉ sockets earlier := fun member => valid (sockets_nonneg member)
            rw [Call.descriptorEvents, if_neg valid]
            exact ih.trans (Finset.erase_eq_of_notMem absent).symm
      | setsockopt fd option result =>
          cases option with
          | reuseAddr value => exact same [.touch fd]
          | rcvTimeo value | sndTimeo value =>
              by_cases counts : setters = true ∧ 0 ≤ fd
              · rw [Call.descriptorEvents, if_pos counts]
                exact same [.touch fd]
              · rw [Call.descriptorEvents, if_neg counts]
                exact ih
      | _ => exact same _

variable {trace before after : Trace} {fd : Socket}

theorem proper_of_quiet (proper : before.Proper setters)
    (quiet : Extends (fun call : Call => call.descriptorEvents setters = []) before after) :
    after.Proper setters := by
  rw [Proper, Ledger.entries_eq_of_quiet quiet]
  exact proper

theorem proper_touch (proper : trace.Proper setters) {call : Call}
    (touches : call.descriptorEvents setters = [.touch fd]) (isOpen : fd ∈ trace.sockets) :
    Proper setters (call :: trace) := by
  rw [Proper, Ledger.entries_cons, touches]
  refine ⟨?_, proper⟩
  change fd ∈ Ledger.held (Ledger.entries (Call.descriptorEvents setters) trace)
  rwa [held_descriptorEvents]

theorem proper_socket (proper : trace.Proper setters) (family socktype protocol : Int)
    (fresh : fd ∉ trace.sockets) :
    Proper setters (.socket family socktype protocol fd :: trace) := by
  by_cases valid : 0 ≤ fd
  · simpa [Proper, Call.descriptorEvents, Call.socketEvents, valid] using ⟨fresh, proper⟩
  · simpa [Proper, Call.descriptorEvents, Call.socketEvents, valid] using proper

theorem proper_close (proper : trace.Proper setters) (isOpen : 0 ≤ fd → fd ∈ trace.sockets) :
    Proper setters (.close fd :: trace) := by
  by_cases valid : 0 ≤ fd
  · simpa [Proper, Call.descriptorEvents, valid] using ⟨isOpen valid, proper⟩
  · simpa [Proper, Call.descriptorEvents, valid] using proper

/-- Calls that do nothing but use what is open. -/
theorem proper_of_uses (proper : before.Proper setters)
    (uses : Extends (Ledger.Uses (Call.descriptorEvents setters) before.sockets) before after) :
    after.Proper setters := by
  rw [← held_descriptorEvents] at uses
  exact Ledger.disciplined_of_uses uses proper

end Trace

end SocketCpp
