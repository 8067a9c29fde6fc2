import SocketCpp.System.Trace

namespace SocketCpp

open Data

/-! Frame rules of traces.

Socket calls change nothing that OpenSSL knows and the other way round, and
passive calls change nothing that either knows.  A method is described once by
the kind of calls it adds, and every quantity of the trace follows. -/

inductive Layer where
  | program
  | sockets
  | openssl
deriving DecidableEq, Repr

def Call.layer : Call → Layer
  | .oLog _ => .program
  | .getaddrinfo .. | .freeaddrinfo .. | .socket .. | .connect .. | .close .. | .setsockopt ..
  | .bind .. | .listen .. | .fdSet .. | .select .. | .fdIsset .. | .accept .. | .send ..
  | .recv .. => .sockets
  | _ => .openssl

/-- Calls that create nothing, destroy nothing and configure nothing. -/
def Call.passive : Call → Bool
  | .getaddrinfo .. | .freeaddrinfo .. | .socket .. | .accept .. | .close .. | .setsockopt ..
  | .bind .. | .sslCtxNew .. | .sslCtxFree .. | .sslCtxSetVerify .. | .sslNew .. | .sslFree ..
  | .sslSetFd .. | .sslConnect .. | .sslAccept .. => false
  | _ => true

namespace Trace

variable {before after : Trace}

theorem touchIfAny_touching {pointer : Option Nat} :
    ∀ event ∈ touchIfAny pointer, ∃ handle, event = .touch handle := by
  cases pointer <;> simp [touchIfAny]

theorem socketEvents_of_layer {call : Call} (other : call.layer ≠ .sockets) :
    call.socketEvents = [] := by
  cases call <;> first | rfl | exact absurd rfl other

theorem listEvents_of_layer {call : Call} (other : call.layer ≠ .sockets) :
    call.listEvents = [] := by
  cases call <;> first | rfl | exact absurd rfl other

theorem contextEvents_of_layer {call : Call} (other : call.layer ≠ .openssl) :
    call.contextEvents = [] := by
  cases call <;> first | rfl | exact absurd rfl other

theorem sessionEvents_of_layer {call : Call} (other : call.layer ≠ .openssl) :
    call.sessionEvents = [] := by
  cases call <;> first | rfl | exact absurd rfl other

theorem socketEvents_of_passive {call : Call} (passive : call.passive = true) :
    Ledger.Touching Call.socketEvents call := by
  cases call <;> first | contradiction | simp [Ledger.Touching, Call.socketEvents]

theorem contextEvents_of_passive {call : Call} (passive : call.passive = true) :
    Ledger.Touching Call.contextEvents call := by
  cases call <;> first
    | contradiction
    | exact touchIfAny_touching
    | simp [Ledger.Touching, Call.contextEvents]

theorem sessionEvents_of_passive {call : Call} (passive : call.passive = true) :
    Ledger.Touching Call.sessionEvents call := by
  cases call <;> first
    | contradiction
    | exact touchIfAny_touching
    | simp [Ledger.Touching, Call.sessionEvents]

/-! What calls that concern no descriptor leave alone. -/

section Quiet

variable (extended : Extends (fun call : Call => call.socketEvents = []) before after)

include extended

theorem socketEntries_of_quiet :
    Ledger.entries Call.socketEvents after = Ledger.entries Call.socketEvents before :=
  Ledger.entries_eq_of_quiet extended

theorem sockets_of_quiet : after.sockets = before.sockets := by
  rw [sockets, socketEntries_of_quiet extended, sockets]

theorem connection_of_quiet (fd : Socket) : after.connection fd = before.connection fd := by
  rw [connection, socketEntries_of_quiet extended, connection]

end Quiet

/-! What OpenSSL and program calls leave alone. -/

section OffSockets

variable (extended : Extends (fun call : Call => call.layer ≠ .sockets) before after)

include extended

theorem sockets_of_layer : after.sockets = before.sockets :=
  sockets_of_quiet (extended.mono fun _ => socketEvents_of_layer)

theorem connection_of_layer (fd : Socket) : after.connection fd = before.connection fd :=
  connection_of_quiet (extended.mono fun _ => socketEvents_of_layer) fd

end OffSockets

/-! What socket and program calls leave alone. -/

section OffOpenssl

variable (extended : Extends (fun call : Call => call.layer ≠ .openssl) before after)

include extended

theorem contextEntries_of_layer :
    Ledger.entries Call.contextEvents after = Ledger.entries Call.contextEvents before :=
  Ledger.entries_eq_of_quiet (extended.mono fun _ => contextEvents_of_layer)

theorem sessionEntries_of_layer :
    Ledger.entries Call.sessionEvents after = Ledger.entries Call.sessionEvents before :=
  Ledger.entries_eq_of_quiet (extended.mono fun _ => sessionEvents_of_layer)

theorem contexts_of_layer : after.contexts = before.contexts := by
  rw [contexts, contextEntries_of_layer extended, contexts]

theorem sessions_of_layer : after.sessions = before.sessions := by
  rw [sessions, sessionEntries_of_layer extended, sessions]

theorem attached_of_layer (ssl : Nat) : after.attached ssl = before.attached ssl :=
  extended.view_eq (attached ssl) fun call _ other => by
    cases call <;> first | rfl | exact absurd rfl other

end OffOpenssl

/-! What passive calls leave alone. -/

section Passive

variable (extended : Extends (fun call : Call => call.passive = true) before after)

include extended

theorem connection_of_passive (fd : Socket) : after.connection fd = before.connection fd :=
  Ledger.identity_of_touching fd (extended.mono fun _ => socketEvents_of_passive)

theorem contexts_of_passive : after.contexts = before.contexts :=
  Ledger.held_of_touching (extended.mono fun _ => contextEvents_of_passive)

theorem sessions_of_passive : after.sessions = before.sessions :=
  Ledger.held_of_touching (extended.mono fun _ => sessionEvents_of_passive)

theorem attached_of_passive (ssl : Nat) : after.attached ssl = before.attached ssl :=
  extended.view_eq (attached ssl) fun call _ passive => by
    cases call <;> first | contradiction | rfl

theorem handshaken_of_passive (ssl : Nat) : after.handshaken ssl = before.handshaken ssl :=
  extended.view_eq (handshaken ssl) fun call _ passive => by
    cases call <;> first | contradiction | rfl

theorem verifyMode_of_passive (ctx : Nat) : after.verifyMode ctx = before.verifyMode ctx :=
  extended.view_eq (verifyMode ctx) fun call _ passive => by
    cases call <;> first | contradiction | rfl

end Passive

theorem sockets_nonneg {trace : Trace} {fd : Socket} (isOpen : fd ∈ trace.sockets) : 0 ≤ fd := by
  induction trace with
  | nil => cases isOpen
  | cons call earlier ih =>
      cases call with
      | socket _ _ _ result | accept _ result _ =>
          by_cases valid : 0 ≤ result
          · simp only [sockets, Ledger.entries_cons, Call.socketEvents, if_pos valid,
              List.cons_append, List.nil_append, Ledger.held_acquire, Ledger.held_touch] at isOpen
            rcases Finset.mem_insert.mp isOpen with rfl | before
            · exact valid
            · exact ih before
          · simp only [sockets, Ledger.entries_cons, Call.socketEvents, if_neg valid] at isOpen
            exact ih isOpen
      | close closed => exact ih (Finset.mem_of_mem_erase isOpen)
      | _ => exact ih isOpen

/-! Fresh results. -/

theorem newSocket_some_not_mem (trace : Trace) (named : Nat) :
    trace.newSocket (some named) ∉ trace.sockets := by
  intro member
  have image := Finset.mem_image_of_mem Int.toNat member
  simp only [newSocket, Int.toNat_natCast] at image
  exact Ledger.fresh_not_mem _ named image

theorem newSocket_some_nonneg (trace : Trace) (named : Nat) : 0 ≤ trace.newSocket (some named) :=
  Int.natCast_nonneg _

theorem newContext_not_mem {trace : Trace} {answer : Option Nat} {ctx : Nat}
    (created : trace.newContext answer = some ctx) : ctx ∉ trace.contexts := by
  obtain ⟨named, _, rfl⟩ := Option.map_eq_some_iff.mp created
  exact Ledger.fresh_not_mem _ named

theorem newSession_not_mem (trace : Trace) (named : Nat) :
    trace.newSession named ∉ trace.sessions :=
  Ledger.fresh_not_mem _ named

/-! What single calls do to descriptors. -/

section Calls

variable (earlier : Trace)

theorem sockets_socket (family socktype protocol : Int) {fd : Socket} (valid : 0 ≤ fd) :
    sockets (.socket family socktype protocol fd :: earlier) = insert fd earlier.sockets := by
  simp [sockets, Call.socketEvents, valid]

theorem sockets_socket_failed (family socktype protocol : Int) {fd : Socket} (failed : fd < 0) :
    sockets (.socket family socktype protocol fd :: earlier) = earlier.sockets := by
  simp [sockets, Call.socketEvents, Int.not_le.mpr failed]

@[simp] theorem sockets_close (fd : Socket) :
    sockets (.close fd :: earlier) = earlier.sockets.erase fd := by
  simp [sockets, Call.socketEvents]

@[simp] theorem sockets_connect (fd : Socket) (address : SockAddrIn) (result : Int) :
    sockets (.connect fd address result :: earlier) = earlier.sockets := by
  simp [sockets, Call.socketEvents]

/-- The number of socket events so far: later connections get larger identities. -/
def socketClock (trace : Trace) : Nat :=
  (Ledger.entries Call.socketEvents trace).length

theorem connection_lt {trace : Trace} {fd : Socket} {identity : Nat}
    (found : trace.connection fd = some identity) : identity < trace.socketClock :=
  Ledger.identity_lt found

theorem socketClock_mono {kind : Call → Prop} {before after : Trace}
    (extended : Extends kind before after) : before.socketClock ≤ after.socketClock := by
  obtain ⟨added, rfl, _⟩ := extended
  simp [socketClock, Ledger.entries]

theorem connection_socket (family socktype protocol : Int) {fd : Socket} (valid : 0 ≤ fd) :
    connection (.socket family socktype protocol fd :: earlier) fd =
      some earlier.socketClock := by
  simp [connection, Call.socketEvents, valid, Ledger.identity, socketClock]

@[simp] theorem connection_connect (fd other : Socket) (address : SockAddrIn) (result : Int) :
    connection (.connect fd address result :: earlier) other = earlier.connection other := by
  simp [connection, Call.socketEvents, Ledger.identity]

end Calls

end Trace

end SocketCpp
