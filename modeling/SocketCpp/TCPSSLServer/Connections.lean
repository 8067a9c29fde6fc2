import Mathlib.Data.Finset.Range
import SocketCpp.TCPSSLServer.Pool
import SocketCpp.TCPSSLServer.Releasing

namespace SocketCpp

open Data

/-! Which connection a `Disconnect` of a `CTCPSSLServer` closes, over runs of its pool.

`Disconnect` leaves the number of the closed descriptor in its object.  The number
stands for another connection as soon as it has been handed out again. -/

namespace Trace

theorem mem_sockets_of_connection {trace : Trace} {fd : Socket} {identity : Nat}
    (found : trace.connection fd = some identity) : fd ∈ trace.sockets :=
  Ledger.identity_isSome_iff.mp (by rw [connection] at found; rw [found]; rfl)

theorem connection_invalid (trace : Trace) : trace.connection invalidSocket = none := by
  by_contra found
  obtain ⟨identity, found⟩ := Option.ne_none_iff_exists'.mp found
  exact absurd (sockets_nonneg (mem_sockets_of_connection found)) (by decide)

/-- All connections that were there are still there. -/
def KeepsConnections (before after : Trace) : Prop :=
  ∀ fd identity, before.connection fd = some identity → after.connection fd = some identity

theorem KeepsConnections.trans {before middle after : Trace}
    (first : KeepsConnections before middle) (second : KeepsConnections middle after) :
    KeepsConnections before after :=
  fun fd identity found => second fd identity (first fd identity found)

theorem keeps_of_touching {before after : Trace}
    (extended : Extends (Ledger.Touching Call.socketEvents) before after) :
    KeepsConnections before after := by
  intro fd identity found
  exact (Ledger.identity_of_touching fd extended).trans found

theorem keeps_of_layer {before after : Trace}
    (extended : Extends (fun call : Call => call.layer ≠ .sockets) before after) :
    KeepsConnections before after := by
  intro fd identity found
  rw [connection_of_layer extended]
  exact found

theorem keeps_of_exchanges {before after : Trace} {pSSL : Option Nat}
    (exchanges : Extends (Call.Exchanges pSSL) before after) : KeepsConnections before after :=
  keeps_of_touching (exchanges.mono fun _ one => socketEvents_of_passive one.passive)

/-- A fresh descriptor takes the place of no other. -/
theorem keeps_of_fresh {trace : Trace} {call : Call} {fd : Socket} (fresh : fd ∉ trace.sockets)
    (others : ∀ other, fd ≠ other →
      connection (call :: trace) other = connection trace other) :
    KeepsConnections trace (call :: trace) := by
  intro other identity found
  have different : fd ≠ other := by
    rintro rfl
    exact fresh (mem_sockets_of_connection found)
  rw [others other different]
  exact found

theorem keeps_socket {trace : Trace} (family socktype protocol : Int) {fd : Socket}
    (fresh : fd ∉ trace.sockets) :
    KeepsConnections trace (.socket family socktype protocol fd :: trace) := by
  refine keeps_of_fresh fresh fun other different => ?_
  by_cases valid : 0 ≤ fd
  · simp [connection, Call.socketEvents, valid, Ledger.identity, different]
  · simp [connection, Call.socketEvents, valid]

theorem keeps_accept {trace : Trace} (listener : Socket) {fd : Socket} (peer : SockAddrIn)
    (fresh : fd ∉ trace.sockets) : KeepsConnections trace (.accept listener fd peer :: trace) := by
  refine keeps_of_fresh fresh fun other different => ?_
  by_cases valid : 0 ≤ fd
  · simp [connection, Call.socketEvents, valid, Ledger.identity, different]
  · simp [connection, Call.socketEvents, valid, Ledger.identity]

@[simp] theorem connection_close (trace : Trace) (fd other : Socket) :
    connection (.close fd :: trace) other = if fd = other then none else trace.connection other := by
  simp [connection, Call.socketEvents, Ledger.identity]

theorem newSocket_not_mem (trace : Trace) (answer : Option Nat) :
    trace.newSocket answer ∉ trace.sockets := by
  cases answer with
  | none =>
      intro isOpen
      have valid : 0 ≤ invalidSocket := sockets_nonneg isOpen
      exact absurd valid (by decide)
  | some named => exact trace.newSocket_some_not_mem named

end Trace

theorem Call.Awaits.touching {fd : Socket} {call : Call} (awaits : call.Awaits fd) :
    Ledger.Touching Call.socketEvents call := by
  cases call <;> first | exact awaits.elim | simp [Ledger.Touching, Call.socketEvents]

theorem Call.Logs.touching {call : Call} (logs : call.Logs) :
    Ledger.Touching Call.socketEvents call := by
  cases call <;> first | exact logs.elim | simp [Ledger.Touching, Call.socketEvents]

namespace CTCPServer

theorem createListenSocket_keeps (server : CTCPServer) (answers : ListenAnswers)
    (trace : Trace) :
    Trace.KeepsConnections trace (server.createListenSocket answers trace).trace := by
  have fresh := trace.newSocket_not_mem answers.socket
  have opens := Trace.keeps_socket afInet sockStream 0 fresh
  have logs (trace : Trace) (message : String) := Trace.keeps_of_touching
    ((trace.oLog_calls server.eSettingsFlags message).mono fun _ => Call.Logs.touching)
  simp only [createListenSocket]
  generalize trace.newSocket answers.socket = fd at fresh opens ⊢
  have allowed := (Extends.refl (Ledger.Touching Call.socketEvents)
    (.socket afInet sockStream 0 fd :: trace)).cons
    (.setsockopt fd (.reuseAddr 1) answers.reuseAddr) (by simp [Ledger.Touching, Call.socketEvents])
  have bound := allowed.cons (.bind fd server.servAddr answers.bind)
    (by simp [Ledger.Touching, Call.socketEvents])
  split_ifs
  · exact opens.trans (logs _ _)
  · intro other identity found
    have different : fd ≠ other := by
      rintro rfl
      exact fresh (Trace.mem_sockets_of_connection found)
    rw [Trace.connection_close, if_neg different]
    exact (opens.trans (Trace.keeps_of_touching allowed)).trans (logs _ _) other identity found
  · exact (opens.trans (Trace.keeps_of_touching bound)).trans (logs _ _)
  · exact opens.trans (Trace.keeps_of_touching bound)

theorem acceptClient_keeps (server : CTCPServer) (msec : Nat) (answers : ListenAnswers)
    (trace : Trace) :
    Trace.KeepsConnections trace (server.acceptClient msec answers trace).trace := by
  cases server.acceptClient_exit msec answers trace with
  | turnedAway _ _ _ calls =>
      exact Trace.keeps_of_touching (calls.mono fun _ => Call.Awaits.touching)
  | answered waited _ _ awaits client _ logs =>
      have fresh := waited.newSocket_not_mem answers.accept
      rw [← client] at fresh
      have waits := Trace.keeps_of_touching (awaits.mono fun _ => Call.Awaits.touching)
      exact (waits.trans (Trace.keeps_accept server.listenSocket answers.peer fresh)).trans
        (Trace.keeps_of_touching (logs.mono fun _ => Call.Logs.touching))

theorem listen_keeps (server : CTCPServer) (msec : Nat) (answers : ListenAnswers)
    (trace : Trace) : Trace.KeepsConnections trace (server.listen msec answers trace).trace := by
  simp only [listen]
  split
  · split
    · exact (server.createListenSocket_keeps answers trace).trans
        (acceptClient_keeps _ msec answers _)
    · exact server.createListenSocket_keeps answers trace
  · exact server.acceptClient_keeps msec answers trace

/-- The connection of the client, if there is one, is a new one. -/
theorem listen_connection {server : CTCPServer} {msec : Nat} {answers : ListenAnswers}
    {trace : Trace} {identity : Nat}
    (found : (server.listen msec answers trace).trace.connection
      (server.listen msec answers trace).clientSocket = some identity) :
    trace.socketClock ≤ identity := by
  have exit := server.listen_exit msec answers trace
  generalize server.listen msec answers trace = result at exit found
  cases exit with
  | uncreated _ _ _ client =>
      rw [client, Trace.connection_invalid] at found
      cases found
  | listened middle _ _ creates exit =>
      cases exit with
      | turnedAway _ _ client =>
          rw [client, Trace.connection_invalid] at found
          cases found
      | answered waited _ _ awaits client _ logs =>
          rw [Trace.connection_of_layer (logs.mono fun _ => Call.Logs.offSockets)] at found
          have valid := Trace.sockets_nonneg (Trace.mem_sockets_of_connection found)
          have before := Nat.le_trans (Trace.socketClock_mono creates)
            (Trace.socketClock_mono awaits)
          have position : Trace.connection
              (.accept result.self.listenSocket result.clientSocket answers.peer :: waited)
              result.clientSocket = some (waited.socketClock + 1) := by
            simp [Trace.connection, Call.socketEvents, valid, Ledger.identity, Trace.socketClock]
          rw [position] at found
          cases found
          omega

end CTCPServer

/-- The object still holds the connection it was accepted for. -/
def Slot.HoldsOwn (trace : Trace) (slot : Slot) : Prop :=
  ∀ identity, slot.accepted = some identity → trace.connection slot.sockFd = some identity

namespace ServerPool

/-- The object has no connection of its own, and its number stands for another one. -/
def Op.Stale (pool : ServerPool) : Op → Prop
  | .disconnect slot =>
      slot < pool.count ∧ (pool.slots slot).accepted = none ∧
        (pool.slots slot).sockFd ∈ pool.trace.sockets
  | _ => False

/-- A connection is ended only by a `Disconnect` on the object it was accepted for. -/
def EndsOwn (pool : ServerPool) (op : Op) : Prop :=
  ∀ fd identity, pool.trace.connection fd = some identity →
    (step pool op).trace.connection fd ≠ some identity →
    ∃ slot, op = .disconnect slot ∧ (pool.slots slot).accepted = some identity

/-- Every connection that was accepted and not disconnected is held by one object. -/
structure OwnsConnections (pool : ServerPool) : Prop where
  own : ∀ slot, (pool.slots slot).HoldsOwn pool.trace
  connections : Pool.Owned (fun slot : Slot => slot.accepted)
    (Finset.range pool.trace.socketClock) pool.slots

theorem ends_own_of_keeps {pool : ServerPool} {op : Op}
    (keeps : Trace.KeepsConnections pool.trace (step pool op).trace) : EndsOwn pool op :=
  fun fd identity found ended => absurd (keeps fd identity found) ended

theorem OwnsConnections.move {pool : ServerPool} (owns : OwnsConnections pool)
    (target source count : Nat) :
    OwnsConnections { pool with slots := Pool.move pool.slots target source .empty, count } where
  own := Pool.forall_move owns.own target source fun _ holds => by cases holds
  connections := owns.connections.move target source rfl

theorem OwnsConnections.construct {pool : ServerPool} (owns : OwnsConnections pool) :
    OwnsConnections { pool with
      slots := Function.update pool.slots pool.count .empty, count := pool.count + 1 } where
  own := Pool.forall_update owns.own pool.count fun _ holds => nomatch holds
  connections := owns.connections.clear pool.count rfl

theorem OwnsConnections.of_touching {pool : ServerPool} (owns : OwnsConnections pool)
    {trace : Trace} (touching : Extends (Ledger.Touching Call.socketEvents) pool.trace trace) :
    OwnsConnections { pool with trace } where
  own := fun slot identity holds =>
    Trace.keeps_of_touching touching _ identity (owns.own slot identity holds)
  connections := owns.connections.mono
    (Finset.range_subset_range.mpr (Trace.socketClock_mono touching))

theorem OwnsConnections.of_exchanges {pool : ServerPool} (owns : OwnsConnections pool)
    {pSSL : Option Nat} {trace : Trace}
    (exchanges : Extends (Call.Exchanges pSSL) pool.trace trace) :
    OwnsConnections { pool with trace } where
  own := fun slot identity holds => by
    rw [Trace.connection_of_passive (exchanges.mono fun _ => Call.Exchanges.passive)]
    exact owns.own slot identity holds
  connections := owns.connections.mono
    (Finset.range_subset_range.mpr (Trace.socketClock_mono exchanges))

theorem owns_listen_connection {pool : ServerPool} (owns : OwnsConnections pool)
    (slot msec : Nat) (tcpAnswers : ListenAnswers) (answers : AcceptAnswers) :
    Trace.KeepsConnections pool.trace (pool.server.listen (pool.slots slot).toSSLSocket msec
        tcpAnswers answers pool.trace).trace ∧
      OwnsConnections (pool.listened slot (pool.server.listen (pool.slots slot).toSSLSocket msec
        tcpAnswers answers pool.trace)) := by
  have off := (pool.server.listen_exit (pool.slots slot).toSSLSocket msec tcpAnswers answers
    pool.trace).offSockets
  have sockFd := pool.server.listen_sockFd (pool.slots slot).toSSLSocket msec tcpAnswers answers
    pool.trace
  have keeps := (pool.server.tcpServer.listen_keeps msec tcpAnswers pool.trace).trans
    (Trace.keeps_of_layer off)
  have grows := Nat.le_trans (Trace.socketClock_mono
    (pool.server.tcpServer.listen_offOpenssl msec tcpAnswers pool.trace))
    (Trace.socketClock_mono off)
  generalize pool.server.listen (pool.slots slot).toSSLSocket msec tcpAnswers answers pool.trace =
    result at off sockFd keeps grows ⊢
  have younger (identity : Nat)
      (found : result.trace.connection result.clientSocket.sockFd = some identity) :
      pool.trace.socketClock ≤ identity := by
    rw [sockFd, Trace.connection_of_layer off] at found
    exact CTCPServer.listen_connection found
  refine ⟨keeps, ?_, ?_⟩
  · refine Pool.forall_update ?_ slot fun _ same => same
    exact fun other identity holds => keeps _ identity (owns.own other identity holds)
  · refine (owns.connections.mono (Finset.range_subset_range.mpr grows)).put slot ?_ ?_
    · intro identity found
      exact Finset.mem_range.mpr (Trace.connection_lt found)
    · intro identity other found holds
      have older := Finset.mem_range.mp (owns.connections.live other identity holds)
      have after := younger identity found
      omega

theorem connection_disconnect {pool : ServerPool} {slot : Nat} (exist : slot < pool.count)
    (fd : Socket) : (step pool (.disconnect slot)).trace.connection fd =
      if (pool.slots slot).sockFd = fd then none else pool.trace.connection fd := by
  have off := shutdownSSL_offSockets (pool.slots slot).toSSLSocket pool.trace
  have kept : (shutdownSSL (pool.slots slot).toSSLSocket pool.trace).self.sockFd =
      (pool.slots slot).sockFd := by
    unfold shutdownSSL
    split <;> rfl
  simp only [step, if_pos exist, disconnected, CTCPSSLServer.disconnect, CTCPServer.disconnect,
    Trace.connection_close, kept, Trace.connection_of_layer off]

theorem socketClock_disconnect (pool : ServerPool) (slot : Nat) :
    pool.trace.socketClock ≤ (pool.server.disconnect (pool.slots slot).toSSLSocket
      pool.trace).trace.socketClock :=
  Nat.le_trans (Trace.socketClock_mono (shutdownSSL_offSockets (pool.slots slot).toSSLSocket _))
    (Trace.socketClock_mono ((Extends.refl (fun _ => True) _).cons _ trivial))

/-- The descriptor that a `Disconnect` closes belongs to the object, or to nobody. -/
theorem ends_own_disconnect_iff {pool : ServerPool} (owns : OwnsConnections pool) {slot : Nat}
    (exist : slot < pool.count) :
    EndsOwn pool (.disconnect slot) ↔ ¬ (Op.disconnect slot).Stale pool := by
  constructor
  · rintro ends ⟨-, vacant, isOpen⟩
    obtain ⟨identity, found⟩ := Option.isSome_iff_exists.mp
      (Ledger.identity_isSome_iff.mpr isOpen)
    have ended : (step pool (.disconnect slot)).trace.connection (pool.slots slot).sockFd ≠
        some identity := by
      rw [connection_disconnect exist, if_pos rfl]
      exact nofun
    obtain ⟨other, same, holds⟩ := ends _ identity found ended
    cases same
    rw [vacant] at holds
    cases holds
  · intro current fd identity found ended
    refine ⟨slot, rfl, ?_⟩
    have same : (pool.slots slot).sockFd = fd := by
      by_contra different
      exact ended (by rw [connection_disconnect exist, if_neg different, found])
    cases holds : (pool.slots slot).accepted with
    | none => exact absurd ⟨exist, holds, same ▸ Trace.mem_sockets_of_connection found⟩ current
    | some own =>
        have current := owns.own slot own holds
        rw [same, found] at current
        exact current.symm

theorem owns_disconnect_connection {pool : ServerPool} (owns : OwnsConnections pool) {slot : Nat}
    (ends : EndsOwn pool (.disconnect slot)) (exist : slot < pool.count) :
    OwnsConnections (step pool (.disconnect slot)) := by
  have connections := owns.connections.mono
    (Finset.range_subset_range.mpr (socketClock_disconnect pool slot))
  constructor
  · intro other identity holds
    simp only [step, if_pos exist, disconnected] at holds ⊢
    by_cases same : other = slot
    · rw [same, Function.update_self] at holds
      cases holds
    · rw [Function.update_of_ne same] at holds ⊢
      by_contra ended
      have endedByStep : (step pool (.disconnect slot)).trace.connection
          (pool.slots other).sockFd ≠ some identity := by
        simpa only [step, if_pos exist, disconnected] using ended
      obtain ⟨holder, isSlot, holdsToo⟩ := ends (pool.slots other).sockFd identity
        (owns.own other identity holds) endedByStep
      cases isSlot
      exact same (owns.connections.exclusive other slot identity holds holdsToo)
  · simp only [step, if_pos exist]
    exact connections.clear slot rfl

/-- Nothing but a `Disconnect` ends a connection. -/
theorem keeps_step {pool : ServerPool} (owns : OwnsConnections pool) {op : Op}
    (others : ∀ slot, op = .disconnect slot → ¬ slot < pool.count) :
    Trace.KeepsConnections pool.trace (step pool op).trace := by
  have rule := @step_rule (fun next => Trace.KeepsConnections pool.trace next.trace) pool op
  apply rule
  · exact fun _ _ found => found
  · exact fun _ _ found => found
  · exact fun _ _ _ _ _ found => found
  · exact fun slot msec tcpAnswers answers =>
      (owns_listen_connection owns slot msec tcpAnswers answers).1
  · exact fun _ _ exchanges => Trace.keeps_of_exchanges exchanges
  · exact fun slot same exist => absurd exist (others slot same)

theorem ends_own_iff {pool : ServerPool} (owns : OwnsConnections pool) (op : Op) :
    EndsOwn pool op ↔ ¬ op.Stale pool := by
  cases op with
  | disconnect slot =>
      by_cases exist : slot < pool.count
      · exact ends_own_disconnect_iff owns exist
      · refine iff_of_true (ends_own_of_keeps (keeps_step owns ?_)) fun stale => exist stale.1
        intro other same
        cases same
        exact exist
  | _ => exact iff_of_true (ends_own_of_keeps (keeps_step owns fun _ same => nomatch same)) id

theorem owns_step_connection {pool : ServerPool} (owns : OwnsConnections pool) (op : Op)
    (current : ¬ op.Stale pool) : OwnsConnections (step pool op) := by
  apply step_rule op owns
  · constructor
    · exact Pool.forall_update owns.own pool.count fun _ holds => nomatch holds
    · exact owns.connections.clear pool.count rfl
  · exact owns.move
  · exact fun slot msec tcpAnswers answers =>
      (owns_listen_connection owns slot msec tcpAnswers answers).2
  · exact fun _ _ exchanges => owns.of_exchanges exchanges
  · rintro slot rfl exist
    have ends := (ends_own_disconnect_iff owns exist).mpr current
    have disconnects := owns_disconnect_connection owns ends exist
    simpa only [step, if_pos exist] using disconnects

theorem owns_connections_init (server : CTCPSSLServer) : OwnsConnections (init server) where
  own := fun _ _ holds => nomatch holds
  connections := ⟨fun _ _ _ holds => (by cases holds), fun _ _ holds => (by cases holds)⟩

/-- The invariant rule for pools: as long as no stale number is disconnected, every
connection that was accepted and not disconnected is held by one object. -/
theorem owns_connections (server : CTCPSSLServer) {operations : List Op}
    (current : Runs.Steps step (fun pool op => ¬ op.Stale pool) (init server) operations) :
    Runs.Always step OwnsConnections (init server) operations := by
  have keeps : ∀ pool op, OwnsConnections pool → ¬ op.Stale pool →
      OwnsConnections (step pool op) :=
    fun _ op owns current => owns_step_connection owns op current
  exact Runs.always_of_invariant keeps (owns_connections_init server) current

/-- In a run of a pool each connection is ended only by a `Disconnect` on the object
that holds it exactly when no `Disconnect` is made on a stale number. -/
theorem ends_own_iff_current (server : CTCPSSLServer) (operations : List Op) :
    Runs.Steps step EndsOwn (init server) operations ↔
      Runs.Steps step (fun pool op => ¬ op.Stale pool) (init server) operations := by
  have keeps (pool : ServerPool) (op : Op) (owns : OwnsConnections pool)
      (current : ¬ op.Stale pool) : OwnsConnections (step pool op) :=
    owns_step_connection owns op current
  have start := owns_connections_init server
  constructor
  · refine Runs.steps_of_invariant ?_ ?_ start
    · exact fun pool op owns ends => keeps pool op owns ((ends_own_iff owns op).mp ends)
    · exact fun pool op owns ends => (ends_own_iff owns op).mp ends
  · refine Runs.steps_of_invariant keeps ?_ start
    exact fun pool op owns current => (ends_own_iff owns op).mpr current

/-- Two clients arrive one after the other, and the first one is disconnected twice. -/
def disconnectedTwice : List Op :=
  let ready := CTCPServer.arriving { result := 1, ready := true }
  let completes := CTCPSSLServer.handshakeWith 1
  [.construct, .construct, .listen 0 1000 ready completes, .disconnect 0,
    .listen 1 1000 ready completes, .disconnect 0]

/-- The second `Disconnect` of the first client closes the connection of the second one. -/
theorem disconnect_closes_other_client :
    let pool := (disconnectedTwice.take 5).foldl step (init CTCPSSLServer.plainServer)
    let after := step pool (.disconnect 0)
    (pool.slots 0).accepted = none ∧
      (pool.slots 1).accepted = pool.trace.connection 4 ∧ pool.trace.connection 4 ≠ none ∧
      after.trace.connection 4 = none ∧
      ¬ Runs.Steps step EndsOwn (init CTCPSSLServer.plainServer) disconnectedTwice := by
  intro pool after
  have vacant : (pool.slots 0).accepted = none := by decide
  have present : pool.trace.connection 4 ≠ none := by decide
  have ended : after.trace.connection 4 = none := by decide
  refine ⟨vacant, by decide, present, ended, ?_⟩
  rintro ⟨-, -, -, -, -, last, -⟩
  obtain ⟨identity, found⟩ := Option.ne_none_iff_exists'.mp present
  obtain ⟨slot, same, holds⟩ := last 4 identity found (ended ▸ nofun)
  cases same
  have none := holds.symm.trans vacant
  cases none

end ServerPool

end SocketCpp
