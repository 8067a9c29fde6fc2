import SocketCpp.Process.Servers
import SocketCpp.TCPSSLClient.Session

namespace SocketCpp

open Data

/-! Over which connection the data of a client of a `CTCPSSLServer` goes.

An object keeps its session through a `Listen` that ends before there is a new one, and its
descriptor does not. -/

namespace Trace

theorem connection_accept {trace : Trace} (listener : Socket) {fd : Socket} (peer : SockAddrIn)
    (valid : 0 ≤ fd) :
    connection (.accept listener fd peer :: trace) fd = some (trace.socketClock + 1) := by
  simp [connection, Call.socketEvents, valid, Ledger.identity, socketClock]

/-- From the creation of a context to the end of a handshake the other sessions stay on their
connections. -/
theorem shaken_attached {before loaded after : Trace} {method : SSLMethod} {ctx pSSL : Nat}
    {fd : Socket} {result : Int}
    (files : Extends (Call.LoadsInto (some ctx)) (.sslCtxNew method (some ctx) :: before) loaded)
    (calls : Extends (Call.Reports (some pSSL))
      (.sslAccept (some pSSL) result :: .sslSetFd (some pSSL) fd ::
        .sslNew (some ctx) pSSL :: loaded) after) (ssl : Nat) :
    after.attached ssl = if pSSL = ssl then before.connection fd else before.attached ssl := by
  obtain ⟨-, -, -, connections⟩ := loaded_views files
  have earlier : connection (.sslNew (some ctx) pSSL :: loaded) fd = before.connection fd := by
    rw [← connections fd]
    simp [connection, Call.socketEvents]
  rw [attached_of_passive (calls.mono fun _ => Call.Reports.passive)]
  by_cases same : pSSL = ssl
  · rw [if_pos same, ← earlier]
    simp [attached, same]
  · simp [attached, same, loaded_attached files]

/-- The connection that the session was put on is still open. -/
def Carries (trace : Trace) (ssl : Nat) : Prop :=
  ∃ fd identity, trace.attached ssl = some identity ∧ trace.connection fd = some identity

theorem Carries.of_passive {before after : Trace} {ssl : Nat} (carries : before.Carries ssl)
    (passive : Extends (fun call : Call => call.passive = true) before after) :
    after.Carries ssl := by
  obtain ⟨fd, identity, attached, found⟩ := carries
  refine ⟨fd, identity, ?_, ?_⟩
  · rw [attached_of_passive passive, attached]
  · rw [connection_of_passive passive, found]

end Trace

/-- What goes over the network for a session goes over an open connection, the one that the
session was put on. -/
def Call.Carried (call : Call) (earlier : Trace) : Prop :=
  match call with
  | .sslAccept (some ssl) _ | .sslWrite (some ssl) _ _ _ | .sslRead (some ssl) _ _ _
  | .sslShutdown (some ssl) => earlier.Carries ssl
  | _ => True

theorem Call.carried_of_layer {call : Call} (other : call.layer ≠ .openssl) (earlier : Trace) :
    call.Carried earlier := by
  cases call <;> trivial

theorem Call.LoadsInto.carried {ctx : Option Nat} {call : Call} (loads : call.LoadsInto ctx)
    (earlier : Trace) : call.Carried earlier := by
  cases call <;> trivial

theorem Call.Reports.carried {pSSL : Option Nat} {call : Call} (reports : call.Reports pSSL)
    (earlier : Trace) : call.Carried earlier := by
  cases call <;> trivial

namespace Trace

variable {before after : Trace}

theorem carried_exchanges {pSSL : Option Nat}
    (carries : ∀ ssl, pSSL = some ssl → before.Carries ssl) (carried : Each Call.Carried before)
    (exchanges : Extends (Call.Exchanges pSSL) before after) : Each Call.Carried after := by
  apply exchanges.each carried
  intro call earlier exchange extended
  have still (ssl : Nat) (own : pSSL = some ssl) : Carries earlier ssl :=
    (carries ssl own).of_passive (extended.mono fun _ => Call.Exchanges.passive)
  cases call with
  | sslWrite pointer | sslRead pointer =>
      cases pointer with
      | none => trivial
      | some ssl => exact still ssl exchange.symm
  | _ => trivial

/-- A handshake over a connection that has just been accepted. -/
theorem carried_handshake {loaded : Trace} {method : SSLMethod} {ctx pSSL : Nat} {fd : Socket}
    {result : Int} {identity : Nat} (carried : Each Call.Carried before)
    (files : Extends (Call.LoadsInto (some ctx)) (.sslCtxNew method (some ctx) :: before) loaded)
    (found : before.connection fd = some identity)
    (calls : Extends (Call.Reports (some pSSL))
      (.sslAccept (some pSSL) result :: .sslSetFd (some pSSL) fd ::
        .sslNew (some ctx) pSSL :: loaded) after) :
    after.Carries pSSL ∧ Each Call.Carried after := by
  obtain ⟨-, -, -, connections⟩ := loaded_views files
  have put : Carries (.sslSetFd (some pSSL) fd :: .sslNew (some ctx) pSSL :: loaded) pSSL := by
    refine ⟨fd, identity, ?_, ?_⟩
    · simpa [attached, connection, Call.socketEvents] using (connections fd).trans found
    · simpa [connection, Call.socketEvents] using (connections fd).trans found
  have created : Each Call.Carried (.sslCtxNew method (some ctx) :: before) := ⟨trivial, carried⟩
  have ready := files.each created fun _ earlier loads _ => loads.carried earlier
  have shaken : Each Call.Carried (.sslAccept (some pSSL) result :: .sslSetFd (some pSSL) fd ::
      .sslNew (some ctx) pSSL :: loaded) := ⟨put, trivial, trivial, ready⟩
  have accepts : Carries (.sslAccept (some pSSL) result :: .sslSetFd (some pSSL) fd ::
      .sslNew (some ctx) pSSL :: loaded) pSSL := by
    obtain ⟨sd, own, attached, isOpen⟩ := put
    refine ⟨sd, own, attached, ?_⟩
    simpa [connection, Call.socketEvents] using isOpen
  exact ⟨accepts.of_passive (calls.mono fun _ => Call.Reports.passive),
    calls.each shaken fun _ earlier reports _ => reports.carried earlier⟩

end Trace

namespace CTCPServer

/-- A client that is there has a connection. -/
theorem listen_connected {server : CTCPServer} {msec : Nat} {answers : ListenAnswers}
    {trace : Trace} (accepted : (server.listen msec answers trace).value = true) :
    ∃ identity, (server.listen msec answers trace).trace.connection
      (server.listen msec answers trace).clientSocket = some identity := by
  have exit := server.listen_exit msec answers trace
  generalize server.listen msec answers trace = result at exit accepted ⊢
  cases exit with
  | uncreated _ _ value =>
      rw [value] at accepted
      cases accepted
  | listened middle _ _ _ exit =>
      cases exit with
      | turnedAway _ value =>
          rw [value] at accepted
          cases accepted
      | answered waited _ _ _ client value logs =>
          have valid : 0 ≤ result.clientSocket :=
            (accepted_client client).1.mp (value.symm.trans accepted)
          refine ⟨waited.socketClock + 1, ?_⟩
          rw [Trace.connection_of_layer (logs.mono fun _ => Call.Logs.offSockets)]
          exact Trace.connection_accept _ _ valid

end CTCPServer

namespace CTCPSSLServer

/-- A client is accepted, and a context is made and gets its files, so that there will be a new
session. -/
def Begins (server : CTCPSSLServer) (msec : Nat) (tcpAnswers : ListenAnswers)
    (answers : AcceptAnswers) (trace : Trace) : Prop :=
  (server.tcpServer.listen msec tcpAnswers trace).value = true ∧ answers.ctxNew.isSome ∧
    server.loads answers.files = true

variable {server : CTCPSSLServer} {clientSocket : SSLSocket} {msec : Nat}
  {tcpAnswers : ListenAnswers} {answers : AcceptAnswers} {trace : Trace}

theorem listen_keeps_session (stops : ¬ server.Begins msec tcpAnswers answers trace) :
    (server.listen clientSocket msec tcpAnswers answers trace).clientSocket.pSSL =
      clientSocket.pSSL := by
  simp only [listen]
  cases accepted : (server.tcpServer.listen msec tcpAnswers trace).value with
  | false => rfl
  | true =>
      simp only [if_true, acceptSecurely, ASecureSocket.setUpCtxServer]
      cases created : answers.ctxNew with
      | none => rfl
      | some named =>
          obtain ⟨ctx, isNew⟩ : ∃ ctx, (server.tcpServer.listen msec tcpAnswers
            trace).trace.newContext (some named) = some ctx := ⟨_, rfl⟩
          have value := server.loadFiles_value "[TCPSSLServer]" (some ctx) answers.files
            (.sslCtxNew server.eOpenSSLProtocol.serverMethod (some ctx) ::
              (server.tcpServer.listen msec tcpAnswers trace).trace)
          have fails : ¬ server.loads answers.files = true :=
            fun loads => stops ⟨accepted, by rw [created]; rfl, loads⟩
          simp only [isNew, value, if_neg fails]

/-- A session that is there stays on its connection. -/
theorem listen_attached {ssl : Nat} (live : ssl ∈ trace.sessions) :
    (server.listen clientSocket msec tcpAnswers answers trace).trace.attached ssl =
      trace.attached ssl := by
  have off := server.tcpServer.listen_offOpenssl msec tcpAnswers trace
  have exit := server.listen_exit clientSocket msec tcpAnswers answers trace
  rw [← Trace.sessions_of_layer off] at live
  rw [← Trace.attached_of_layer off]
  generalize server.tcpServer.listen msec tcpAnswers trace = tcp at exit live ⊢
  cases exit with
  | notAccepted _ _ _ calls =>
      exact Trace.attached_of_layer (calls.mono fun _ => Call.Logs.offOpenssl) ssl
  | noContext _ _ _ _ calls =>
      exact Trace.attached_of_layer (calls.mono fun _ => Call.Logs.offOpenssl) ssl
  | notLoaded ctx _ _ _ _ _ calls => exact Trace.loaded_attached calls ssl
  | refused ctx pSSL loaded shaken _ _ freshSession _ _ _ files calls ended =>
      rw [(Trace.loaded_views files).2.1] at freshSession
      have other : pSSL ≠ ssl := fun same => freshSession (same ▸ live)
      rw [ended]
      exact (Trace.shaken_attached files calls ssl).trans (if_neg other)
  | secured ctx pSSL loaded _ _ freshSession _ _ _ files ended =>
      rw [(Trace.loaded_views files).2.1] at freshSession
      have other : pSSL ≠ ssl := fun same => freshSession (same ▸ live)
      rw [ended]
      exact (Trace.shaken_attached files (Extends.refl _ _) ssl).trans (if_neg other)

theorem listen_carried (carried : Each Call.Carried trace) :
    Each Call.Carried (server.listen clientSocket msec tcpAnswers answers trace).trace := by
  have connected := @CTCPServer.listen_connected server.tcpServer msec tcpAnswers trace
  have off := server.tcpServer.listen_offOpenssl msec tcpAnswers trace
  have exit := server.listen_exit clientSocket msec tcpAnswers answers trace
  have accepted := off.each carried fun _ earlier other _ => Call.carried_of_layer other earlier
  generalize server.tcpServer.listen msec tcpAnswers trace = tcp at exit accepted connected
  have logs {before after : Trace} (each : Each Call.Carried before)
      (calls : Extends Call.Logs before after) : Each Call.Carried after :=
    calls.each each fun _ earlier logs _ => Call.carried_of_layer logs.offOpenssl earlier
  have created (ctx : Option Nat) : Each Call.Carried
      (.sslCtxNew server.eOpenSSLProtocol.serverMethod ctx :: tcp.trace) := ⟨trivial, accepted⟩
  cases exit with
  | notAccepted _ _ _ calls => exact logs accepted calls
  | noContext _ _ _ _ calls => exact logs (created none) calls
  | notLoaded ctx _ _ _ _ _ calls =>
      exact calls.each (created (some ctx)) fun _ earlier loads _ => loads.carried earlier
  | refused ctx pSSL loaded shaken value _ _ _ _ _ files calls ended =>
      obtain ⟨identity, found⟩ := connected value
      obtain ⟨carries, each⟩ := Trace.carried_handshake accepted files found calls
      rw [ended]
      exact ⟨trivial, trivial, carries, each⟩
  | secured ctx pSSL loaded value _ _ _ _ _ files ended =>
      obtain ⟨identity, found⟩ := connected value
      rw [ended]
      exact (Trace.carried_handshake accepted files found (Extends.refl _ _)).2

end CTCPSSLServer

namespace ServerPool

/-- The session of the object runs over an open connection: the one that the object was accepted
for or, unless this is strict, one that no object was accepted for. -/
def Rides (strict : Prop) (pool : ServerPool) (slot : Slot) : Prop :=
  ∀ pSSL, slot.pSSL = some pSSL → ∃ identity fd,
    pool.trace.attached pSSL = some identity ∧ pool.trace.connection fd = some identity ∧
      (slot.accepted = some identity ∨
        ¬ strict ∧ ∀ other, (pool.slots other).accepted ≠ some identity)

/-- What an object sends and receives goes over its own connection, which is open, and the
session of no other object goes over it. -/
def Private (pool : ServerPool) : Prop :=
  ∀ slot pSSL, (pool.slots slot).pSSL = some pSSL →
    ∃ identity, (pool.slots slot).accepted = some identity ∧
      pool.trace.attached pSSL = some identity ∧
      pool.trace.connection (pool.slots slot).sockFd = some identity ∧
      ∀ other otherSSL, (pool.slots other).pSSL = some otherSSL →
        pool.trace.attached otherSSL = some identity → other = slot

/-- A `Listen` into an object with a session that ends before there is a new one. -/
def Request.Strands (pool : ServerPool) : Request → Prop
  | .op (.listen slot msec tcpAnswers answers) =>
      slot < pool.count ∧ (pool.slots slot).pSSL ≠ none ∧
        ¬ pool.server.Begins msec tcpAnswers answers pool.trace
  | _ => False

structure Routed (strict : Prop) (pool : ServerPool) : Prop where
  attended : Attended false pool
  objects : OwnsObjects pool
  rides : ∀ slot, Rides strict pool (pool.slots slot)
  carried : Each Call.Carried pool.trace

section Steps

variable {strict : Prop} {pool : ServerPool}

theorem Routed.carries (routed : Routed strict pool) {slot pSSL : Nat}
    (holds : (pool.slots slot).pSSL = some pSSL) : pool.trace.Carries pSSL := by
  obtain ⟨identity, fd, attached, found, -⟩ := routed.rides slot pSSL holds
  exact ⟨fd, identity, attached, found⟩

theorem Routed.isPrivate (routed : Routed True pool) : Private pool := by
  have own (slot pSSL : Nat) (holds : (pool.slots slot).pSSL = some pSSL) :
      ∃ identity, (pool.slots slot).accepted = some identity ∧
        pool.trace.attached pSSL = some identity := by
    obtain ⟨identity, fd, attached, -, accepted | ⟨lax, -⟩⟩ := routed.rides slot pSSL holds
    · exact ⟨identity, accepted, attached⟩
    · exact absurd trivial lax
  intro slot pSSL holds
  obtain ⟨identity, accepted, attached⟩ := own slot pSSL holds
  refine ⟨identity, accepted, attached, routed.attended.owns.own slot identity accepted, ?_⟩
  intro other otherSSL holdsToo same
  obtain ⟨another, acceptedToo, attachedToo⟩ := own other otherSSL holdsToo
  obtain rfl : another = identity := Option.some.inj (attachedToo.symm.trans same)
  exact routed.attended.owns.connections.exclusive other slot another acceptedToo accepted

theorem Rides.mono {after : ServerPool} {slot : Slot} (rides : Rides strict pool slot)
    (attached : ∀ pSSL, slot.pSSL = some pSSL →
      after.trace.attached pSSL = pool.trace.attached pSSL)
    (keeps : ∀ fd identity, pool.trace.connection fd = some identity →
      (slot.accepted = some identity ∨ ∀ other, (pool.slots other).accepted ≠ some identity) →
      after.trace.connection fd = some identity)
    (free : ∀ identity, identity < pool.trace.socketClock →
      (∀ other, (pool.slots other).accepted ≠ some identity) →
      ∀ other, (after.slots other).accepted ≠ some identity) : Rides strict after slot := by
  intro pSSL holds
  obtain ⟨identity, fd, runs, found, own⟩ := rides pSSL holds
  refine ⟨identity, fd, (attached pSSL holds).trans runs, keeps fd identity found ?_, ?_⟩
  · exact own.imp_right fun others => others.2
  · exact own.imp_right fun others => ⟨others.1, free identity (Trace.connection_lt found) others.2⟩

/-- Calls that leave the sessions on their connections and the connections open. -/
theorem Routed.of_calls (routed : Routed strict pool) {trace : Trace}
    (attached : ∀ ssl, trace.attached ssl = pool.trace.attached ssl)
    (connections : ∀ fd, trace.connection fd = pool.trace.connection fd) (slot : Nat) :
    Rides strict { pool with trace } (pool.slots slot) :=
  (routed.rides slot).mono (fun ssl _ => attached ssl)
    (fun fd _ found _ => (connections fd).trans found) fun _ _ free => free

theorem rides_vacant : Rides strict pool .empty := by
  intro pSSL holds
  cases holds

theorem vacant_ne (identity : Nat) : Slot.empty.accepted ≠ some identity := by
  intro holds
  cases holds

theorem rides_construct (routed : Routed strict pool) :
    let after := step pool .construct
    ∀ slot, Rides strict after (after.slots slot) := by
  intro after
  refine Pool.forall_update (fun slot => ?_) pool.count rides_vacant
  refine (routed.rides slot).mono (fun _ _ => rfl) (fun _ _ found _ => found) ?_
  exact fun identity _ free => @Pool.forall_update _ _ _
    (fun slot : Slot => slot.accepted ≠ some identity) pool.slots free pool.count .empty
    (vacant_ne identity)

theorem rides_move (routed : Routed strict pool) (target source count : Nat) :
    let after := { pool with slots := Pool.move pool.slots target source .empty, count }
    ∀ slot, Rides strict after (after.slots slot) := by
  intro after
  refine Pool.forall_move (fun slot => ?_) target source rides_vacant
  refine (routed.rides slot).mono (fun _ _ => rfl) (fun _ _ found _ => found) ?_
  exact fun identity _ free => @Pool.forall_move _ _ _
    (fun slot : Slot => slot.accepted ≠ some identity) pool.slots free target source .empty
    (vacant_ne identity)

/-- An object is accepted for the connection that the inner `Listen` returns. -/
theorem listened_accepted {slot msec : Nat} {tcpAnswers : ListenAnswers}
    {answers : AcceptAnswers} :
    ((pool.listened slot (pool.server.listen (pool.slots slot).toSSLSocket msec tcpAnswers answers
      pool.trace)).slots slot).accepted =
        (pool.server.tcpServer.listen msec tcpAnswers pool.trace).trace.connection
          (pool.server.tcpServer.listen msec tcpAnswers pool.trace).clientSocket := by
  simp only [listened, Function.update_self]
  rw [CTCPSSLServer.listen_sockFd, Trace.connection_of_layer (pool.server.listen_exit
    (pool.slots slot).toSSLSocket msec tcpAnswers answers pool.trace).offSockets]

/-- The connection that `Listen` may have given to its object is younger than all others. -/
theorem listened_younger {identity slot msec : Nat} {tcpAnswers : ListenAnswers}
    {answers : AcceptAnswers}
    (accepted : ((pool.listened slot (pool.server.listen (pool.slots slot).toSSLSocket msec
      tcpAnswers answers pool.trace)).slots slot).accepted = some identity) :
    pool.trace.socketClock ≤ identity := by
  rw [listened_accepted] at accepted
  exact CTCPServer.listen_connection accepted

theorem listened_free {identity slot msec : Nat} {tcpAnswers : ListenAnswers}
    {answers : AcceptAnswers} (older : identity < pool.trace.socketClock)
    (free : ∀ other, other ≠ slot → (pool.slots other).accepted ≠ some identity) :
    ∀ other, ((pool.listened slot (pool.server.listen (pool.slots slot).toSSLSocket msec tcpAnswers
      answers pool.trace)).slots other).accepted ≠ some identity := by
  intro other
  by_cases same : other = slot
  · rw [same]
    exact fun accepted => Nat.not_lt.mpr (listened_younger accepted) older
  · simp only [listened, Function.update_of_ne same]
    exact free other same

/-- The new session of an object runs over the connection that has just been accepted. -/
theorem rides_begun {slot msec : Nat} {tcpAnswers : ListenAnswers} {answers : AcceptAnswers}
    (begins : pool.server.Begins msec tcpAnswers answers pool.trace) :
    let after := pool.listened slot (pool.server.listen (pool.slots slot).toSSLSocket msec
      tcpAnswers answers pool.trace)
    Rides strict after (after.slots slot) := by
  intro after pSSL holds
  simp only [after, listened, Function.update_self] at holds ⊢
  obtain ⟨accepted, created, loads⟩ := begins
  obtain ⟨identity, found⟩ := CTCPServer.listen_connected accepted
  have exit := pool.server.listen_exit (pool.slots slot).toSSLSocket msec tcpAnswers answers
    pool.trace
  have off := exit.offSockets
  have sockFd := pool.server.listen_sockFd (pool.slots slot).toSSLSocket msec tcpAnswers answers
    pool.trace
  refine ⟨identity, _, ?_, (Trace.connection_of_layer off _).trans found, .inl ?_⟩
  · cases exit with
    | notAccepted failed => exact absurd (failed.symm.trans accepted) Bool.false_ne_true
    | noContext _ none => exact absurd created (by rw [none]; exact Bool.false_ne_true)
    | notLoaded _ _ _ fails => exact absurd (fails.symm.trans loads) Bool.false_ne_true
    | refused _ _ _ _ _ _ _ _ _ socket =>
        rw [socket] at holds
        cases holds
    | secured ctx own loaded _ _ _ _ _ socket files ended =>
        rw [socket] at holds
        obtain rfl : own = pSSL := Option.some.inj holds
        rw [ended, Trace.shaken_attached files (Extends.refl _ _), if_pos rfl, found]
  · rw [sockFd, Trace.connection_of_layer off, found]

theorem rides_listen (routed : Routed strict pool) {slot msec : Nat} {tcpAnswers : ListenAnswers}
    {answers : AcceptAnswers} (exist : slot < pool.count)
    (spares : strict → ¬ Request.Strands pool (.op (.listen slot msec tcpAnswers answers))) :
    let after := pool.listened slot (pool.server.listen (pool.slots slot).toSSLSocket msec
      tcpAnswers answers pool.trace)
    ∀ other, Rides strict after (after.slots other) := by
  intro after other
  have keeps := (owns_listen_connection routed.attended.owns slot msec tcpAnswers answers).1
  have attached {ssl : Nat} (live : ssl ∈ pool.trace.sessions) :
      after.trace.attached ssl = pool.trace.attached ssl := CTCPSSLServer.listen_attached live
  by_cases same : other = slot
  · rw [same]
    by_cases begins : pool.server.Begins msec tcpAnswers answers pool.trace
    · exact rides_begun begins
    · intro pSSL holds
      simp only [after, listened, Function.update_self] at holds
      have held : (pool.slots slot).pSSL = some pSSL :=
        (CTCPSSLServer.listen_keeps_session begins).symm.trans holds
      have lax : ¬ strict := by
        intro isStrict
        exact spares isStrict ⟨exist, by rw [held]; exact Option.some_ne_none _, begins⟩
      obtain ⟨identity, fd, runs, found, own⟩ := routed.rides slot pSSL held
      refine ⟨identity, fd, (attached (routed.objects.sessions.live slot pSSL held)).trans runs,
        keeps fd identity found, .inr ⟨lax, ?_⟩⟩
      refine listened_free (Trace.connection_lt found) fun another different held => ?_
      rcases own with accepted | ⟨-, free⟩
      · exact different (routed.attended.owns.connections.exclusive another slot identity held
          accepted)
      · exact free another held
  · have kept : after.slots other = pool.slots other := Function.update_of_ne same ..
    rw [kept]
    refine (routed.rides other).mono (fun ssl holds => ?_) (fun fd identity found _ => ?_) ?_
    · exact attached (routed.objects.sessions.live other ssl holds)
    · exact keeps fd identity found
    · exact fun identity older free => listened_free older fun another _ => free another

/-- The connection that is closed is the object's own, and no other session runs over it. -/
theorem rides_disconnect (routed : Routed strict pool) {slot : Nat} (exist : slot < pool.count)
    (holds : (pool.slots slot).accepted ≠ none) :
    let after := pool.disconnected slot
      (pool.server.disconnect (pool.slots slot).toSSLSocket pool.trace)
    ∀ other, Rides strict after (after.slots other) := by
  intro after other
  have closes (fd : Socket) := connection_disconnect exist fd
  simp only [step, if_pos exist] at closes
  by_cases same : other = slot
  · have ends : (shutdownSSL (pool.slots slot).toSSLSocket pool.trace).self.pSSL = none := by
      unfold shutdownSSL
      split
      · next none => exact none
      · rfl
    intro pSSL left
    rw [same] at left
    simp only [after, disconnected, Function.update_self] at left
    cases ends.symm.trans left
  · have kept : after.slots other = pool.slots other := Function.update_of_ne same ..
    rw [kept]
    refine (routed.rides other).mono (fun ssl _ => ?_) (fun fd identity found own => ?_) ?_
    · change (shutdownSSL (pool.slots slot).toSSLSocket pool.trace).trace.attached ssl = _
      unfold shutdownSSL
      split <;> rfl
    · obtain ⟨closed, accepted⟩ := Option.ne_none_iff_exists'.mp holds
      have different : (pool.slots slot).sockFd ≠ fd := by
        rintro rfl
        obtain rfl : closed = identity :=
          Option.some.inj ((routed.attended.owns.own slot closed accepted).symm.trans found)
        rcases own with acceptedToo | free
        · exact same (routed.attended.owns.connections.exclusive other slot closed acceptedToo
            accepted)
        · exact free slot accepted
      rw [closes, if_neg different, found]
    · intro identity _ free another
      by_cases isSlot : another = slot
      · rw [isSlot]
        simp only [after, disconnected, Function.update_self]
        intro holds
        cases holds
      · simp only [after, disconnected, Function.update_of_ne isSlot]
        exact free another

theorem carried_disconnect (routed : Routed strict pool) (slot : Nat) :
    Each Call.Carried
      (pool.server.disconnect (pool.slots slot).toSSLSocket pool.trace).trace := by
  simp only [CTCPSSLServer.disconnect, CTCPServer.disconnect, shutdownSSL]
  split
  · exact ⟨trivial, routed.carried⟩
  · next pSSL holds => exact ⟨trivial, trivial, trivial, routed.carries holds, routed.carried⟩

theorem Routed.exchanges (routed : Routed strict pool) {slot : Nat} {trace : Trace}
    (exchanges : Extends (Call.Exchanges (pool.slots slot).pSSL) pool.trace trace) :
    (∀ other, Rides strict { pool with trace } (pool.slots other)) ∧ Each Call.Carried trace := by
  have passive := exchanges.mono fun _ => Call.Exchanges.passive
  exact ⟨routed.of_calls (Trace.attached_of_passive passive) (Trace.connection_of_passive passive),
    Trace.carried_exchanges (fun _ holds => routed.carries holds) routed.carried exchanges⟩

theorem routed_op (routed : Routed strict pool) (op : Op)
    (respects : Request.Respects pool (.op op))
    (spares : strict → ¬ Request.Strands pool (.op op)) : Routed strict (step pool op) := by
  suffices both : (∀ slot, Rides strict (step pool op) ((step pool op).slots slot)) ∧
      Each Call.Carried (step pool op).trace from
    ⟨attended_op routed.attended op respects, owns_step routed.objects op, both.1, both.2⟩
  have same := And.intro routed.rides routed.carried
  cases op with
  | construct => exact ⟨rides_construct routed, routed.carried⟩
  | moveConstruct source =>
      simp only [step]
      split
      · exact ⟨rides_move routed _ source _, routed.carried⟩
      · exact same
  | moveAssign target source =>
      simp only [step]
      split
      · exact ⟨rides_move routed target source pool.count, routed.carried⟩
      · exact same
  | listen slot msec tcpAnswers answers =>
      simp only [step]
      split
      · next exist =>
          exact ⟨rides_listen routed exist spares, CTCPSSLServer.listen_carried routed.carried⟩
      · exact same
  | send slot pData uSize script =>
      simp only [step]
      split
      · exact routed.exchanges (CTCPSSLServer.send_calls ..)
      · exact same
  | receive slot pData uSize bReadFully script =>
      simp only [step]
      split
      · exact routed.exchanges (CTCPSSLServer.receive_calls ..)
      · exact same
  | disconnect slot =>
      simp only [step]
      split
      · next exist =>
          exact ⟨rides_disconnect routed exist respects, carried_disconnect routed slot⟩
      · exact same

theorem routed_timed (routed : Routed strict pool) (slot : Nat)
    {set : SSLSocket → Trace → Bool × Trace}
    (sets : ∀ socket trace, Extends (Call.Sets socket.sockFd) trace (set socket trace).2) :
    (∀ other, Rides strict (pool.timed slot set) ((pool.timed slot set).slots other)) ∧
      Each Call.Carried (pool.timed slot set).trace := by
  simp only [timed]
  split
  · have touches := sets (pool.slots slot).toSSLSocket pool.trace
    have off := touches.mono fun _ => Call.Sets.offOpenssl
    constructor
    · exact routed.of_calls (Trace.attached_of_layer off) fun fd =>
        Ledger.identity_of_touching fd (touches.mono fun _ => Call.Sets.touching)
    · exact off.each routed.carried fun _ earlier other _ => Call.carried_of_layer other earlier
  · exact ⟨routed.rides, routed.carried⟩

theorem routed_request (routed : Routed strict pool) {request : Request}
    (respects : request.Respects pool) (spares : strict → ¬ request.Strands pool) :
    Routed strict (ServerPool.request pool request) := by
  have attended := attended_request routed.attended respects nofun
  have objects := owns_objects_request routed.objects request
  have timeout (slot : Nat) (option : SockOption) (failure : String) (iErr : Int) :=
    routed_timed routed slot fun socket trace =>
      setTimeout_extends socket.sockFd pool.server.tcpServer.eSettingsFlags option failure iErr
        trace
  cases request with
  | op op => exact routed_op routed op respects spares
  | setSSLCerthAuth | setSSLCertFile | setSSLKeyFile =>
      exact ⟨attended, objects, routed.rides, routed.carried⟩
  | setRcvTimeout | setRcvTimeoutTimeval | setSndTimeout | setSndTimeoutTimeval =>
      exact ⟨attended, objects, (timeout _ _ _ _).1, (timeout _ _ _ _).2⟩

/-- The session that is left over runs on over the older connection. -/
theorem not_private_of_strands (routed : Routed strict pool) {request : Request}
    (strands : request.Strands pool) : ¬ Private (ServerPool.request pool request) := by
  cases request with
  | op op =>
      cases op with
      | listen slot msec tcpAnswers answers =>
          obtain ⟨exist, holds, stops⟩ := strands
          obtain ⟨pSSL, held⟩ := Option.ne_none_iff_exists'.mp holds
          have live := routed.objects.sessions.live slot pSSL held
          intro isPrivate
          have kept := (@CTCPSSLServer.listen_keeps_session _ (pool.slots slot).toSSLSocket _ _ _ _
            stops).trans held
          obtain ⟨identity, accepted, attached, -⟩ := isPrivate slot pSSL (by
            simpa only [ServerPool.request, step, if_pos exist, listened, Function.update_self]
              using kept)
          simp only [ServerPool.request, step, if_pos exist] at accepted attached
          have older := CTCPSSLClient.attached_lt
            ((CTCPSSLServer.listen_attached live).symm.trans attached)
          exact Nat.not_lt.mpr (listened_younger accepted) older
      | _ => exact strands.elim
  | _ => exact strands.elim

end Steps

theorem routed_init (strict : Prop) (strPort : String) (secure : ASecureSocket) :
    Routed strict (init (.new strPort secure)) where
  attended := attended_init strPort secure
  objects := owns_init _
  rides := fun _ => rides_vacant
  carried := trivial

/-- The data of the clients of a server stay apart exactly when no object that has a session is
listened into in vain. -/
theorem clients_private_iff (strPort : String) (secure : ASecureSocket) (requests : List Request)
    (respects : Runs.Steps request (fun pool request => request.Respects pool)
      (init (.new strPort secure)) requests) :
    Runs.Always request Private (init (.new strPort secure)) requests ↔
      Runs.Steps request (fun pool request => ¬ request.Strands pool)
        (init (.new strPort secure)) requests := by
  have keeps : ∀ pool (request : Request), Routed True pool → request.Respects pool →
      ¬ request.Strands pool → Routed True (ServerPool.request pool request) :=
    fun _ _ routed respects spares => routed_request routed respects fun _ => spares
  have breaks : ∀ pool (request : Request), Routed True pool → request.Respects pool →
      ¬ ¬ request.Strands pool → ¬ Private (ServerPool.request pool request) :=
    fun _ _ routed _ strands => not_private_of_strands routed (not_not.mp strands)
  exact Runs.always_iff_steps_of (fun _ routed => routed.isPrivate) keeps breaks
    (routed_init True strPort secure) respects

/-- A client is accepted, and the same object is listened into again while nobody comes. -/
def listenedInVain (between : List Request) : List Request :=
  let ready := CTCPServer.arriving { result := 1, ready := true }
  let late := CTCPServer.arriving { result := 0, ready := false }
  [.op .construct, .op (.listen 0 1000 ready (CTCPSSLServer.handshakeWith 1))] ++ between ++
    [.op (.listen 0 1000 late (CTCPSSLServer.handshakeWith 1))]

theorem clients_private_iff_in_vain :
    let start := init (.new "443" CTCPSSLServer.plainServer.toASecureSocket)
    ¬ Runs.Always request Private start (listenedInVain []) ∧
      Runs.Always request Private start (listenedInVain [.op (.disconnect 0)]) := by
  intro start
  have held : ((request (request start (.op .construct)) (.op (.listen 0 1000
      (CTCPServer.arriving { result := 1, ready := true })
      (CTCPSSLServer.handshakeWith 1)))).slots 0).accepted ≠ none := by
    decide
  constructor
  · intro always
    have respects : Runs.Steps request (fun pool request => request.Respects pool) start
        (listenedInVain []) := ⟨trivial, trivial, trivial, trivial⟩
    have steps := (clients_private_iff "443" CTCPSSLServer.plainServer.toASecureSocket _
      respects).mp always
    have listened : Nat.lt 0 1 := Nat.one_pos
    exact steps.2.2.1 ⟨listened, by decide, fun begins => absurd begins.1 (by decide)⟩
  · have respects : Runs.Steps request (fun pool request => request.Respects pool) start
        (listenedInVain [.op (.disconnect 0)]) := ⟨trivial, trivial, held, trivial, trivial⟩
    apply (clients_private_iff "443" CTCPSSLServer.plainServer.toASecureSocket _ respects).mpr
    exact ⟨id, fun strands => strands.2.1 rfl, id, fun strands => strands.2.1 rfl, trivial⟩

/-- Whatever is listened into in vain, nothing goes over a connection that has been closed, or
over a number that has been given to another one. -/
theorem traffic_carried (strPort : String) (secure : ASecureSocket) (requests : List Request)
    (respects : Runs.Steps request (fun pool request => request.Respects pool)
      (init (.new strPort secure)) requests) :
    Each Call.Carried (requests.foldl request (init (.new strPort secure))).trace := by
  have keeps : ∀ pool (request : Request), Routed False pool → request.Respects pool →
      Routed False (ServerPool.request pool request) :=
    fun _ _ routed respects => routed_request routed respects False.elim
  exact (Runs.always_of_invariant keeps (routed_init False strPort secure) respects).last.carried

/-- Two clients are accepted.  The object of the first one is listened into again while nobody
comes, and is written to before and after that; then the second client goes. -/
def trafficInVain : List Request :=
  let ready := CTCPServer.arriving { result := 1, ready := true }
  let late := CTCPServer.arriving { result := 0, ready := false }
  let shaken := CTCPSSLServer.handshakeWith 1
  let written : Request := .op (.send 0 (some fun _ => 0) 2 [{ result := 2, error := 0 }])
  [.op .construct, .op .construct, .op (.listen 0 1000 ready shaken),
    .op (.listen 1 1000 ready shaken), written, .op (.listen 0 1000 late shaken), written,
    .op (.receive 1 (some fun _ => 0) 4 false [.data [7]]), .op (.disconnect 1)]

theorem traffic_carried_in_vain :
    let start := init (.new "443" CTCPSSLServer.plainServer.toASecureSocket)
    let trace := (trafficInVain.foldl request start).trace
    trace.count (.sslWrite (some 2) 0 2 2) = 2 ∧ .sslRead (some 3) 0 4 1 ∈ trace ∧
      .close 5 ∈ trace ∧ Each Call.Carried trace := by
  intro start trace
  have holds : (((trafficInVain.take 8).foldl request start).slots 1).accepted ≠ none := by decide
  exact ⟨by decide, by decide, by decide,
    traffic_carried "443" CTCPSSLServer.plainServer.toASecureSocket trafficInVain
      ⟨trivial, trivial, trivial, trivial, trivial, trivial, trivial, trivial, holds, trivial⟩⟩

end ServerPool

end SocketCpp
