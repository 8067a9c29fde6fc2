import SocketCpp.Process.Clients
import SocketCpp.TCPSSLServer.Connections
import SocketCpp.TCPSSLServer.Objects

namespace SocketCpp

open Data

/-! The servers of a process use and close only what they have open, as long as the program
gives them back only the clients it has got from them. -/

variable {setters : Bool}

theorem Call.Awaits.uses {fd : Socket} {sockets : Finset Socket} {call : Call}
    (awaits : call.Awaits fd) (isOpen : fd ∈ sockets) :
    Ledger.Uses (Call.descriptorEvents setters) sockets call := by
  cases call with
  | listen pointer _ =>
      have same : pointer = fd := awaits
      simpa [Ledger.Uses, Call.descriptorEvents, Call.socketEvents, same] using isOpen
  | oLog _ | fdSet _ | select _ _ _ | fdIsset _ =>
      exact fun event member => absurd member List.not_mem_nil
  | _ => exact awaits.elim

namespace Trace

variable {trace : Trace} {fd client : Socket}

theorem proper_accept (proper : trace.Proper setters) (isOpen : fd ∈ trace.sockets)
    (fresh : client ∉ trace.sockets) (peer : SockAddrIn) :
    Proper setters (.accept fd client peer :: trace) := by
  by_cases valid : 0 ≤ client
  · simpa [Proper, Call.descriptorEvents, Call.socketEvents, valid] using ⟨fresh, isOpen, proper⟩
  · simpa [Proper, Call.descriptorEvents, Call.socketEvents, valid] using ⟨isOpen, proper⟩

theorem proper_oLog (proper : trace.Proper setters) (flags : SettingsFlag) (message : String) :
    (trace.oLog flags message).Proper setters :=
  proper_of_quiet proper ((oLog_calls ..).mono fun _ => Call.Logs.unhandled)

@[simp] theorem sockets_oLog (trace : Trace) (flags : SettingsFlag) (message : String) :
    (trace.oLog flags message).sockets = trace.sockets :=
  sockets_of_layer ((oLog_calls ..).mono fun _ => Call.Logs.offSockets)

theorem sockets_of_touching {before after : Trace}
    (touching : Extends (Ledger.Touching Call.socketEvents) before after) :
    after.sockets = before.sockets :=
  Ledger.held_of_touching touching

end Trace

namespace CTCPServer

/-- A server has its listening socket open, if there is one. -/
structure Attends (setters : Bool) (server : CTCPServer) (trace : Trace) : Prop where
  proper : trace.Proper setters
  listener : server.listenSocket ≠ invalidSocket → server.listenSocket ∈ trace.sockets

/-- What a `Listen` leaves: its listening socket is the one it had or a new one, and its
client is new as well. -/
structure Welcomes (setters : Bool) (server : CTCPServer) (trace : Trace) (result : Listened) :
    Prop where
  attends : result.self.Attends setters result.trace
  grows : trace.sockets ⊆ result.trace.sockets
  listener : result.self.listenSocket = server.listenSocket ∨
    result.self.listenSocket ∉ trace.sockets
  client : 0 ≤ result.clientSocket → result.clientSocket ≠ result.self.listenSocket

variable {server : CTCPServer} {trace : Trace}

theorem Attends.of_offSockets (attends : server.Attends setters trace) {after : Trace}
    (calls : Extends (fun call : Call => call.layer ≠ .sockets) trace after) :
    server.Attends setters after where
  proper := Trace.proper_of_quiet attends.proper (calls.mono fun _ => Call.descriptorEvents_of_layer)
  listener := fun present => by
    rw [Trace.sockets_of_layer calls]
    exact attends.listener present

theorem Attends.timeout (attends : server.Attends setters trace) {fd : Socket}
    (isOpen : setters = true → 0 ≤ fd → fd ∈ trace.sockets) {option : SockOption} {iErr : Int}
    (events : (Call.setsockopt fd option iErr).descriptorEvents setters =
      if setters = true ∧ 0 ≤ fd then [.touch fd] else [])
    (flags : SettingsFlag) (failure : String) :
    server.Attends setters (setTimeout fd flags option failure iErr trace).2 where
  proper := Trace.proper_setTimeout attends.proper isOpen events flags failure
  listener := fun present => by
    rw [Trace.sockets_of_touching ((setTimeout_extends ..).mono fun _ => Call.Sets.touching)]
    exact attends.listener present

/-- The second part of `Listen`, with the listening socket open. -/
theorem acceptClient_welcomes (proper : trace.Proper setters)
    (isOpen : server.listenSocket ∈ trace.sockets) (msec : Nat) (answers : ListenAnswers) :
    server.Welcomes setters trace (server.acceptClient msec answers trace) := by
  have self := (server.acceptClient_calls msec answers trace).1
  have exit := server.acceptClient_exit msec answers trace
  generalize server.acceptClient msec answers trace = result at self exit ⊢
  have waits {waited : Trace} (awaits : Extends (Call.Awaits server.listenSocket) trace waited) :
      waited.Proper setters ∧ waited.sockets = trace.sockets :=
    ⟨Trace.proper_of_uses proper (awaits.mono fun _ calls => calls.uses isOpen),
      Trace.sockets_of_touching (awaits.mono fun _ => Call.Awaits.touching)⟩
  cases exit with
  | turnedAway _ _ client calls =>
      obtain ⟨proper, sockets⟩ := waits calls
      refine ⟨⟨proper, fun _ => ?_⟩, ?_, .inl (by rw [self]), ?_⟩
      · rw [self, sockets]
        exact isOpen
      · rw [sockets]
      · rw [client]
        exact fun valid => absurd valid (by decide)
  | answered waited _ _ awaits client _ logs =>
      obtain ⟨proper, sockets⟩ := waits awaits
      have fresh := waited.newSocket_not_mem answers.accept
      rw [← client] at fresh
      have isOpen' : server.listenSocket ∈ waited.sockets := by rwa [sockets]
      have accepted := Trace.proper_accept proper isOpen' fresh answers.peer
      have listener : server.listenSocket ∈ Trace.sockets
          (.accept server.listenSocket result.clientSocket answers.peer :: waited) ∧
          waited.sockets ⊆ Trace.sockets
            (.accept server.listenSocket result.clientSocket answers.peer :: waited) := by
        by_cases valid : 0 ≤ result.clientSocket
        · rw [sockets_accept _ valid]
          exact ⟨Finset.mem_insert_of_mem isOpen', Finset.subset_insert _ _⟩
        · rw [sockets_accept_failed _ (Int.not_le.mp valid)]
          exact ⟨isOpen', Finset.Subset.refl _⟩
      have after := Trace.sockets_of_layer (logs.mono fun _ => Call.Logs.offSockets)
      refine ⟨⟨Trace.proper_of_quiet accepted (logs.mono fun _ => Call.Logs.unhandled),
        fun _ => ?_⟩, ?_, .inl (by rw [self]), fun valid same => ?_⟩
      · rw [self, after]
        exact listener.1
      · rw [after, ← sockets]
        exact listener.2
      · rw [same, self] at fresh
        exact fresh isOpen'

/-- The first part of `Listen`: the new socket is open, or closed again and forgotten. -/
theorem createListenSocket_opens (proper : trace.Proper setters) (server : CTCPServer)
    (answers : ListenAnswers) :
    (server.createListenSocket answers trace).self.Attends setters
        (server.createListenSocket answers trace).trace ∧
      trace.sockets ⊆ (server.createListenSocket answers trace).trace.sockets ∧
      (server.createListenSocket answers trace).self.listenSocket ∉ trace.sockets ∧
      ((server.createListenSocket answers trace).value = true →
        (server.createListenSocket answers trace).self.listenSocket ≠ invalidSocket) := by
  have fresh := trace.newSocket_not_mem answers.socket
  have missing : invalidSocket ∉ trace.sockets := trace.newSocket_not_mem none
  simp only [createListenSocket]
  generalize trace.newSocket answers.socket = fd at fresh ⊢
  have created := Trace.proper_socket proper afInet sockStream 0 fresh
  by_cases failed : fd < 0
  · rw [if_pos failed]
    refine ⟨⟨Trace.proper_oLog created _ _, fun present => absurd rfl present⟩, ?_, missing,
      fun value => absurd value Bool.false_ne_true⟩
    rw [Trace.sockets_oLog, Trace.sockets_socket_failed _ _ _ _ failed]
  · have sockets := Trace.sockets_socket trace afInet sockStream 0 (Int.not_lt.mp failed)
    have isOpen : fd ∈ Trace.sockets (.socket afInet sockStream 0 fd :: trace) := by
      rw [sockets]
      exact Finset.mem_insert_self _ _
    have grows : trace.sockets ⊆ Trace.sockets (.socket afInet sockStream 0 fd :: trace) := by
      rw [sockets]
      exact Finset.subset_insert _ _
    have present : fd ≠ invalidSocket := by
      rintro rfl
      exact failed (by decide)
    have allowed : Trace.Proper setters (.setsockopt fd (.reuseAddr 1) answers.reuseAddr ::
        .socket afInet sockStream 0 fd :: trace) := Trace.proper_touch created rfl isOpen
    have bound : Trace.Proper setters (.bind fd server.servAddr answers.bind ::
        .setsockopt fd (.reuseAddr 1) answers.reuseAddr ::
        .socket afInet sockStream 0 fd :: trace) := Trace.proper_touch allowed rfl isOpen
    rw [if_neg failed]
    split_ifs
    · refine ⟨⟨Trace.proper_close (Trace.proper_oLog allowed _ _) fun _ => ?_,
        fun present => absurd rfl present⟩, ?_, missing, False.elim⟩
      · rw [Trace.sockets_oLog]
        exact isOpen
      · rw [Trace.sockets_close, Trace.sockets_oLog]
        change trace.sockets ⊆ Finset.erase (Trace.sockets (.socket afInet sockStream 0 fd :: trace)) fd
        rw [sockets, Finset.erase_insert fresh]
    · refine ⟨⟨Trace.proper_oLog bound _ _, fun _ => ?_⟩, ?_, fresh, False.elim⟩
      · rw [Trace.sockets_oLog]
        exact isOpen
      · rw [Trace.sockets_oLog]
        exact grows
    · exact ⟨⟨bound, fun _ => isOpen⟩, grows, fresh, fun _ => present⟩

theorem listen_welcomes (attends : server.Attends setters trace) (msec : Nat)
    (answers : ListenAnswers) :
    server.Welcomes setters trace (server.listen msec answers trace) := by
  simp only [listen]
  by_cases missing : server.listenSocket = invalidSocket
  · rw [if_pos missing]
    obtain ⟨created, grows, fresh, present⟩ :=
      createListenSocket_opens attends.proper server answers
    generalize server.createListenSocket answers trace = result at created grows fresh present ⊢
    cases value : result.value with
    | false =>
        rw [if_neg Bool.false_ne_true]
        have negative : ¬ 0 ≤ invalidSocket := by decide
        exact ⟨created, grows, .inr fresh, fun valid => absurd valid negative⟩
    | true =>
        rw [if_pos rfl]
        have accepts := acceptClient_welcomes created.proper (created.listener (present value))
          msec answers
        have self := (result.self.acceptClient_calls msec answers result.trace).1
        refine ⟨accepts.attends, grows.trans accepts.grows, .inr ?_, accepts.client⟩
        rw [self]
        exact fresh
  · rw [if_neg missing]
    exact acceptClient_welcomes attends.proper (attends.listener missing) msec answers

/-- A client is used and disconnected only while it is open, and the listening socket is none. -/
def Request.Respects (state : State CTCPServer) : Request → Prop
  | .receive clientSocket .. | .send clientSocket .. | .disconnect clientSocket =>
      0 ≤ clientSocket →
        clientSocket ∈ state.trace.sockets ∧ clientSocket ≠ state.self.listenSocket
  | _ => True

theorem attends_transfers (attends : server.Attends setters trace) {clientSocket : Socket}
    (respects : 0 ≤ clientSocket → clientSocket ∈ trace.sockets) {after : Trace}
    (negative : clientSocket < 0 → after = trace)
    (transfers : Extends (Call.Transfers clientSocket) trace after) :
    server.Attends setters after := by
  by_cases valid : 0 ≤ clientSocket
  · refine ⟨Trace.proper_of_uses attends.proper
      (transfers.mono fun _ calls => calls.uses (respects valid)), fun present => ?_⟩
    rw [Trace.sockets_of_touching (transfers.mono fun _ => Call.Transfers.touching)]
    exact attends.listener present
  · rw [negative (Int.not_le.mp valid)]
    exact attends

theorem send_calls (server : CTCPServer) (clientSocket : Socket) (pData : Option (Buffer UInt8))
    (uSize : Nat) (script : List SendAnswer) (trace : Trace) :
    Extends (Call.Transfers clientSocket) trace
      (sentTrace (server.send clientSocket pData uSize script trace)) := by
  have runs := CallLoop.run_extends SendState.trace (fun result : Sent => result.trace)
    (fun state answer => sendTurn_extends server.eSettingsFlags uSize clientSocket
      "[TCPServer][Error] Socket error in call to send." state answer) (.start trace) script
  simp only [send, sendEntry]
  split
  · exact Extends.refl _ trace
  · exact runs

theorem receive_calls (server : CTCPServer) (clientSocket : Socket)
    (pData : Option (Buffer UInt8)) (uSize : Nat) (bReadFully : Bool) (script : List RecvAnswer)
    (trace : Trace) :
    Extends (Call.Transfers clientSocket) trace
      (receivedTrace (server.receive clientSocket pData uSize bReadFully script trace)) := by
  have runs := CallLoop.run_extends ReceiveState.trace (fun result : Received => result.trace)
    (fun state answer => recvTurn_extends uSize clientSocket bReadFully state answer)
    (.start pData trace) script
  simp only [receive, receiveEntry]
  split
  · exact Extends.refl _ trace
  · exact runs

theorem receive_negative {clientSocket : Socket} (negative : clientSocket < 0)
    (server : CTCPServer) (pData : Option (Buffer UInt8)) (uSize : Nat) (bReadFully : Bool)
    (script : List RecvAnswer) (trace : Trace) :
    receivedTrace (server.receive clientSocket pData uSize bReadFully script trace) = trace := by
  simp only [receive, receiveEntry, if_pos (Or.inl negative)]
  rfl

theorem send_negative {clientSocket : Socket} (negative : clientSocket < 0)
    (server : CTCPServer) (pData : Option (Buffer UInt8)) (uSize : Nat)
    (script : List SendAnswer) (trace : Trace) :
    sentTrace (server.send clientSocket pData uSize script trace) = trace := by
  simp only [send, sendEntry, if_pos (Or.inl negative)]
  rfl

/-- A timeout is set for something that is open, or for no number. -/
def Request.SetsOpen (state : State CTCPServer) : Request → Prop
  | .setRcvTimeout clientSocket .. | .setRcvTimeoutTimeval clientSocket ..
  | .setSndTimeout clientSocket .. | .setSndTimeoutTimeval clientSocket .. =>
      0 ≤ clientSocket → clientSocket ∈ state.trace.sockets
  | _ => True

theorem attends_serve {state : State CTCPServer} (attends : state.self.Attends setters state.trace)
    {request : Request} (respects : request.Respects state)
    (sets : setters = true → request.SetsOpen state) :
    (serve state request).self.Attends setters (serve state request).trace := by
  cases request with
  | listen msec answers => exact (listen_welcomes attends msec answers).attends
  | receive clientSocket pData uSize bReadFully script =>
      exact attends_transfers attends (fun valid => (respects valid).1)
        (fun negative => receive_negative negative ..) (receive_calls ..)
  | send clientSocket pData uSize script =>
      exact attends_transfers attends (fun valid => (respects valid).1)
        (fun negative => send_negative negative ..) (send_calls ..)
  | disconnect clientSocket =>
      refine ⟨Trace.proper_close attends.proper fun valid => (respects valid).1, fun present => ?_⟩
      have isOpen := attends.listener present
      rw [serve, disconnect, Trace.sockets_close]
      exact Finset.mem_erase.mpr
        ⟨fun same => (respects (same ▸ Trace.sockets_nonneg isOpen)).2 same.symm, isOpen⟩
  | setRcvTimeout clientSocket msecTimeout iErr => exact attends.timeout sets rfl _ _
  | setRcvTimeoutTimeval clientSocket value iErr => exact attends.timeout sets rfl _ _
  | setSndTimeout clientSocket msecTimeout iErr => exact attends.timeout sets rfl _ _
  | setSndTimeoutTimeval clientSocket value iErr => exact attends.timeout sets rfl _ _

/-- A plain server has nothing to do with OpenSSL. -/
theorem serve_offOpenssl (state : State CTCPServer) (request : Request) :
    Extends (fun call : Call => call.layer ≠ .openssl) state.trace (serve state request).trace := by
  have timeout (clientSocket : Socket) (option : SockOption) (failure : String) (iErr : Int) :=
    (setTimeout_extends clientSocket state.self.eSettingsFlags option failure iErr
      state.trace).mono fun _ => Call.Sets.offOpenssl
  cases request with
  | listen msec answers => exact state.self.listen_offOpenssl msec answers state.trace
  | receive clientSocket pData uSize bReadFully script =>
      exact (receive_calls ..).mono fun _ => Call.Transfers.offOpenssl
  | send clientSocket pData uSize script =>
      exact (send_calls ..).mono fun _ => Call.Transfers.offOpenssl
  | disconnect clientSocket => exact Extends.cons_iff.mpr (by simp [Call.layer])
  | setRcvTimeout clientSocket msecTimeout iErr => exact timeout clientSocket _ _ iErr
  | setRcvTimeoutTimeval clientSocket value iErr => exact timeout clientSocket _ _ iErr
  | setSndTimeout clientSocket msecTimeout iErr => exact timeout clientSocket _ _ iErr
  | setSndTimeoutTimeval clientSocket value iErr => exact timeout clientSocket _ _ iErr

theorem attends_init (strPort : String) (eSettings : SettingsFlag) :
    (new strPort eSettings).Attends setters [] :=
  ⟨trivial, fun present => absurd rfl present⟩

theorem proper_destroy (attends : server.Attends setters trace) :
    (server.destroy trace).trace.Proper setters :=
  Trace.proper_close attends.proper fun valid => attends.listener fun missing => by
    rw [missing] at valid
    exact absurd valid (by decide)

end CTCPServer

/-- `Listen` changes nothing of its server but the listening socket. -/
theorem CTCPSSLServer.listen_self (server : CTCPSSLServer) (clientSocket : SSLSocket) (msec : Nat)
    (tcpAnswers : ListenAnswers) (answers : AcceptAnswers) (trace : Trace) :
    (server.listen clientSocket msec tcpAnswers answers trace).self =
      { server with tcpServer := (server.tcpServer.listen msec tcpAnswers trace).self } := by
  simp only [listen]
  split
  · simp only [acceptSecurely, acceptSession]
    split
    · rfl
    · split
      · split
        · rfl
        · rfl
      · rfl
  · rfl

/-- A descriptor that an object holds is not the listening socket. -/
def Slot.NotListening (listenSocket : Socket) (slot : Slot) : Prop :=
  slot.accepted ≠ none → slot.sockFd ≠ listenSocket

namespace ServerPool

/-- The objects of a pool hold open connections, and none of them is the listening socket. -/
structure Attended (setters : Bool) (pool : ServerPool) : Prop where
  attends : pool.server.tcpServer.Attends setters pool.trace
  owns : OwnsConnections pool
  apart : ∀ slot, (pool.slots slot).NotListening pool.server.tcpServer.listenSocket

/-- Only an object that holds a connection is disconnected. -/
def Request.Respects (pool : ServerPool) : Request → Prop
  | .op (.disconnect slot) => (pool.slots slot).accepted ≠ none
  | _ => True

theorem Attended.move {pool : ServerPool} (attended : Attended setters pool)
    (target source count : Nat) :
    Attended setters { pool with slots := Pool.move pool.slots target source .empty, count } where
  attends := attended.attends
  owns := attended.owns.move target source count
  apart := Pool.forall_move attended.apart target source fun holds => absurd rfl holds

theorem Attended.configure {pool : ServerPool} (attended : Attended setters pool)
    (secure : ASecureSocket) : Attended setters (pool.configure secure) :=
  ⟨attended.attends, ⟨attended.owns.own, attended.owns.connections⟩, attended.apart⟩

theorem attended_listen {pool : ServerPool} (attended : Attended setters pool) (slot msec : Nat)
    (tcpAnswers : ListenAnswers) (answers : AcceptAnswers) :
    Attended setters (pool.listened slot (pool.server.listen (pool.slots slot).toSSLSocket msec
      tcpAnswers answers pool.trace)) := by
  have owns := (owns_listen_connection attended.owns slot msec tcpAnswers answers).2
  have off := (pool.server.listen_exit (pool.slots slot).toSSLSocket msec tcpAnswers answers
    pool.trace).offSockets
  have sockFd := pool.server.listen_sockFd (pool.slots slot).toSSLSocket msec tcpAnswers answers
    pool.trace
  have self := pool.server.listen_self (pool.slots slot).toSSLSocket msec tcpAnswers answers
    pool.trace
  have welcomes := CTCPServer.listen_welcomes attended.attends msec tcpAnswers
  generalize pool.server.listen (pool.slots slot).toSSLSocket msec tcpAnswers answers pool.trace =
    result at owns off sockFd self ⊢
  have listener : result.self.tcpServer.listenSocket =
      (pool.server.tcpServer.listen msec tcpAnswers pool.trace).self.listenSocket := by
    rw [self]
  generalize pool.server.tcpServer.listen msec tcpAnswers pool.trace = tcp
    at off sockFd self welcomes listener
  refine ⟨?_, owns, Pool.forall_update (fun other holds => ?_) slot fun holds => ?_⟩
  · simp only [listened, self]
    exact welcomes.attends.of_offSockets off
  · simp only [listened, listener]
    rcases welcomes.listener with same | new
    · rw [same]
      exact attended.apart other holds
    · obtain ⟨identity, found⟩ := Option.ne_none_iff_exists'.mp holds
      have isOpen := Trace.mem_sockets_of_connection (attended.owns.own other identity found)
      exact fun same => new (same ▸ isOpen)
  · simp only [listened, listener, sockFd]
    obtain ⟨identity, found⟩ := Option.ne_none_iff_exists'.mp holds
    rw [sockFd] at found
    exact welcomes.client (Trace.sockets_nonneg (Trace.mem_sockets_of_connection found))

theorem attended_disconnect {pool : ServerPool} (attended : Attended setters pool) {slot : Nat}
    (holds : (pool.slots slot).accepted ≠ none) (exist : slot < pool.count) :
    Attended setters (pool.disconnected slot
      (pool.server.disconnect (pool.slots slot).toSSLSocket pool.trace)) := by
  have current : ¬ (Op.disconnect slot).Stale pool := fun stale => holds stale.2.1
  have owns := owns_step_connection attended.owns (.disconnect slot) current
  simp only [step, if_pos exist] at owns
  obtain ⟨identity, found⟩ := Option.ne_none_iff_exists'.mp holds
  have isOpen := Trace.mem_sockets_of_connection (attended.owns.own slot identity found)
  have off := shutdownSSL_offSockets (pool.slots slot).toSSLSocket pool.trace
  have shut := attended.attends.of_offSockets off
  have kept := shutdownSSL_sockFd (pool.slots slot).toSSLSocket pool.trace
  refine ⟨⟨?_, fun present => ?_⟩, owns, Pool.forall_update attended.apart slot fun vacant =>
    absurd rfl vacant⟩
  · simp only [disconnected, CTCPSSLServer.disconnect, CTCPServer.disconnect, kept]
    refine Trace.proper_close shut.proper fun _ => ?_
    rw [Trace.sockets_of_layer off]
    exact isOpen
  · simp only [disconnected, CTCPSSLServer.disconnect, CTCPServer.disconnect, kept,
      Trace.sockets_close]
    exact Finset.mem_erase.mpr ⟨(attended.apart slot holds).symm, shut.listener present⟩

theorem attended_op {pool : ServerPool} (attended : Attended setters pool) (op : Op)
    (respects : Request.Respects pool (.op op)) : Attended setters (step pool op) := by
  apply step_rule op attended
  · exact ⟨attended.attends, attended.owns.construct,
      Pool.forall_update attended.apart pool.count fun vacant => absurd rfl vacant⟩
  · exact attended.move
  · exact attended_listen attended
  · intro slot trace exchanges
    exact ⟨attended.attends.of_offSockets (exchanges.mono fun _ => Call.Exchanges.layer_ne),
      attended.owns.of_exchanges exchanges, attended.apart⟩
  · rintro slot rfl exist
    exact attended_disconnect attended respects exist

/-- A timeout is set through an object that holds a connection, or no number. -/
def Request.SetsOpen (pool : ServerPool) : Request → Prop
  | .setRcvTimeout slot .. | .setRcvTimeoutTimeval slot .. | .setSndTimeout slot ..
  | .setSndTimeoutTimeval slot .. =>
      0 ≤ (pool.slots slot).sockFd → (pool.slots slot).accepted ≠ none
  | _ => True

theorem attended_timeout {pool : ServerPool} (attended : Attended setters pool) {slot : Nat}
    (holds : setters = true → 0 ≤ (pool.slots slot).sockFd → (pool.slots slot).accepted ≠ none)
    {option : SockOption} {iErr : Int}
    (events : ∀ fd, (Call.setsockopt fd option iErr).descriptorEvents setters =
      if setters = true ∧ 0 ≤ fd then [.touch fd] else []) (failure : String) :
    Attended setters (pool.timed slot fun socket => setTimeout socket.sockFd
      pool.server.tcpServer.eSettingsFlags option failure iErr) := by
  simp only [timed]
  split
  · have isOpen (counts : setters = true) (valid : 0 ≤ (pool.slots slot).sockFd) :
        (pool.slots slot).sockFd ∈ pool.trace.sockets := by
      obtain ⟨identity, found⟩ := Option.ne_none_iff_exists'.mp (holds counts valid)
      exact Trace.mem_sockets_of_connection (attended.owns.own slot identity found)
    exact ⟨attended.attends.timeout isOpen (events _) _ _,
      attended.owns.of_touching ((setTimeout_extends ..).mono fun _ => Call.Sets.touching),
      attended.apart⟩
  · exact attended

theorem attended_request {pool : ServerPool} (attended : Attended setters pool) {request : Request}
    (respects : request.Respects pool) (sets : setters = true → request.SetsOpen pool) :
    Attended setters (ServerPool.request pool request) := by
  cases request with
  | op op => exact attended_op attended op respects
  | setSSLCerthAuth strPath => exact attended.configure _
  | setSSLCertFile strPath => exact attended.configure _
  | setSSLKeyFile strPath => exact attended.configure _
  | setRcvTimeout slot msecTimeout iErr => exact attended_timeout attended sets (fun _ => rfl) _
  | setRcvTimeoutTimeval slot value iErr => exact attended_timeout attended sets (fun _ => rfl) _
  | setSndTimeout slot msecTimeout iErr => exact attended_timeout attended sets (fun _ => rfl) _
  | setSndTimeoutTimeval slot value iErr => exact attended_timeout attended sets (fun _ => rfl) _

theorem owns_objects_request {pool : ServerPool} (owns : OwnsObjects pool) (request : Request) :
    OwnsObjects (ServerPool.request pool request) := by
  have setters (slot : Nat) (option : SockOption) (failure : String) (iErr : Int) :
      OwnsObjects (pool.timed slot fun socket => setTimeout socket.sockFd
        pool.server.tcpServer.eSettingsFlags option failure iErr) := by
    simp only [ServerPool.timed]
    split
    · exact owns.of_offOpenssl ((setTimeout_extends ..).mono fun _ => Call.Sets.offOpenssl)
    · exact owns
  cases request with
  | op op => exact owns_step owns op
  | setSSLCerthAuth strPath => exact ⟨owns.sound, owns.sessions, owns.contexts⟩
  | setSSLCertFile strPath => exact ⟨owns.sound, owns.sessions, owns.contexts⟩
  | setSSLKeyFile strPath => exact ⟨owns.sound, owns.sessions, owns.contexts⟩
  | setRcvTimeout slot msecTimeout iErr => exact setters slot _ _ iErr
  | setRcvTimeoutTimeval slot value iErr => exact setters slot _ _ iErr
  | setSndTimeout slot msecTimeout iErr => exact setters slot _ _ iErr
  | setSndTimeoutTimeval slot value iErr => exact setters slot _ _ iErr

theorem attended_init (strPort : String) (secure : ASecureSocket) :
    Attended setters (init (.new strPort secure)) where
  attends := CTCPServer.attends_init strPort secure.eSettingsFlags
  owns := owns_connections_init _
  apart := fun _ vacant => absurd rfl vacant

end ServerPool

end SocketCpp
