import SocketCpp.TCPSSLClient.Closing
import SocketCpp.TCPSSLServer.Losses
import SocketCpp.TCPSSLServer.Routing

namespace SocketCpp

open Data

/-! In which order a `CTCPSSLServer` closes the sessions and the connections of its clients.

A `Disconnect` does not look at the status of its object: it shuts the session down and then
closes the descriptor, and `Listen` closes nothing that has a session on it. -/

namespace Trace

variable {before after : Trace}

/-- A connection that is there now was there before, or is younger. -/
theorem connection_cases {kind : Call → Prop} (extended : Extends kind before after) {fd : Socket}
    {identity : Nat} (found : after.connection fd = some identity) :
    before.socketClock ≤ identity ∨ before.connection fd = some identity := by
  obtain ⟨added, rfl, -⟩ := extended
  rw [connection, Ledger.entries_append] at found
  exact Ledger.identity_append_cases found

/-- What a new descriptor stands for has no sessions as long as there are no handshakes. -/
theorem unclosed_of_fresh {fd : Socket} {identity : Nat} (fresh : fd ∉ before.sockets)
    (unsettled : Extends (fun call : Call => call.settles = false) before after)
    (found : after.connection fd = some identity) : unclosed identity after = ∅ := by
  rw [unclosed_of_unsettled unsettled]
  rcases connection_cases unsettled found with younger | older
  · exact unclosed_of_le younger
  · exact absurd (mem_sockets_of_connection older) fresh

section Handshake

variable {loaded : Trace} {method : SSLMethod} {ctx pSSL : Nat} {fd : Socket} {result : Int}

/-- From the creation of a context to the end of a handshake the other sessions stay. -/
theorem accepted_named
    (files : Extends (Call.LoadsInto (some ctx)) (.sslCtxNew method (some ctx) :: before) loaded)
    (calls : Extends (Call.Reports (some pSSL))
      (.sslAccept (some pSSL) result :: .sslSetFd (some pSSL) fd ::
        .sslNew (some ctx) pSSL :: loaded) after) {ssl : Nat} (other : pSSL ≠ ssl) :
    named (some ssl) after = named (some ssl) before := by
  have created : named (some ssl) (.sslAccept (some pSSL) result :: .sslSetFd (some pSSL) fd ::
      .sslNew (some ctx) pSSL :: loaded) = named (some ssl) loaded := by
    simp [named, Call.sessionEvents, touchIfAny, Ledger.identity, other]
  rw [named_of_passive (calls.mono fun _ => Call.Reports.passive), created,
    named_of_passive (files.mono fun _ => Call.LoadsInto.passive)]
  rfl

/-- A completed handshake leaves its session on the connection that it was put on, and nothing
anywhere else. -/
theorem accepted_unclosed
    (files : Extends (Call.LoadsInto (some ctx)) (.sslCtxNew method (some ctx) :: before) loaded)
    (calls : Extends (Call.Reports (some pSSL))
      (.sslAccept (some pSSL) result :: .sslSetFd (some pSSL) fd ::
        .sslNew (some ctx) pSSL :: loaded) after) (identity : Nat) :
    unclosed identity after =
      if 0 < result ∧ before.connection fd = some identity then
        unclosed identity before ∪ named (some pSSL) after
      else unclosed identity before := by
  obtain ⟨-, -, -, connections⟩ := loaded_views files
  have onConnection : attached pSSL (.sslSetFd (some pSSL) fd :: .sslNew (some ctx) pSSL ::
      loaded) = before.connection fd := by
    rw [← connections fd]
    simp [attached, connection, Call.socketEvents]
  have earlier : unclosed identity loaded = unclosed identity before :=
    unclosed_of_unsettled (files.mono fun _ => Call.LoadsInto.unsettled) identity
  rw [unclosed_of_unsettled (calls.mono fun _ => Call.Reports.unsettled),
    named_of_passive (calls.mono fun _ => Call.Reports.passive), ← earlier]
  simp only [unclosed, Option.bind_some, onConnection]
  rfl

end Handshake

theorem named_of_offOpenssl
    (extended : Extends (fun call : Call => call.layer ≠ .openssl) before after)
    (pointer : Option Nat) : named pointer after = named pointer before := by
  simp only [named, sessionEntries_of_layer extended]

end Trace

theorem shutdownSSL_unclosed_subset (socket : SSLSocket) (trace : Trace) (identity : Nat) :
    Trace.unclosed identity (shutdownSSL socket trace).trace ⊆ Trace.unclosed identity trace := by
  unfold shutdownSSL
  split
  · exact Finset.Subset.refl _
  · exact Finset.sdiff_subset

/-- The other sessions stay. -/
theorem shutdownSSL_named {socket : SSLSocket} {pointer : Option Nat}
    (other : ∀ ssl, pointer = some ssl → socket.pSSL ≠ some ssl) (trace : Trace) :
    Trace.named pointer (shutdownSSL socket trace).trace = Trace.named pointer trace := by
  unfold shutdownSSL
  split
  · rfl
  · next pSSL holds =>
      cases pointer with
      | none => rfl
      | some ssl =>
          have different : pSSL ≠ ssl := fun same => other ssl rfl (same ▸ holds)
          simp [Trace.named, Call.sessionEvents, touchIfAny, releaseIfAny, Ledger.identity,
            different]

namespace CTCPServer

variable {server : CTCPServer} {trace : Trace}

/-- The descriptor that is closed again when `setsockopt` fails is a new one. -/
theorem createListenSocket_closesInOrder (calls : Each Call.ClosesInOrder trace)
    (answers : ListenAnswers) :
    Each Call.ClosesInOrder (server.createListenSocket answers trace).trace := by
  have fresh := trace.newSocket_not_mem answers.socket
  have logs {earlier : Trace} (calls : Each Call.ClosesInOrder earlier) (message : String) :
      Each Call.ClosesInOrder (earlier.oLog server.eSettingsFlags message) :=
    Trace.closesInOrder_of_offSockets calls
      ((Trace.oLog_calls ..).mono fun _ => Call.Logs.offSockets)
  simp only [createListenSocket]
  generalize trace.newSocket answers.socket = fd at fresh ⊢
  have opened : Each Call.ClosesInOrder (.setsockopt fd (.reuseAddr 1) answers.reuseAddr ::
      .socket afInet sockStream 0 fd :: trace) := ⟨trivial, trivial, calls⟩
  split_ifs
  · exact logs opened.2 _
  · refine ⟨fun identity found => ?_, logs opened _⟩
    have created := (Extends.refl (fun call : Call => call.settles = false) trace).cons
      (.socket afInet sockStream 0 fd) rfl
    have allowed := created.cons (.setsockopt fd (.reuseAddr 1) answers.reuseAddr) rfl
    exact Trace.unclosed_of_fresh fresh (allowed.trans ((Trace.oLog_calls ..).mono
      fun _ logs => Call.unsettled_of_layer logs.offOpenssl)) found
  · exact logs (show Each Call.ClosesInOrder (.bind fd server.servAddr answers.bind :: _) from
      ⟨trivial, opened⟩) _
  · exact ⟨trivial, opened⟩

theorem listen_closesInOrder (calls : Each Call.ClosesInOrder trace) (msec : Nat)
    (answers : ListenAnswers) :
    Each Call.ClosesInOrder (server.listen msec answers trace).trace := by
  have accepts (server : CTCPServer) {earlier : Trace} (calls : Each Call.ClosesInOrder earlier) :
      Each Call.ClosesInOrder (server.acceptClient msec answers earlier).trace := by
    apply (server.acceptClient_accepts msec answers earlier).each calls
    intro call _ accepts _
    cases call <;> first | exact accepts.elim | trivial
  simp only [listen]
  split
  · split
    · exact accepts _ (createListenSocket_closesInOrder calls answers)
    · exact createListenSocket_closesInOrder calls answers
  · exact accepts server calls

end CTCPServer

namespace CTCPSSLServer

variable {server : CTCPSSLServer} {clientSocket : SSLSocket} {msec : Nat}
  {tcpAnswers : ListenAnswers} {answers : AcceptAnswers} {trace : Trace}

theorem listen_closesInOrder (calls : Each Call.ClosesInOrder trace) :
    Each Call.ClosesInOrder
      (server.listen clientSocket msec tcpAnswers answers trace).trace :=
  Trace.closesInOrder_of_offSockets (CTCPServer.listen_closesInOrder calls msec tcpAnswers)
    (server.listen_exit clientSocket msec tcpAnswers answers trace).offSockets

/-- A session that is there stays. -/
theorem listen_named {ssl : Nat} (live : ssl ∈ trace.sessions) :
    Trace.named (some ssl) (server.listen clientSocket msec tcpAnswers answers trace).trace =
      Trace.named (some ssl) trace := by
  have off := server.tcpServer.listen_offOpenssl msec tcpAnswers trace
  have exit := server.listen_exit clientSocket msec tcpAnswers answers trace
  rw [← Trace.sessions_of_layer off] at live
  rw [← Trace.named_of_offOpenssl off]
  generalize server.tcpServer.listen msec tcpAnswers trace = tcp at exit live ⊢
  cases exit with
  | notAccepted _ _ _ calls =>
      exact Trace.named_of_offOpenssl (calls.mono fun _ => Call.Logs.offOpenssl) _
  | noContext _ _ _ _ calls =>
      exact Trace.named_of_offOpenssl (calls.mono fun _ => Call.Logs.offOpenssl) _
  | notLoaded ctx _ _ _ _ _ calls =>
      exact Trace.named_of_passive (calls.mono fun _ => Call.LoadsInto.passive) _
  | refused ctx pSSL loaded shaken _ _ freshSession _ _ _ files calls ended =>
      rw [(Trace.loaded_views files).2.1] at freshSession
      have other : pSSL ≠ ssl := fun same => freshSession (same ▸ live)
      rw [ended, ← Trace.accepted_named files calls other]
      simp [Trace.named, Call.sessionEvents, touchIfAny, releaseIfAny, Ledger.identity, other]
  | secured ctx pSSL loaded _ _ freshSession _ _ _ files ended =>
      rw [(Trace.loaded_views files).2.1] at freshSession
      have other : pSSL ≠ ssl := fun same => freshSession (same ▸ live)
      rw [ended]
      exact Trace.accepted_named files (Extends.refl _ _) other

/-- A `Listen` adds no session but the one of its client, on the connection of its client. -/
theorem Exit.unclosed {tcp : Listened} {result : SSLListened}
    (exit : server.Exit clientSocket answers tcp result) (identity : Nat) :
    Trace.unclosed identity result.trace ⊆ Trace.unclosed identity tcp.trace ∪
      if tcp.trace.connection tcp.clientSocket = some identity then
        Trace.named result.clientSocket.pSSL result.trace else ∅ := by
  have same (unclosed : Trace.unclosed identity result.trace = Trace.unclosed identity tcp.trace) :
      Trace.unclosed identity result.trace ⊆ Trace.unclosed identity tcp.trace ∪
        if tcp.trace.connection tcp.clientSocket = some identity then
          Trace.named result.clientSocket.pSSL result.trace else ∅ := by
    rw [unclosed]
    exact Finset.subset_union_left
  have logs {before after : Trace} (logs : Extends Call.Logs before after) :=
    Trace.unclosed_of_unsettled
      (logs.mono fun _ logs => Call.unsettled_of_layer logs.offOpenssl) identity
  cases exit with
  | notAccepted _ _ _ calls => exact same (logs calls)
  | noContext _ _ _ _ calls =>
      have created := logs calls
      exact same created
  | notLoaded ctx _ _ _ _ _ calls =>
      exact same (Trace.unclosed_of_unsettled
        (calls.mono fun _ => Call.LoadsInto.unsettled) identity)
  | refused ctx pSSL loaded shaken _ _ _ refusal _ _ files calls ended =>
      have unclosed := Trace.accepted_unclosed files calls identity
      rw [if_neg fun completed => Int.not_lt.mpr refusal completed.1] at unclosed
      rw [ended, ← unclosed]
      exact Finset.sdiff_subset.trans Finset.subset_union_left
  | secured ctx pSSL loaded _ _ _ completes _ socket files ended =>
      have calls := Extends.refl (Call.Reports (some pSSL)) result.trace
      nth_rewrite 1 [ended] at calls
      rw [Trace.accepted_unclosed files calls identity, socket]
      by_cases own : tcp.trace.connection tcp.clientSocket = some identity
      · rw [if_pos ⟨completes.2.2, own⟩, if_pos own]
      · rw [if_neg fun completed => own completed.2, if_neg own, Finset.union_empty]

end CTCPSSLServer

/-- The sessions of the connection that an object was accepted for are its own. -/
def Slot.OwnSessions (trace : Trace) (slot : Slot) : Prop :=
  ∀ identity, slot.accepted = some identity →
    Trace.unclosed identity trace ⊆ Trace.named slot.pSSL trace

namespace ServerPool

/-- No descriptor has been closed before the sessions of its connection, and none will be. -/
structure Orderly (pool : ServerPool) : Prop where
  calls : Each Call.ClosesInOrder pool.trace
  own : ∀ slot, (pool.slots slot).OwnSessions pool.trace
  listener : ∀ identity,
    pool.trace.connection pool.server.tcpServer.listenSocket = some identity →
      Trace.unclosed identity pool.trace = ∅

section Steps

variable {pool : ServerPool}

theorem ownSessions_empty (trace : Trace) : Slot.OwnSessions trace .empty :=
  fun _ holds => (by cases holds)

section Listens

variable {slot msec : Nat} {tcpAnswers : ListenAnswers} {answers : AcceptAnswers} {identity : Nat}

/-- A `Listen` leaves the connections without new sessions that its object was not accepted
for. -/
theorem unclosed_elsewhere (elsewhere : ((pool.listened slot (pool.server.listen
      (pool.slots slot).toSSLSocket msec tcpAnswers answers pool.trace)).slots slot).accepted ≠
        some identity) :
    Trace.unclosed identity (pool.server.listen (pool.slots slot).toSSLSocket msec tcpAnswers
      answers pool.trace).trace ⊆ Trace.unclosed identity pool.trace := by
  have off := pool.server.tcpServer.listen_offOpenssl msec tcpAnswers pool.trace
  have unclosed := (pool.server.listen_exit (pool.slots slot).toSSLSocket msec tcpAnswers answers
    pool.trace).unclosed identity
  rw [listened_accepted] at elsewhere
  rwa [if_neg elsewhere, Finset.union_empty,
    Trace.unclosed_of_unsettled (off.mono fun _ => Call.unsettled_of_layer)] at unclosed

theorem unclosed_own (accepted : ((pool.listened slot (pool.server.listen
      (pool.slots slot).toSSLSocket msec tcpAnswers answers pool.trace)).slots slot).accepted =
        some identity) :
    Trace.unclosed identity (pool.server.listen (pool.slots slot).toSSLSocket msec tcpAnswers
        answers pool.trace).trace ⊆
      Trace.named (pool.server.listen (pool.slots slot).toSSLSocket msec tcpAnswers answers
        pool.trace).clientSocket.pSSL (pool.server.listen (pool.slots slot).toSSLSocket msec
          tcpAnswers answers pool.trace).trace := by
  have off := pool.server.tcpServer.listen_offOpenssl msec tcpAnswers pool.trace
  have unclosed := (pool.server.listen_exit (pool.slots slot).toSSLSocket msec tcpAnswers answers
    pool.trace).unclosed identity
  have younger := listened_younger accepted
  rw [listened_accepted] at accepted
  rwa [if_pos accepted, Trace.unclosed_of_unsettled (off.mono fun _ => Call.unsettled_of_layer),
    Trace.unclosed_of_le younger, Finset.empty_union] at unclosed

end Listens

/-- Of the objects only the one that is listened into gets a session. -/
theorem ownSessions_listen (attended : Attended false pool) (objects : OwnsObjects pool)
    (orderly : Orderly pool) (slot msec : Nat) (tcpAnswers : ListenAnswers)
    (answers : AcceptAnswers) :
    let after := pool.listened slot (pool.server.listen (pool.slots slot).toSSLSocket msec
      tcpAnswers answers pool.trace)
    ∀ other, (after.slots other).OwnSessions after.trace := by
  intro after other identity accepted
  by_cases same : other = slot
  · rw [same] at accepted ⊢
    have unclosed := unclosed_own accepted
    simp only [after, listened, Function.update_self]
    exact unclosed
  · have kept : after.slots other = pool.slots other := Function.update_of_ne same ..
    rw [kept] at accepted ⊢
    have older := Finset.mem_range.mp (attended.owns.connections.live other identity accepted)
    have named : Trace.named (pool.slots other).pSSL after.trace =
        Trace.named (pool.slots other).pSSL pool.trace := by
      cases holds : (pool.slots other).pSSL with
      | none => rfl
      | some ssl =>
          exact CTCPSSLServer.listen_named (objects.sessions.live other ssl holds)
    rw [named]
    exact (unclosed_elsewhere fun taken => Nat.not_lt.mpr (listened_younger taken) older).trans
      (orderly.own other identity accepted)

/-- The listening socket is no client, and if it is new, then so is what it stands for. -/
theorem listener_listen (attended : Attended false pool) (orderly : Orderly pool) (slot msec : Nat)
    (tcpAnswers : ListenAnswers) (answers : AcceptAnswers) :
    let after := pool.listened slot (pool.server.listen (pool.slots slot).toSSLSocket msec
      tcpAnswers answers pool.trace)
    ∀ identity, after.trace.connection after.server.tcpServer.listenSocket = some identity →
      Trace.unclosed identity after.trace = ∅ := by
  intro after identity found
  have welcomed : Attended false after := attended_listen attended slot msec tcpAnswers answers
  have elsewhere : (after.slots slot).accepted ≠ some identity := by
    intro taken
    have own := welcomed.owns.own slot identity taken
    exact welcomed.apart slot (by rw [taken]; exact Option.some_ne_none _)
      (Trace.connection_inj own found)
  have off := pool.server.tcpServer.listen_offOpenssl msec tcpAnswers pool.trace
  have exit := pool.server.listen_exit (pool.slots slot).toSSLSocket msec tcpAnswers answers
    pool.trace
  have grows : Extends (fun _ => True) pool.trace after.trace :=
    (off.mono fun _ _ => trivial).trans (exit.offSockets.mono fun _ _ => trivial)
  have before : Trace.unclosed identity pool.trace = ∅ := by
    rcases Trace.connection_cases grows found with younger | older
    · exact Trace.unclosed_of_le younger
    · have self := pool.server.listen_self (pool.slots slot).toSSLSocket msec tcpAnswers answers
        pool.trace
      have isOpen := Trace.mem_sockets_of_connection older
      simp only [after, listened, self] at isOpen older
      have welcomes := CTCPServer.listen_welcomes attended.attends msec tcpAnswers
      rw [welcomes.listener.resolve_right (not_not.mpr isOpen)] at older
      exact orderly.listener identity older
  have unclosed := unclosed_elsewhere elsewhere
  rw [before] at unclosed
  exact Finset.subset_empty.mp unclosed

theorem orderly_listen (attended : Attended false pool) (objects : OwnsObjects pool)
    (orderly : Orderly pool) (slot msec : Nat) (tcpAnswers : ListenAnswers)
    (answers : AcceptAnswers) :
    Orderly (pool.listened slot (pool.server.listen (pool.slots slot).toSSLSocket msec tcpAnswers
      answers pool.trace)) where
  calls := CTCPSSLServer.listen_closesInOrder orderly.calls
  own := ownSessions_listen attended objects orderly slot msec tcpAnswers answers
  listener := listener_listen attended orderly slot msec tcpAnswers answers

/-- The session of the object is shut down before its descriptor is closed. -/
theorem orderly_disconnect (attended : Attended false pool) (objects : OwnsObjects pool)
    (orderly : Orderly pool) {slot : Nat} (holds : (pool.slots slot).accepted ≠ none) :
    Orderly (pool.disconnected slot
      (pool.server.disconnect (pool.slots slot).toSSLSocket pool.trace)) := by
  have off := shutdownSSL_offSockets (pool.slots slot).toSSLSocket pool.trace
  have shrinks := shutdownSSL_unclosed_subset (pool.slots slot).toSSLSocket pool.trace
  have sockFd := shutdownSSL_sockFd (pool.slots slot).toSSLSocket pool.trace
  refine ⟨⟨?_, Trace.closesInOrder_of_offSockets orderly.calls off⟩, ?_, ?_⟩
  · intro identity found
    obtain ⟨closed, accepted⟩ := Option.ne_none_iff_exists'.mp holds
    rw [sockFd, Trace.connection_of_layer off, attended.owns.own slot closed accepted] at found
    obtain rfl : closed = identity := Option.some.inj found
    exact CTCPSSLClient.shutdownSSL_unclosed (orderly.own slot closed accepted)
  · intro other identity accepted
    by_cases same : other = slot
    · simp only [disconnected, same, Function.update_self] at accepted
      cases accepted
    · simp only [disconnected, Function.update_of_ne same] at accepted ⊢
      have named := @shutdownSSL_named (pool.slots slot).toSSLSocket (pool.slots other).pSSL
        (fun ssl heldToo held => same (objects.sessions.exclusive other slot ssl heldToo held))
        pool.trace
      have own := orderly.own other identity accepted
      rw [← named] at own
      exact (shrinks identity).trans own
  · intro identity found
    simp only [disconnected, CTCPSSLServer.disconnect, CTCPServer.disconnect,
      Trace.connection_close, Trace.connection_of_layer off] at found
    split at found
    · contradiction
    · have none := orderly.listener identity found
      exact Finset.subset_empty.mp ((shrinks identity).trans (Finset.subset_empty.mpr none))

/-- Calls that close nothing and leave the sessions and the connections alone. -/
theorem Orderly.of_calls (orderly : Orderly pool) {trace : Trace}
    (calls : Each Call.ClosesInOrder trace)
    (unclosed : ∀ identity, Trace.unclosed identity trace = Trace.unclosed identity pool.trace)
    (named : ∀ pointer, Trace.named pointer trace = Trace.named pointer pool.trace)
    (connections : ∀ fd, trace.connection fd = pool.trace.connection fd) :
    Orderly { pool with trace } where
  calls := calls
  own := fun slot identity accepted => by
    rw [unclosed, named]
    exact orderly.own slot identity accepted
  listener := fun identity found => by
    rw [connections] at found
    rw [unclosed]
    exact orderly.listener identity found

theorem orderly_exchanges (orderly : Orderly pool) {pSSL : Option Nat} {trace : Trace}
    (exchanges : Extends (Call.Exchanges pSSL) pool.trace trace) : Orderly { pool with trace } := by
  have passive := exchanges.mono fun _ => Call.Exchanges.passive
  have off := exchanges.mono fun _ => Call.Exchanges.layer_ne
  exact orderly.of_calls (Trace.closesInOrder_of_offSockets orderly.calls off)
    (Trace.unclosed_of_unsettled (exchanges.mono fun _ => Call.Exchanges.unsettled))
    (Trace.named_of_passive passive) (Trace.connection_of_passive passive)

theorem orderly_op (attended : Attended false pool) (objects : OwnsObjects pool)
    (orderly : Orderly pool) (op : Op) (respects : Request.Respects pool (.op op)) :
    Orderly (step pool op) := by
  apply step_rule op orderly
  · exact ⟨orderly.calls, Pool.forall_update orderly.own pool.count (ownSessions_empty _),
      orderly.listener⟩
  · exact fun target source _ => ⟨orderly.calls,
      Pool.forall_move orderly.own target source (ownSessions_empty _), orderly.listener⟩
  · exact orderly_listen attended objects orderly
  · exact fun _ _ exchanges => orderly_exchanges orderly exchanges
  · rintro slot rfl -
    exact orderly_disconnect attended objects orderly respects

theorem orderly_timed (orderly : Orderly pool) (slot : Nat)
    {set : SSLSocket → Trace → Bool × Trace}
    (sets : ∀ socket trace, Extends (Call.Sets socket.sockFd) trace (set socket trace).2) :
    Orderly (pool.timed slot set) := by
  simp only [timed]
  split
  · have touches := sets (pool.slots slot).toSSLSocket pool.trace
    have off := touches.mono fun _ => Call.Sets.offOpenssl
    apply orderly.of_calls
    · apply touches.each orderly.calls
      intro call _ sets _
      cases call <;> first | exact sets.elim | trivial
    · exact Trace.unclosed_of_unsettled (off.mono fun _ => Call.unsettled_of_layer)
    · exact Trace.named_of_offOpenssl off
    · exact fun fd => Trace.connection_of_touching fd (touches.mono fun _ => Call.Sets.touching)
  · exact orderly

theorem orderly_request (attended : Attended false pool) (objects : OwnsObjects pool)
    (orderly : Orderly pool) {request : Request} (respects : request.Respects pool) :
    Orderly (ServerPool.request pool request) := by
  have timeout (slot : Nat) (option : SockOption) (failure : String) (iErr : Int) :=
    orderly_timed orderly slot fun socket trace =>
      setTimeout_extends socket.sockFd pool.server.tcpServer.eSettingsFlags option failure iErr
        trace
  cases request with
  | op op => exact orderly_op attended objects orderly op respects
  | setSSLCerthAuth | setSSLCertFile | setSSLKeyFile =>
      exact ⟨orderly.calls, orderly.own, orderly.listener⟩
  | setRcvTimeout | setRcvTimeoutTimeval | setSndTimeout | setSndTimeoutTimeval =>
      exact timeout _ _ _ _

end Steps

theorem orderly_init (server : CTCPSSLServer) : Orderly (init server) where
  calls := trivial
  own := fun _ => ownSessions_empty _
  listener := fun _ found => (by cases found)

/-- However the clients of a server come and go, and whatever becomes of their handshakes, no
descriptor is closed before the sessions of its connection, the destructor of the server
included. -/
theorem sessions_closed_first (strPort : String) (secure : ASecureSocket) (requests : List Request)
    (respects : Runs.Steps request (fun pool request => request.Respects pool)
      (init (.new strPort secure)) requests) :
    let last := requests.foldl request (init (.new strPort secure))
    Each Call.ClosesInOrder (last.server.destroy last.trace).trace := by
  intro last
  have keeps : ∀ pool (request : Request),
      Attended false pool ∧ OwnsObjects pool ∧ Orderly pool → request.Respects pool →
        Attended false (ServerPool.request pool request) ∧
          OwnsObjects (ServerPool.request pool request) ∧
          Orderly (ServerPool.request pool request) := by
    rintro pool request ⟨attended, objects, orderly⟩ respects
    exact ⟨attended_request attended respects nofun, owns_objects_request objects request,
      orderly_request attended objects orderly respects⟩
  have start := And.intro (@attended_init false strPort secure)
    (And.intro (owns_init (.new strPort secure)) (orderly_init (.new strPort secure)))
  obtain ⟨-, -, orderly⟩ := (Runs.always_of_invariant keeps start respects).last
  exact ⟨orderly.listener, orderly.calls⟩

theorem sessions_closed_first_in_vain :
    let start := init (.new "443" CTCPSSLServer.plainServer.toASecureSocket)
    let last := (listenedInVain [.op (.disconnect 0)]).foldl request start
    Call.close 4 ∈ last.trace ∧ Each Call.ClosesInOrder (last.server.destroy last.trace).trace := by
  intro start last
  have held : ((request (request start (.op .construct)) (.op (.listen 0 1000
      (CTCPServer.arriving { result := 1, ready := true })
      (CTCPSSLServer.handshakeWith 1)))).slots 0).accepted ≠ none := by
    decide
  have respects : Runs.Steps request (fun pool request => request.Respects pool) start
      (listenedInVain [.op (.disconnect 0)]) := ⟨trivial, trivial, held, trivial, trivial⟩
  exact ⟨by decide, sessions_closed_first "443" CTCPSSLServer.plainServer.toASecureSocket _ respects⟩

end ServerPool

end SocketCpp
