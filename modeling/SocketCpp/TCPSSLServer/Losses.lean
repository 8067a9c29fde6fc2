import SocketCpp.Process.Servers

namespace SocketCpp

open Data

/-! Which connections a `CTCPSSLServer` and the objects of its clients lose.

`Listen` writes the new descriptor over whatever number its object holds, whether a client
comes or not, and so does a move. -/

namespace Trace

theorem connection_inj {trace : Trace} {first second : Socket} {identity : Nat}
    (found : trace.connection first = some identity)
    (foundToo : trace.connection second = some identity) : first = second :=
  Ledger.identity_inj found foundToo

theorem connection_isSome_iff {trace : Trace} {fd : Socket} :
    (∃ identity, trace.connection fd = some identity) ↔ fd ∈ trace.sockets := by
  rw [← Option.isSome_iff_exists]
  exact Ledger.identity_isSome_iff

theorem connection_of_touching {before after : Trace} (fd : Socket)
    (touching : Extends (Ledger.Touching Call.socketEvents) before after) :
    after.connection fd = before.connection fd :=
  Ledger.identity_of_touching fd touching

theorem connection_of_not_mem {trace : Trace} {fd : Socket} (closed : fd ∉ trace.sockets) :
    trace.connection fd = none :=
  Option.eq_none_iff_forall_ne_some.mpr fun _ found =>
    closed (mem_sockets_of_connection found)

theorem connection_socket_failed (trace : Trace) (family socktype protocol : Int) {fd : Socket}
    (failed : fd < 0) (other : Socket) :
    connection (.socket family socktype protocol fd :: trace) other = trace.connection other := by
  simp [connection, Call.socketEvents, Int.not_le.mpr failed]

theorem connection_socket_other (trace : Trace) (family socktype protocol : Int)
    {fd other : Socket} (different : fd ≠ other) :
    connection (.socket family socktype protocol fd :: trace) other = trace.connection other := by
  by_cases valid : 0 ≤ fd
  · simp [connection, Call.socketEvents, valid, Ledger.identity, different]
  · simp [connection, Call.socketEvents, valid]

theorem connection_accept_other (trace : Trace) (listener : Socket) (peer : SockAddrIn)
    {fd other : Socket} (different : fd ≠ other) :
    connection (.accept listener fd peer :: trace) other = trace.connection other := by
  by_cases valid : 0 ≤ fd
  · simp [connection, Call.socketEvents, valid, Ledger.identity, different]
  · simp [connection, Call.socketEvents, valid, Ledger.identity]

end Trace

namespace CTCPServer

variable {server : CTCPServer} {trace : Trace}

/-! `Listen` leaves all connections alone but those of the new client and the listening
socket. -/

theorem createListenSocket_others (server : CTCPServer) (answers : ListenAnswers) (trace : Trace)
    {fd : Socket} (other : (server.createListenSocket answers trace).self.listenSocket ≠ fd) :
    (server.createListenSocket answers trace).trace.connection fd = trace.connection fd := by
  have fresh := trace.newSocket_not_mem answers.socket
  have logs (earlier : Trace) (message : String) :
      (earlier.oLog server.eSettingsFlags message).connection fd = earlier.connection fd :=
    Trace.connection_of_touching fd ((Trace.oLog_calls ..).mono fun _ => Call.Logs.touching)
  have sets (earlier : Trace) (sd : Socket) (option : SockOption) (result : Int) :
      Trace.connection (.setsockopt sd option result :: earlier) fd = earlier.connection fd := by
    simp [Trace.connection, Call.socketEvents, Ledger.identity]
  have binds (earlier : Trace) (sd : Socket) (address : SockAddrIn) (result : Int) :
      Trace.connection (.bind sd address result :: earlier) fd = earlier.connection fd := by
    simp [Trace.connection, Call.socketEvents, Ledger.identity]
  simp only [createListenSocket] at other ⊢
  generalize trace.newSocket answers.socket = created at fresh other ⊢
  by_cases failed : created < 0
  · rw [if_pos failed, logs, Trace.connection_socket_failed trace _ _ _ failed]
  · rw [if_neg failed] at other ⊢
    by_cases refused : answers.reuseAddr < 0
    · rw [if_pos refused, Trace.connection_close]
      by_cases same : created = fd
      · rw [if_pos same, ← same, Trace.connection_of_not_mem fresh]
      · rw [if_neg same, logs, sets, Trace.connection_socket_other trace _ _ _ same]
    · rw [if_neg refused] at other ⊢
      by_cases unbound : answers.bind < 0
      · rw [if_pos unbound] at other ⊢
        rw [logs, binds, sets, Trace.connection_socket_other trace _ _ _ other]
      · rw [if_neg unbound] at other ⊢
        rw [binds, sets, Trace.connection_socket_other trace _ _ _ other]

theorem acceptClient_others (server : CTCPServer) (msec : Nat) (answers : ListenAnswers)
    (trace : Trace) {fd : Socket}
    (other : (server.acceptClient msec answers trace).clientSocket ≠ fd) :
    (server.acceptClient msec answers trace).trace.connection fd = trace.connection fd := by
  have exit := server.acceptClient_exit msec answers trace
  generalize server.acceptClient msec answers trace = result at exit other ⊢
  cases exit with
  | turnedAway _ _ _ calls =>
      exact Trace.connection_of_touching fd (calls.mono fun _ => Call.Awaits.touching)
  | answered waited _ _ awaits client _ logs =>
      have late := Trace.connection_of_touching fd (logs.mono fun _ => Call.Logs.touching)
      have early := Trace.connection_of_touching fd (awaits.mono fun _ => Call.Awaits.touching)
      rw [late, Trace.connection_accept_other _ _ _ other, early]

theorem listen_others (server : CTCPServer) (msec : Nat) (answers : ListenAnswers)
    (trace : Trace) {fd : Socket}
    (client : (server.listen msec answers trace).clientSocket ≠ fd)
    (listener : (server.listen msec answers trace).self.listenSocket ≠ fd) :
    (server.listen msec answers trace).trace.connection fd = trace.connection fd := by
  simp only [listen] at client listener ⊢
  by_cases missing : server.listenSocket = invalidSocket
  · simp only [if_pos missing] at client listener ⊢
    have created := @createListenSocket_others server answers trace fd
    generalize server.createListenSocket answers trace = result at client listener created ⊢
    cases value : result.value with
    | false =>
        simp only [value, Bool.false_eq_true, if_false] at listener ⊢
        exact created listener
    | true =>
        simp only [value, if_true] at client listener ⊢
        rw [(result.self.acceptClient_calls msec answers result.trace).1] at listener
        exact (acceptClient_others _ msec answers _ client).trans (created listener)
  · simp only [if_neg missing] at client ⊢
    exact acceptClient_others _ msec answers _ client

/-- A listening socket is kept. -/
theorem listen_listener (present : server.listenSocket ≠ invalidSocket) (msec : Nat)
    (answers : ListenAnswers) :
    (server.listen msec answers trace).self.listenSocket = server.listenSocket := by
  rw [listen, if_neg present, (server.acceptClient_calls msec answers trace).1]

end CTCPServer

namespace ServerPool

/-- The connections of the process that are those of clients. -/
def clients (pool : ServerPool) : Set Nat :=
  {identity | ∃ fd, pool.trace.connection fd = some identity ∧
    fd ≠ pool.server.tcpServer.listenSocket}

/-- Every client that is connected is held by an object. -/
def Accounted (pool : ServerPool) : Prop :=
  Pool.Covers (fun slot : Slot => slot.accepted) pool.clients pool.slots

/-- An object that holds a client gets another one, or is listened into in vain. -/
def Request.Overwrites (pool : ServerPool) : Request → Prop
  | .op (.listen slot ..) => slot < pool.count ∧ (pool.slots slot).accepted ≠ none
  | .op (.moveAssign target source) =>
      target < pool.count ∧ source < pool.count ∧ target ≠ source ∧
        (pool.slots target).accepted ≠ none
  | _ => False

/-- The objects not constructed yet hold nothing. -/
structure Complete (pool : ServerPool) : Prop where
  attended : Attended false pool
  accounted : Accounted pool
  unbuilt : ∀ slot, pool.count ≤ slot → (pool.slots slot).accepted = none

theorem clients_of_touching {pool : ServerPool} {trace : Trace}
    (touching : Extends (Ledger.Touching Call.socketEvents) pool.trace trace) :
    clients { pool with trace } = pool.clients := by
  simp only [clients, Trace.connection_of_touching _ touching]

theorem Complete.of_touching {pool : ServerPool} (complete : Complete pool) {trace : Trace}
    (attended : Attended false { pool with trace })
    (touching : Extends (Ledger.Touching Call.socketEvents) pool.trace trace) :
    Complete { pool with trace } where
  attended := attended
  accounted := by
    rw [Accounted, clients_of_touching touching]
    exact complete.accounted
  unbuilt := complete.unbuilt

/-- What `Listen` adds to the clients is the one that it gives to its object. -/
theorem clients_listened {pool : ServerPool} {slot msec : Nat} {tcpAnswers : ListenAnswers}
    {answers : AcceptAnswers} {identity : Nat}
    (member : identity ∈ (pool.listened slot (pool.server.listen (pool.slots slot).toSSLSocket msec
      tcpAnswers answers pool.trace)).clients) :
    identity ∈ pool.clients ∨
      (pool.server.listen (pool.slots slot).toSSLSocket msec tcpAnswers answers
        pool.trace).trace.connection (pool.server.listen (pool.slots slot).toSSLSocket msec
          tcpAnswers answers pool.trace).clientSocket.sockFd = some identity := by
  have off := (pool.server.listen_exit (pool.slots slot).toSSLSocket msec tcpAnswers answers
    pool.trace).offSockets
  have sockFd := pool.server.listen_sockFd (pool.slots slot).toSSLSocket msec tcpAnswers answers
    pool.trace
  have self := pool.server.listen_self (pool.slots slot).toSSLSocket msec tcpAnswers answers
    pool.trace
  obtain ⟨fd, found, apart⟩ := member
  simp only [listened, self] at found apart
  by_cases client : (pool.server.tcpServer.listen msec tcpAnswers pool.trace).clientSocket = fd
  · rw [sockFd, client]
    exact .inr found
  · have others := pool.server.tcpServer.listen_others msec tcpAnswers pool.trace client apart.symm
    rw [Trace.connection_of_layer off, others] at found
    refine .inl ⟨fd, found, fun same => ?_⟩
    have present : pool.server.tcpServer.listenSocket ≠ invalidSocket := by
      rintro missing
      rw [same, missing, Trace.connection_invalid] at found
      cases found
    rw [CTCPServer.listen_listener present] at apart
    exact apart same

theorem unbuilt_update {slots : Nat → Slot} {count slot : Nat}
    (unbuilt : ∀ other, count ≤ other → (slots other).accepted = none) (exist : slot < count)
    (value : Slot) :
    ∀ other, count ≤ other → (Function.update slots slot value other).accepted = none := by
  intro other beyond
  have different : other ≠ slot := by omega
  rw [Function.update_of_ne different]
  exact unbuilt other beyond

theorem complete_listen {pool : ServerPool} (complete : Complete pool) {slot : Nat}
    (exist : slot < pool.count) (vacant : (pool.slots slot).accepted = none) (msec : Nat)
    (tcpAnswers : ListenAnswers) (answers : AcceptAnswers) :
    Complete (pool.listened slot (pool.server.listen (pool.slots slot).toSSLSocket msec tcpAnswers
      answers pool.trace)) where
  attended := attended_listen complete.attended slot msec tcpAnswers answers
  accounted := complete.accounted.put vacant fun _ member => clients_listened member
  unbuilt := unbuilt_update complete.unbuilt exist _

theorem complete_disconnect {pool : ServerPool} (complete : Complete pool) {slot : Nat}
    (exist : slot < pool.count) (holds : (pool.slots slot).accepted ≠ none) :
    Complete (pool.disconnected slot
      (pool.server.disconnect (pool.slots slot).toSSLSocket pool.trace)) where
  attended := attended_disconnect complete.attended holds exist
  accounted := by
    apply complete.accounted.release
    rintro identity ⟨fd, found, apart⟩
    have closes := connection_disconnect exist fd
    simp only [step, if_pos exist] at closes
    rw [closes] at found
    by_cases same : (pool.slots slot).sockFd = fd
    · rw [if_pos same] at found
      cases found
    · rw [if_neg same] at found
      refine ⟨⟨fd, found, apart⟩, fun held => same ?_⟩
      exact Trace.connection_inj (complete.attended.owns.own slot identity held) found
  unbuilt := unbuilt_update complete.unbuilt exist _

theorem complete_move {pool : ServerPool} (complete : Complete pool) {target source count : Nat}
    (different : target ≠ source) (vacant : (pool.slots target).accepted = none)
    (grows : pool.count ≤ count) (built : target < count) :
    Complete { pool with slots := Pool.move pool.slots target source .empty, count } where
  attended := complete.attended.move target source count
  accounted := complete.accounted.move different vacant
  unbuilt := fun other beyond => by
    have notTarget : other ≠ target := by
      have later : count ≤ other := beyond
      omega
    simp only [Pool.move, Function.update_apply, if_neg notTarget]
    split
    · rfl
    · exact complete.unbuilt other (Nat.le_trans grows beyond)

theorem complete_op {pool : ServerPool} (complete : Complete pool) (op : Op)
    (respects : Request.Respects pool (.op op)) (spares : ¬ Request.Overwrites pool (.op op)) :
    Complete (step pool op) := by
  have attended := attended_op complete.attended op respects
  cases op with
  | construct =>
      refine ⟨attended, ?_, ?_⟩
      · exact complete.accounted.put (complete.unbuilt _ (Nat.le_refl _)) fun _ => .inl
      · intro other beyond
        have later : pool.count + 1 ≤ other := beyond
        have different : other ≠ pool.count := by omega
        simp only [step, Function.update_of_ne different]
        exact complete.unbuilt other (by omega)
  | moveConstruct source =>
      simp only [step]
      split
      · next exist =>
          exact complete_move complete (Nat.ne_of_gt exist) (complete.unbuilt _ (Nat.le_refl _))
            (Nat.le_succ _) (Nat.lt_succ_self _)
      · exact complete
  | moveAssign target source =>
      simp only [step]
      split
      · next exist =>
          have vacant : (pool.slots target).accepted = none := by
            by_contra held
            exact spares ⟨exist.1, exist.2.1, exist.2.2, held⟩
          exact complete_move complete exist.2.2 vacant (Nat.le_refl _) exist.1
      · exact complete
  | listen slot msec tcpAnswers answers =>
      simp only [step]
      split
      · next exist =>
          have vacant : (pool.slots slot).accepted = none := by
            by_contra held
            exact spares ⟨exist, held⟩
          exact complete_listen complete exist vacant msec tcpAnswers answers
      · exact complete
  | send slot pData uSize script =>
      simp only [step] at attended ⊢
      split at attended
      · next exist =>
          rw [if_pos exist]
          exact complete.of_touching attended ((CTCPSSLServer.send_calls ..).mono fun _ one =>
            Trace.socketEvents_of_passive one.passive)
      · next absent =>
          rw [if_neg absent]
          exact complete
  | receive slot pData uSize bReadFully script =>
      simp only [step] at attended ⊢
      split at attended
      · next exist =>
          rw [if_pos exist]
          exact complete.of_touching attended ((CTCPSSLServer.receive_calls ..).mono fun _ one =>
            Trace.socketEvents_of_passive one.passive)
      · next absent =>
          rw [if_neg absent]
          exact complete
  | disconnect slot =>
      simp only [step]
      split
      · next exist => exact complete_disconnect complete exist respects
      · exact complete

theorem complete_timed {pool : ServerPool} (complete : Complete pool) (slot : Nat)
    {set : SSLSocket → Trace → Bool × Trace} (attended : Attended false (pool.timed slot set))
    (sets : ∀ socket trace, Extends (Call.Sets socket.sockFd) trace (set socket trace).2) :
    Complete (pool.timed slot set) := by
  simp only [timed] at attended ⊢
  split at attended
  · next exist =>
      rw [if_pos exist]
      exact complete.of_touching attended ((sets _ _).mono fun _ => Call.Sets.touching)
  · next absent =>
      rw [if_neg absent]
      exact complete

theorem complete_request {pool : ServerPool} (complete : Complete pool) {request : Request}
    (respects : request.Respects pool) (spares : ¬ request.Overwrites pool) :
    Complete (ServerPool.request pool request) := by
  have attended := attended_request complete.attended respects nofun
  have timeout (slot : Nat) (option : SockOption) (failure : String) (iErr : Int)
      (attended : Attended false (pool.timed slot fun socket => setTimeout socket.sockFd
        pool.server.tcpServer.eSettingsFlags option failure iErr)) :=
    complete_timed complete slot attended fun socket trace =>
      setTimeout_extends socket.sockFd pool.server.tcpServer.eSettingsFlags option failure iErr
        trace
  cases request with
  | op op => exact complete_op complete op respects spares
  | setSSLCerthAuth | setSSLCertFile | setSSLKeyFile =>
      exact ⟨attended, complete.accounted, complete.unbuilt⟩
  | setRcvTimeout slot msecTimeout iErr => exact timeout slot (.rcvTimeo _) _ iErr attended
  | setRcvTimeoutTimeval slot value iErr => exact timeout slot (.rcvTimeo _) _ iErr attended
  | setSndTimeout slot msecTimeout iErr => exact timeout slot (.rcvTimeo _) _ iErr attended
  | setSndTimeoutTimeval slot value iErr => exact timeout slot (.sndTimeo _) _ iErr attended

theorem lost_of_listen {pool : ServerPool} (attended : Attended false pool) {slot : Nat}
    (holds : (pool.slots slot).accepted ≠ none) (msec : Nat) (tcpAnswers : ListenAnswers)
    (answers : AcceptAnswers) :
    ¬ Accounted (pool.listened slot (pool.server.listen (pool.slots slot).toSSLSocket msec
      tcpAnswers answers pool.trace)) := by
  obtain ⟨identity, held⟩ := Option.ne_none_iff_exists'.mp holds
  have found := attended.owns.own slot identity held
  have keeps := (owns_listen_connection attended.owns slot msec tcpAnswers answers).1
  have off := (pool.server.listen_exit (pool.slots slot).toSSLSocket msec tcpAnswers answers
    pool.trace).offSockets
  have sockFd := pool.server.listen_sockFd (pool.slots slot).toSSLSocket msec tcpAnswers answers
    pool.trace
  have self := pool.server.listen_self (pool.slots slot).toSSLSocket msec tcpAnswers answers
    pool.trace
  have welcomes := CTCPServer.listen_welcomes attended.attends msec tcpAnswers
  generalize pool.server.listen (pool.slots slot).toSSLSocket msec tcpAnswers answers pool.trace =
    result at keeps off sockFd self ⊢
  have present : identity ∈ (pool.listened slot result).clients := by
    refine ⟨(pool.slots slot).sockFd, keeps _ identity found, ?_⟩
    simp only [listened, self]
    rcases welcomes.listener with same | new
    · rw [same]
      exact attended.apart slot holds
    · exact fun same => new (same ▸ Trace.mem_sockets_of_connection found)
  refine attended.owns.connections.not_covers_update held present fun again => ?_
  have isNew : result.trace.connection result.clientSocket.sockFd = some identity := again
  rw [sockFd, Trace.connection_of_layer off] at isNew
  have younger := CTCPServer.listen_connection isNew
  have older := Trace.connection_lt found
  omega

/-- The client of an object that is written over stays connected, and nobody holds it. -/
theorem lost_of_overwrites {pool : ServerPool} (attended : Attended false pool) {request : Request}
    (overwrites : request.Overwrites pool) : ¬ Accounted (ServerPool.request pool request) := by
  cases request with
  | op op =>
      cases op with
      | listen slot msec tcpAnswers answers =>
          obtain ⟨exist, holds⟩ := overwrites
          simp only [ServerPool.request, step, if_pos exist]
          exact lost_of_listen attended holds msec tcpAnswers answers
      | moveAssign target source =>
          obtain ⟨exist, existToo, different, holds⟩ := overwrites
          obtain ⟨identity, held⟩ := Option.ne_none_iff_exists'.mp holds
          have found := attended.owns.own target identity held
          have present : identity ∈ pool.clients := ⟨_, found, attended.apart target holds⟩
          have moves : target < pool.count ∧ source < pool.count ∧ target ≠ source :=
            ⟨exist, existToo, different⟩
          have vacant : Slot.empty.accepted = none := rfl
          simp only [ServerPool.request, step, if_pos moves]
          exact attended.owns.connections.not_covers_move different held present vacant
      | _ => exact overwrites.elim
  | _ => exact overwrites.elim

theorem complete_init (strPort : String) (secure : ASecureSocket) :
    Complete (init (.new strPort secure)) where
  attended := attended_init strPort secure
  accounted := by
    rintro identity ⟨fd, found, -⟩
    cases found
  unbuilt := fun _ _ => rfl

/-- What is open behind the destructor of the server. -/
theorem open_after_destroy {pool : ServerPool} (complete : Complete pool) (fd : Socket) :
    fd ∈ (pool.server.destroy pool.trace).trace.sockets ↔
      ∃ slot, (pool.slots slot).accepted ≠ none ∧ (pool.slots slot).sockFd = fd := by
  simp only [CTCPSSLServer.destroy, CTCPServer.destroy, Trace.sockets_close, Finset.mem_erase]
  constructor
  · rintro ⟨apart, isOpen⟩
    obtain ⟨identity, found⟩ := Trace.connection_isSome_iff.mpr isOpen
    obtain ⟨slot, held⟩ := complete.accounted identity ⟨fd, found, apart⟩
    refine ⟨slot, Option.ne_none_iff_exists'.mpr ⟨identity, held⟩, ?_⟩
    exact Trace.connection_inj (complete.attended.owns.own slot identity held) found
  · rintro ⟨slot, holds, rfl⟩
    obtain ⟨identity, held⟩ := Option.ne_none_iff_exists'.mp holds
    exact ⟨complete.attended.apart slot holds,
      Trace.mem_sockets_of_connection (complete.attended.owns.own slot identity held)⟩

/-- No client of a server is lost exactly when no object that holds one is written over, and
then nothing but the clients that the objects hold outlives the server. -/
theorem none_lost_iff (strPort : String) (secure : ASecureSocket) (requests : List Request)
    (respects : Runs.Steps request (fun pool request => request.Respects pool)
      (init (.new strPort secure)) requests) :
    let start := init (.new strPort secure)
    let last := requests.foldl request start
    (Runs.Always request Accounted start requests ↔
        Runs.Steps request (fun pool request => ¬ request.Overwrites pool) start requests) ∧
      (Runs.Always request Accounted start requests →
        ∀ fd, fd ∈ (last.server.destroy last.trace).trace.sockets ↔
          ∃ slot, (last.slots slot).accepted ≠ none ∧ (last.slots slot).sockFd = fd) := by
  intro start last
  have implies : ∀ pool, Complete pool → Accounted pool := fun _ complete => complete.accounted
  have keeps : ∀ pool (request : Request), Complete pool → request.Respects pool →
      ¬ request.Overwrites pool → Complete (ServerPool.request pool request) :=
    fun _ _ complete respects spares => complete_request complete respects spares
  have breaks : ∀ pool (request : Request), Complete pool → request.Respects pool →
      ¬ ¬ request.Overwrites pool → ¬ Accounted (ServerPool.request pool request) :=
    fun _ _ complete _ overwrites => lost_of_overwrites complete.attended (not_not.mp overwrites)
  have exactly :=
    Runs.always_iff_steps_of implies keeps breaks (complete_init strPort secure) respects
  refine ⟨exactly, fun always => open_after_destroy ?_⟩
  have keepsBoth : ∀ pool (request : Request), Complete pool →
      request.Respects pool ∧ ¬ request.Overwrites pool →
      Complete (ServerPool.request pool request) :=
    fun _ _ complete both => complete_request complete both.1 both.2
  exact (Runs.always_of_invariant keepsBoth (complete_init strPort secure)
    (Runs.steps_and respects (exactly.mp always))).last

/-- A handshake is refused, and the same object is listened into again. -/
def listenedAgain (between : List Request) : List Request :=
  let ready := CTCPServer.arriving { result := 1, ready := true }
  [.op .construct, .op (.listen 0 1000 ready (CTCPSSLServer.handshakeWith 0))] ++ between ++
    [.op (.listen 0 1000 ready (CTCPSSLServer.handshakeWith 1))]

/-- The refused client is lost unless its object is disconnected first. -/
theorem none_lost_iff_listened_again :
    let start := init (.new "443" CTCPSSLServer.plainServer.toASecureSocket)
    ¬ Runs.Always request Accounted start (listenedAgain []) ∧
      Runs.Always request Accounted start (listenedAgain [.op (.disconnect 0)]) := by
  intro start
  have held : ((request (request start (.op .construct)) (.op (.listen 0 1000
      (CTCPServer.arriving { result := 1, ready := true })
      (CTCPSSLServer.handshakeWith 0)))).slots 0).accepted ≠ none := by
    decide
  constructor
  · intro always
    have respects : Runs.Steps request (fun pool request => request.Respects pool) start
        (listenedAgain []) := ⟨trivial, trivial, trivial, trivial⟩
    have steps := (none_lost_iff "443" CTCPSSLServer.plainServer.toASecureSocket _ respects).1.mp
      always
    have listened : Nat.lt 0 1 := Nat.one_pos
    exact steps.2.2.1 ⟨listened, held⟩
  · have respects : Runs.Steps request (fun pool request => request.Respects pool) start
        (listenedAgain [.op (.disconnect 0)]) := ⟨trivial, trivial, held, trivial, trivial⟩
    apply (none_lost_iff "443" CTCPSSLServer.plainServer.toASecureSocket _ respects).1.mpr
    refine ⟨id, ?_, id, ?_, trivial⟩
    · exact fun overwrites => overwrites.2 rfl
    · exact fun overwrites => overwrites.2 (by decide)

end ServerPool

end SocketCpp
