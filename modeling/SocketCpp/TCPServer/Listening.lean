import SocketCpp.TCPServer.Address

namespace SocketCpp

open Data

/-! What `CTCPServer::Listen` reports, and which sockets it owns, over runs.

The accepted descriptor belongs to the caller from then on.  The listening socket
belongs to the server: there is at most one, and every exit leaves it open in
`m_ListenSocket` or closed. -/

def Call.isAccept : Call → Bool
  | .accept .. => true
  | _ => false

/-- What a `Listen` calls before it accepts. -/
def Call.Awaits (fd : Socket) : Call → Prop
  | .oLog _ | .select .. => True
  | .listen pointer _ | .fdSet pointer | .fdIsset pointer => pointer = fd
  | _ => False

/-- Creations and closings of sockets by one server, without what it accepts. -/
def Call.creationEvents : Call → List (Ledger.Event Socket)
  | .socket _ _ _ result => if 0 ≤ result then [.acquire result] else []
  | .close fd => [.release fd]
  | _ => []

/-- The open sockets that `socket` has returned. -/
def Trace.created (trace : Trace) : Finset Socket :=
  Ledger.held (Ledger.entries Call.creationEvents trace)

/-- `select` found the descriptor readable. -/
def SelectAnswer.Readable (answer : SelectAnswer) : Prop :=
  0 < answer.result ∧ answer.ready = true

/-- What `select` can return: -1, or a number of descriptors. -/
def SelectAnswer.Possible (answer : SelectAnswer) : Prop :=
  -1 ≤ answer.result

/-- The listening socket is created, named and bound. -/
def ListenAnswers.Creates (answers : ListenAnswers) : Prop :=
  answers.socket.isSome ∧ 0 ≤ answers.reuseAddr ∧ 0 ≤ answers.bind

/-- A client arrives in time on the listening socket.  No time limit is waited for on
a negative number. -/
def ListenAnswers.Delivers (answers : ListenAnswers) (listenSocket : Socket) (msec : Nat) : Prop :=
  0 ≤ answers.listen ∧
    (msec ≠ acceptWaitInfDelay → 0 ≤ listenSocket ∧ answers.select.Readable) ∧
    answers.accept.isSome

instance (answer : SelectAnswer) : Decidable answer.Possible :=
  inferInstanceAs (Decidable (_ ≤ _))

instance (answer : SelectAnswer) : Decidable answer.Readable :=
  inferInstanceAs (Decidable (_ ∧ _))

instance (answers : ListenAnswers) : Decidable answers.Creates :=
  inferInstanceAs (Decidable (_ ∧ _ ∧ _))

instance (answers : ListenAnswers) (listenSocket : Socket) (msec : Nat) :
    Decidable (answers.Delivers listenSocket msec) :=
  inferInstanceAs (Decidable (_ ∧ (_ → _ ∧ _) ∧ _))

theorem Call.Awaits.not_accept {fd : Socket} {call : Call} (awaits : call.Awaits fd) :
    call.isAccept = false := by
  cases call <;> first | exact awaits.elim | rfl

theorem Call.Creates.not_accept {call : Call} (creates : call.Creates) :
    call.isAccept = false := by
  cases call <;> first | exact creates.elim | rfl

theorem Call.Logs.not_accept {call : Call} (logs : call.Logs) : call.isAccept = false := by
  cases call <;> first | exact logs.elim | rfl

theorem Call.Accepts.uncreating {fd : Socket} {call : Call} (accepts : call.Accepts fd) :
    call.creationEvents = [] := by
  cases call <;> first | exact accepts.elim | rfl

theorem Call.Accepts.offOpenssl {fd : Socket} {call : Call} (accepts : call.Accepts fd) :
    call.layer ≠ .openssl := by
  cases call <;> first | exact accepts.elim | simp [Call.layer]

theorem Call.Creates.offOpenssl {call : Call} (creates : call.Creates) :
    call.layer ≠ .openssl := by
  cases call <;> first | exact creates.elim | simp [Call.layer]

theorem Call.WaitsOn.awaits {fd : Socket} {call : Call} (waits : call.WaitsOn fd) :
    call.Awaits fd := by
  cases call <;> first | exact waits.elim | exact waits

namespace CTCPServer

/-- The exits of the second part of `Listen`. -/
inductive AcceptExit (server : CTCPServer) (msec : Nat) (answers : ListenAnswers) (trace : Trace)
    (result : Listened) : Prop where
  | turnedAway
      (undelivered : answers.select.Possible → ¬ answers.Delivers server.listenSocket msec)
      (value : result.value = false) (client : result.clientSocket = invalidSocket)
      (calls : Extends (Call.Awaits server.listenSocket) trace result.trace)
  | answered (waited : Trace) (listens : 0 ≤ answers.listen)
      (ready : answers.select.Possible → msec ≠ acceptWaitInfDelay →
        0 ≤ server.listenSocket ∧ answers.select.Readable ∧ ∃ timeout,
          waited = .fdIsset server.listenSocket ::
            .select (server.listenSocket + 1) timeout answers.select.result ::
            .fdSet server.listenSocket :: .listen server.listenSocket answers.listen :: trace)
      (awaits : Extends (Call.Awaits server.listenSocket) trace waited)
      (client : result.clientSocket = waited.newSocket answers.accept)
      (value : result.value = answers.accept.isSome)
      (logs : Extends Call.Logs
        (.accept server.listenSocket result.clientSocket answers.peer :: waited) result.trace)

theorem selectSocket_stops {sd : Socket} {msec : Nat} {answer : SelectAnswer} (trace : Trace)
    (possible : answer.Possible) :
    (selectSocket sd msec answer trace).1 = 0 ∨ (selectSocket sd msec answer trace).1 = -1 ↔
      ¬ (0 ≤ sd ∧ answer.Readable) := by
  have lower : -1 ≤ answer.result := possible
  by_cases negative : sd < 0
  · simp [selectSocket, negative]
  · by_cases low : answer.result ≤ 0
    · simp only [selectSocket, if_neg negative, if_pos low, SelectAnswer.Readable]
      omega
    · cases ready : answer.ready with
      | true =>
          have readable : 0 ≤ sd ∧ answer.Readable :=
            ⟨Int.not_lt.mp negative, Int.not_le.mp low, ready⟩
          simp [selectSocket, negative, low, ready, readable]
      | false => simp [selectSocket, negative, low, ready, SelectAnswer.Readable]

theorem selectSocket_calls {sd : Socket} {msec : Nat} {answer : SelectAnswer} (trace : Trace)
    (valid : 0 ≤ sd) (readable : answer.Readable) : ∃ timeout,
    (selectSocket sd msec answer trace).2 =
      .fdIsset sd :: .select (sd + 1) timeout answer.result :: .fdSet sd :: trace := by
  simp only [selectSocket, if_neg (Int.not_lt.mpr valid), if_neg (Int.not_le.mpr readable.1),
    if_pos readable.2]
  exact ⟨_, rfl⟩

theorem acceptClient_exit (server : CTCPServer) (msec : Nat) (answers : ListenAnswers)
    (trace : Trace) :
    server.AcceptExit msec answers trace (server.acceptClient msec answers trace) := by
  have listens := (Extends.refl (Call.Awaits server.listenSocket) trace).cons
    (.listen server.listenSocket answers.listen) rfl
  simp only [acceptClient]
  by_cases fails : answers.listen < 0
  · rw [if_pos fails]
    have undelivered : ¬ answers.Delivers server.listenSocket msec :=
      fun delivers => absurd delivers.1 (Int.not_le.mpr fails)
    exact .turnedAway (fun _ => undelivered) rfl rfl (Trace.oLog_extends listens _ _ trivial)
  · rw [if_neg fails]
    generalize chosen : (if msec ≠ acceptWaitInfDelay then
      selectSocket server.listenSocket msec answers.select
        (.listen server.listenSocket answers.listen :: trace)
      else (1, .listen server.listenSocket answers.listen :: trace)) = selected
    have awaits : Extends (Call.Awaits server.listenSocket) trace selected.2 := by
      rw [← chosen]
      split
      · exact listens.trans ((selectSocket_extends ..).mono fun _ => Call.WaitsOn.awaits)
      · exact listens
    have stops (possible : answers.select.Possible) : selected.1 = 0 ∨ selected.1 = -1 ↔
        msec ≠ acceptWaitInfDelay ∧ ¬ (0 ≤ server.listenSocket ∧ answers.select.Readable) := by
      rw [← chosen]
      split
      · simp [selectSocket_stops _ possible, *]
      · simp [*]
    have undelivered (stopped : selected.1 = 0 ∨ selected.1 = -1)
        (possible : answers.select.Possible) : ¬ answers.Delivers server.listenSocket msec := by
      obtain ⟨limited, unready⟩ := (stops possible).mp stopped
      exact fun delivers => unready (delivers.2.1 limited)
    by_cases late : selected.1 = 0
    · rw [if_pos late]
      exact .turnedAway (undelivered (.inl late)) rfl rfl (Trace.oLog_extends awaits _ _ trivial)
    · rw [if_neg late]
      by_cases broken : selected.1 = -1
      · rw [if_pos broken]
        exact .turnedAway (undelivered (.inr broken)) rfl rfl
          (Trace.oLog_extends awaits _ _ trivial)
      · rw [if_neg broken]
        have goes : ¬ (selected.1 = 0 ∨ selected.1 = -1) := by
          rintro (stopped | stopped)
          · exact late stopped
          · exact broken stopped
        have ready (possible : answers.select.Possible) (limited : msec ≠ acceptWaitInfDelay) :
            0 ≤ server.listenSocket ∧ answers.select.Readable ∧ ∃ timeout, selected.2 =
              .fdIsset server.listenSocket ::
                .select (server.listenSocket + 1) timeout answers.select.result ::
                .fdSet server.listenSocket :: .listen server.listenSocket answers.listen ::
                trace := by
          obtain ⟨valid, readable⟩ := not_not.mp fun unready =>
            goes ((stops possible).mpr ⟨limited, unready⟩)
          refine ⟨valid, readable, ?_⟩
          rw [← chosen, if_pos limited]
          exact selectSocket_calls _ valid readable
        cases accept : answers.accept with
        | none =>
            have negative : selected.2.newSocket none < 0 := show invalidSocket < 0 by decide
            rw [if_pos negative]
            exact .answered selected.2 (Int.not_lt.mp fails) ready awaits (by rw [accept])
              (by rw [accept]; rfl) (Trace.oLog_calls ..)
        | some named =>
            have valid := selected.2.newSocket_some_nonneg named
            rw [if_neg (Int.not_lt.mpr valid)]
            exact .answered selected.2 (Int.not_lt.mp fails) ready awaits (by rw [accept])
              (by rw [accept]; rfl) (Trace.oLog_calls ..)

theorem createListenSocket_value (server : CTCPServer) (answers : ListenAnswers)
    (trace : Trace) :
    ((server.createListenSocket answers trace).value = true ↔ answers.Creates) ∧
      ((server.createListenSocket answers trace).value = true →
        0 ≤ (server.createListenSocket answers trace).self.listenSocket) := by
  simp only [createListenSocket, ListenAnswers.Creates]
  cases answers.socket with
  | none =>
      have negative : trace.newSocket none < 0 := show invalidSocket < 0 by decide
      simp [negative]
  | some named =>
      have valid := trace.newSocket_some_nonneg named
      rw [if_neg (Int.not_lt.mpr valid)]
      by_cases refused : answers.reuseAddr < 0
      · rw [if_pos refused]
        refine ⟨iff_of_false Bool.false_ne_true fun creates => ?_, fun made => (by cases made)⟩
        exact absurd creates.2.1 (Int.not_le.mpr refused)
      · rw [if_neg refused]
        by_cases rejected : answers.bind < 0
        · rw [if_pos rejected]
          refine ⟨iff_of_false Bool.false_ne_true fun creates => ?_, fun made => (by cases made)⟩
          exact absurd creates.2.2 (Int.not_le.mpr rejected)
        · rw [if_neg rejected]
          exact ⟨iff_of_true rfl ⟨rfl, Int.not_lt.mp refused, Int.not_lt.mp rejected⟩,
            fun _ => valid⟩

/-- The exits of `Listen`: it has no listening socket, or the second part decides. -/
inductive ListenExit (server : CTCPServer) (msec : Nat) (answers : ListenAnswers) (trace : Trace)
    (result : Listened) : Prop where
  | uncreated (missing : server.listenSocket = invalidSocket) (fails : ¬ answers.Creates)
      (value : result.value = false) (client : result.clientSocket = invalidSocket)
      (creates : Extends Call.Creates trace result.trace)
  | listened (middle : Trace)
      (made : server.listenSocket = invalidSocket → answers.Creates ∧ 0 ≤ result.self.listenSocket)
      (kept : server.listenSocket ≠ invalidSocket → result.self = server)
      (creates : Extends Call.Creates trace middle)
      (exit : result.self.AcceptExit msec answers middle result)

theorem listen_exit (server : CTCPServer) (msec : Nat) (answers : ListenAnswers)
    (trace : Trace) :
    server.ListenExit msec answers trace (server.listen msec answers trace) := by
  simp only [listen]
  by_cases missing : server.listenSocket = invalidSocket
  · rw [if_pos missing]
    have created := server.createListenSocket_created answers trace
    obtain ⟨creates, valid⟩ := server.createListenSocket_value answers trace
    generalize server.createListenSocket answers trace = result at created creates valid ⊢
    cases value : result.value with
    | false =>
        rw [if_neg Bool.false_ne_true]
        rw [value] at creates
        exact .uncreated missing (fun made => (by cases creates.mpr made)) value rfl created.calls
    | true =>
        rw [if_pos rfl]
        have exit := result.self.acceptClient_exit msec answers result.trace
        have self := (result.self.acceptClient_calls msec answers result.trace).1
        refine .listened result.trace (fun _ => ⟨creates.mp value, ?_⟩)
          (fun present => absurd missing present) created.calls ?_
        · rw [self]
          exact valid value
        · rw [self]
          exact exit
  · rw [if_neg missing]
    have exit := server.acceptClient_exit msec answers trace
    have self := (server.acceptClient_calls msec answers trace).1
    refine .listened trace (fun absent => absurd absent missing) (fun _ => self)
      (Extends.refl _ trace) ?_
    rw [self]
    exact exit

/-- The system answers so that `Listen` gets a client. -/
def Accepts (server : CTCPServer) (msec : Nat) (answers : ListenAnswers) : Prop :=
  if server.listenSocket = invalidSocket then answers.Creates ∧ answers.Delivers 0 msec
  else answers.Delivers server.listenSocket msec

instance (server : CTCPServer) (msec : Nat) (answers : ListenAnswers) :
    Decidable (server.Accepts msec answers) :=
  inferInstanceAs (Decidable (if server.listenSocket = invalidSocket then
    answers.Creates ∧ answers.Delivers 0 msec else answers.Delivers server.listenSocket msec))

theorem AcceptExit.value_iff {server : CTCPServer} {msec : Nat} {answers : ListenAnswers}
    {trace : Trace} {result : Listened} (exit : server.AcceptExit msec answers trace result)
    (possible : answers.select.Possible) :
    result.value = true ↔ answers.Delivers server.listenSocket msec := by
  cases exit with
  | turnedAway undelivered value => simp [value, undelivered possible]
  | answered waited listens ready _ _ value =>
      rw [value]
      constructor
      · intro accepts
        exact ⟨listens, fun limited =>
          ⟨(ready possible limited).1, (ready possible limited).2.1⟩, accepts⟩
      · exact fun delivers => delivers.2.2

theorem delivers_of_valid {answers : ListenAnswers} {msec : Nat} {fd other : Socket}
    (valid : 0 ≤ fd) (otherValid : 0 ≤ other) :
    answers.Delivers fd msec ↔ answers.Delivers other msec := by
  simp only [ListenAnswers.Delivers, valid, otherValid]

/-- `Listen` returns true exactly when a client is delivered on a socket that is there
or can be created. -/
theorem listen_value_iff (server : CTCPServer) (msec : Nat) (answers : ListenAnswers)
    (trace : Trace) (possible : answers.select.Possible) :
    (server.listen msec answers trace).value = true ↔ server.Accepts msec answers := by
  have exit := server.listen_exit msec answers trace
  generalize server.listen msec answers trace = result at exit ⊢
  cases exit with
  | uncreated missing fails value =>
      simp [Accepts, missing, fails, value]
  | listened middle made kept _ exit =>
      rw [exit.value_iff possible, Accepts]
      split_ifs with missing
      · obtain ⟨creates, valid⟩ := made missing
        rw [delivers_of_valid valid (Int.le_refl 0)]
        exact ⟨fun delivers => ⟨creates, delivers⟩, fun both => both.2⟩
      · rw [kept missing]

/-- What one `Listen` reports, against the calls it has added. -/
structure Reports (msec : Nat) (answers : ListenAnswers) (added before : Trace)
    (result : Listened) : Prop where
  trace : result.trace = added ++ before
  value : result.value = true ↔ ∃ fd client peer, .accept fd client peer ∈ added ∧ 0 ≤ client
  client : result.value = true → result.clientSocket ∈ result.trace.sockets ∧
    ∃ fd peer later earlier, added = later ++ .accept fd result.clientSocket peer :: earlier ∧
      result.clientSocket ∉ Trace.sockets (earlier ++ before)
  failure : result.value = false → result.clientSocket = invalidSocket
  once : added.countP Call.isAccept ≤ 1
  guarded : ∀ fd client peer, .accept fd client peer ∈ added →
    fd = result.self.listenSocket ∧ (msec = acceptWaitInfDelay ∨
      answers.select.Readable ∧ .fdIsset fd ∈ added ∧
        ∃ timeout, .select (fd + 1) timeout answers.select.result ∈ added)

theorem reports_of_no_accept {msec : Nat} {answers : ListenAnswers} {trace : Trace}
    {result : Listened} (value : result.value = false)
    (client : result.clientSocket = invalidSocket)
    (extended : Extends (fun call : Call => call.isAccept = false) trace result.trace) :
    ∃ added, Reports msec answers added trace result := by
  obtain ⟨added, after, others⟩ := extended
  have never (fd client : Socket) (peer : SockAddrIn) : .accept fd client peer ∉ added :=
    fun member => by cases others _ member
  refine ⟨added, after, ?_, fun succeeded => ?_, fun _ => client, ?_, ?_⟩
  · simp [value, never]
  · rw [value] at succeeded
    cases succeeded
  · rw [List.countP_eq_zero.mpr fun call member => by simp [others call member]]
    omega
  · intro fd client peer member
    exact absurd member (never fd client peer)

theorem sockets_accept (fd : Socket) {client : Socket} (valid : 0 ≤ client) (peer : SockAddrIn)
    (earlier : Trace) :
    Trace.sockets (.accept fd client peer :: earlier) = insert client earlier.sockets := by
  simp [Trace.sockets, Call.socketEvents, valid]

theorem sockets_accept_failed (fd : Socket) {client : Socket} (failed : client < 0)
    (peer : SockAddrIn) (earlier : Trace) :
    Trace.sockets (.accept fd client peer :: earlier) = earlier.sockets := by
  simp [Trace.sockets, Call.socketEvents, Int.not_le.mpr failed]

/-- The client is the descriptor that `accept` has returned, if it has. -/
theorem accepted_client {answers : ListenAnswers} {waited : Trace} {client : Socket}
    (isClient : client = waited.newSocket answers.accept) :
    (answers.accept.isSome = true ↔ 0 ≤ client) ∧
      (0 ≤ client → client ∉ waited.sockets) ∧ (¬ 0 ≤ client → client = invalidSocket) := by
  subst isClient
  cases answers.accept with
  | none =>
      have negative : ¬ 0 ≤ waited.newSocket none := show ¬ 0 ≤ invalidSocket by decide
      exact ⟨iff_of_false Bool.false_ne_true negative, fun valid => absurd valid negative,
        fun _ => rfl⟩
  | some named =>
      have valid := waited.newSocket_some_nonneg named
      exact ⟨iff_of_true rfl valid, fun _ => waited.newSocket_some_not_mem named,
        fun negative => absurd valid negative⟩

/-- An `accept` among calls that are none is the only one. -/
theorem accept_alone (listenSocket client : Socket) (peer : SockAddrIn) {after before : Trace}
    (late : ∀ call ∈ after, call.isAccept = false)
    (early : ∀ call ∈ before, call.isAccept = false) :
    (∀ fd descriptor other,
      .accept fd descriptor other ∈ after ++ .accept listenSocket client peer :: before →
        fd = listenSocket ∧ descriptor = client) ∧
      (after ++ .accept listenSocket client peer :: before).countP Call.isAccept = 1 := by
  constructor
  · intro fd descriptor other member
    rcases List.mem_append.mp member with isLate | member
    · cases late _ isLate
    · rcases List.mem_cons.mp member with same | isEarly
      · cases same
        exact ⟨rfl, rfl⟩
      · cases early _ isEarly
  · have noneLate : after.countP Call.isAccept = 0 :=
      List.countP_eq_zero.mpr fun call member => by simp [late call member]
    have noneEarly : before.countP Call.isAccept = 0 :=
      List.countP_eq_zero.mpr fun call member => by simp [early call member]
    simp [List.countP_append, List.countP_cons, noneLate, noneEarly, Call.isAccept]

theorem listen_reports (server : CTCPServer) (msec : Nat) (answers : ListenAnswers)
    (trace : Trace) (possible : answers.select.Possible) :
    ∃ added, Reports msec answers added trace (server.listen msec answers trace) := by
  have exit := server.listen_exit msec answers trace
  generalize server.listen msec answers trace = result at exit ⊢
  cases exit with
  | uncreated _ _ value client creates =>
      exact reports_of_no_accept value client (creates.mono fun _ => Call.Creates.not_accept)
  | listened middle _ _ creates exit =>
      have before := creates.mono fun _ => Call.Creates.not_accept
      cases exit with
      | turnedAway _ value client awaits =>
          exact reports_of_no_accept value client
            (before.trans (awaits.mono fun _ => Call.Awaits.not_accept))
      | answered waited _ ready awaits client value logs =>
          obtain ⟨accepts, fresh, invalid⟩ := accepted_client client
          rw [← value] at accepts
          obtain ⟨before, isWaited, others⟩ :=
            before.trans (awaits.mono fun _ => Call.Awaits.not_accept)
          obtain ⟨after, isTrace, logged⟩ := logs
          obtain ⟨only, once⟩ := accept_alone result.self.listenSocket result.clientSocket
            answers.peer (fun call late => (logged call late).not_accept) others
          refine ⟨after ++ .accept result.self.listenSocket result.clientSocket answers.peer ::
            before, ?_, ?_, ?_, ?_, ?_, ?_⟩
          · rw [isTrace, isWaited]
            simp
          · rw [accepts]
            constructor
            · intro valid
              exact ⟨_, _, _, List.mem_append_right _ List.mem_cons_self, valid⟩
            · rintro ⟨fd, descriptor, peer, member, valid⟩
              rw [← (only fd descriptor peer member).2]
              exact valid
          · intro succeeded
            have valid := accepts.mp succeeded
            refine ⟨?_, result.self.listenSocket, answers.peer, after, before, rfl, ?_⟩
            · rw [isTrace, Trace.sockets_of_layer ⟨after, rfl, fun call late =>
                Call.Logs.offSockets (logged call late)⟩, sockets_accept _ valid]
              exact Finset.mem_insert_self _ _
            · rw [← isWaited]
              exact fresh valid
          · intro failed
            refine invalid fun valid => ?_
            rw [accepts.mpr valid] at failed
            cases failed
          · exact Nat.le_of_eq once
          · intro fd descriptor peer member
            obtain rfl := (only fd descriptor peer member).1
            refine ⟨rfl, ?_⟩
            by_cases unlimited : msec = acceptWaitInfDelay
            · exact .inl unlimited
            · obtain ⟨-, readable, timeout, waits⟩ := ready possible unlimited
              obtain ⟨early, middle_eq, -⟩ := creates
              have calls : before = .fdIsset result.self.listenSocket ::
                  .select (result.self.listenSocket + 1) timeout answers.select.result ::
                  .fdSet result.self.listenSocket ::
                  .listen result.self.listenSocket answers.listen :: early := by
                rw [waits, middle_eq] at isWaited
                exact (List.append_cancel_right (by simpa using isWaited)).symm
              refine .inr ⟨readable, ?_, timeout, ?_⟩
              · simp [calls]
              · simp [calls]

theorem listen_offOpenssl (server : CTCPServer) (msec : Nat) (answers : ListenAnswers)
    (trace : Trace) :
    Extends (fun call : Call => call.layer ≠ .openssl) trace
      (server.listen msec answers trace).trace := by
  have created := (server.createListenSocket_created answers trace).calls.mono
    fun _ => Call.Creates.offOpenssl
  exact listen_adds created (fun _ _ => Call.Accepts.offOpenssl) msec

/-! Who owns the listening socket. -/

/-- The server has one open socket, in `m_ListenSocket`, or none, and never had two. -/
structure OwnsListener (state : State CTCPServer) : Prop where
  created : state.trace.created =
    if state.self.listenSocket = invalidSocket then ∅ else {state.self.listenSocket}
  single : Each (fun call earlier => (Trace.created (call :: earlier)).card ≤ 1) state.trace

theorem created_of_quiet {before after : Trace}
    (extended : Extends (fun call : Call => call.creationEvents = []) before after) :
    after.created = before.created := by
  rw [Trace.created, Ledger.entries_eq_of_quiet extended, Trace.created]

theorem OwnsListener.of_quiet {state : State CTCPServer} (owns : OwnsListener state)
    {trace : Trace}
    (quiet : Extends (fun call : Call => call.creationEvents = []) state.trace trace) :
    OwnsListener { state with trace } where
  created := (created_of_quiet quiet).trans owns.created
  single := quiet.each owns.single fun call earlier silent before => by
    rw [created_of_quiet (before.cons call silent), owns.created]
    split <;> simp

theorem created_socket (family socktype protocol : Int) {fd : Socket} (valid : 0 ≤ fd)
    (earlier : Trace) :
    Trace.created (.socket family socktype protocol fd :: earlier) = insert fd earlier.created := by
  simp [Trace.created, Call.creationEvents, valid]

theorem OwnsListener.close {state : State CTCPServer} (owns : OwnsListener state) :
    Trace.created (.close state.self.listenSocket :: state.trace) = ∅ := by
  have erases : Trace.created (.close state.self.listenSocket :: state.trace) =
      state.trace.created.erase state.self.listenSocket := by
    simp [Trace.created, Call.creationEvents]
  rw [erases, owns.created]
  split
  · exact Finset.erase_empty _
  · exact Finset.erase_singleton _

theorem oLog_quiet (trace : Trace) (flags : SettingsFlag) (message : String) :
    Extends (fun call : Call => call.creationEvents = []) trace (trace.oLog flags message) :=
  Trace.oLog_extends (Extends.refl _ trace) flags message rfl

theorem createListenSocket_owns {state : State CTCPServer} (owns : OwnsListener state)
    (missing : state.self.listenSocket = invalidSocket) (answers : ListenAnswers) :
    OwnsListener (state.self.createListenSocket answers state.trace).toState := by
  have empty : state.trace.created = ∅ := by
    rw [owns.created, if_pos missing]
  simp only [createListenSocket]
  cases answers.socket with
  | none =>
      have negative : state.trace.newSocket none < 0 := show invalidSocket < 0 by decide
      have failed := (Extends.refl (fun call : Call => call.creationEvents = []) state.trace).cons
        (.socket afInet sockStream 0 invalidSocket) rfl
      have quiet := failed.trans (oLog_quiet _ state.self.eSettingsFlags
        ("[TCPServer][Error] opening socket : " ++ answers.reason))
      rw [if_pos negative]
      have kept := owns.of_quiet quiet
      exact ⟨kept.created.trans (by rw [if_pos missing]; rfl), kept.single⟩
  | some named =>
      have valid := state.trace.newSocket_some_nonneg named
      rw [if_neg (Int.not_lt.mpr valid)]
      generalize state.trace.newSocket (some named) = fd at valid ⊢
      have present : fd ≠ invalidSocket := by
        rintro rfl
        exact absurd valid (by decide)
      have opened : OwnsListener
          { self := { state.self with listenSocket := fd }
            trace := .socket afInet sockStream 0 fd :: state.trace } := by
        have one : Trace.created (.socket afInet sockStream 0 fd :: state.trace) = {fd} := by
          rw [created_socket _ _ _ valid, empty]
          rfl
        exact ⟨one.trans (if_neg present).symm, Nat.le_of_eq (by rw [one]; rfl), owns.single⟩
      have allowed := (Extends.refl (fun call : Call => call.creationEvents = [])
        (.socket afInet sockStream 0 fd :: state.trace)).cons
        (.setsockopt fd (.reuseAddr 1) answers.reuseAddr) rfl
      by_cases refused : answers.reuseAddr < 0
      · rw [if_pos refused]
        have logged := opened.of_quiet (allowed.trans (oLog_quiet _ state.self.eSettingsFlags
          ("[TCPServer][Error] CTCPServer::Listen : " ++
            "Socket error in SO_REUSEADDR call to setsockopt.")))
        have closed := logged.close
        exact ⟨closed.trans (if_pos rfl).symm, Nat.le_of_lt (by rw [closed]; decide),
          logged.single⟩
      · rw [if_neg refused]
        have bound := allowed.cons (.bind fd state.self.servAddr answers.bind) rfl
        by_cases rejected : answers.bind < 0
        · rw [if_pos rejected]
          exact opened.of_quiet (bound.trans (oLog_quiet ..))
        · rw [if_neg rejected]
          exact opened.of_quiet bound

theorem owns_step {state : State CTCPServer} (owns : OwnsListener state) (op : ListenOp) :
    OwnsListener (step state op) := by
  have accepts {state : State CTCPServer} (owns : OwnsListener state) :
      OwnsListener (state.self.acceptClient op.msec op.answers state.trace).toState := by
    have self := (state.self.acceptClient_calls op.msec op.answers state.trace).1
    have calls := state.self.acceptClient_accepts op.msec op.answers state.trace
    have after := owns.of_quiet (calls.mono fun _ => Call.Accepts.uncreating)
    generalize state.self.acceptClient op.msec op.answers state.trace = result at self after ⊢
    refine ⟨?_, after.single⟩
    rw [self]
    exact after.created
  simp only [step, listen]
  by_cases missing : state.self.listenSocket = invalidSocket
  · rw [if_pos missing]
    have created := createListenSocket_owns owns missing op.answers
    split
    · exact accepts created
    · exact created
  · rw [if_neg missing]
    exact accepts owns

theorem owns_init (strPort : String) (eSettings : SettingsFlag) :
    OwnsListener (init strPort eSettings) :=
  ⟨rfl, trivial⟩

/-- In every run of `Listen` each call reports what `accept` did, the server owns at
most its listening socket, and the destructor leaves none. -/
theorem listen_run (strPort : String) (eSettings : SettingsFlag) (operations : List ListenOp)
    (possible : ∀ op ∈ operations, op.answers.select.Possible) :
    let last := operations.foldl step (init strPort eSettings)
    let final := last.self.destroy last.trace
    Runs.Steps step (fun state op => ∃ added, Reports op.msec op.answers added state.trace
        (state.self.listen op.msec op.answers state.trace)) (init strPort eSettings) operations ∧
      Runs.Always step OwnsListener (init strPort eSettings) operations ∧
      Each (fun call earlier => (Trace.created (call :: earlier)).card ≤ 1) final.trace ∧
      final.trace.created = ∅ := by
  intro last final
  have keeps : ∀ state op, OwnsListener state → OwnsListener (step state op) :=
    fun _ op owns => owns_step owns op
  have always := Runs.always_of_inductive keeps (owns_init strPort eSettings) operations
  have reports : ∀ state : State CTCPServer, ∀ op ∈ operations, ∃ added, Reports op.msec op.answers added
      state.trace (state.self.listen op.msec op.answers state.trace) :=
    fun state op member => state.self.listen_reports op.msec op.answers state.trace
      (possible op member)
  have closed : final.trace.created = ∅ := always.last.close
  refine ⟨Runs.steps_of_forall reports _, always, ⟨?_, always.last.single⟩, closed⟩
  exact Nat.le_of_lt (by rw [always.last.close]; decide)

def arriving (select : SelectAnswer) : ListenAnswers where
  socket := some 3
  reuseAddr := 0
  bind := 0
  listen := 0
  select := select
  accept := some 4
  peer := { sinFamily := afInet, sinAddr := 2130706433, sinPort := 50000 }
  reason := ""

theorem listen_run_late_then_ready :
    let operations : List ListenOp :=
      [{ msec := 1000, answers := arriving { result := 0, ready := false } },
        { msec := 1000, answers := arriving { result := 1, ready := true } }]
    (∀ op ∈ operations, op.answers.select.Possible) ∧
      Runs.Always step OwnsListener (init "80" .noFlags) operations ∧
      (operations.foldl step (init "80" .noFlags)).trace.created = {3} ∧
      (operations.foldl step (init "80" .noFlags)).trace.sockets = {3, 4} := by
  intro operations
  have possible : ∀ op ∈ operations, op.answers.select.Possible := by
    simp [operations, SelectAnswer.Possible, arriving]
  exact ⟨possible, (listen_run "80" .noFlags operations possible).2.1, by decide, by decide⟩

end CTCPServer

end SocketCpp
