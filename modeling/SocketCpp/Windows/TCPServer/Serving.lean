import Mathlib.Data.Finset.Card
import SocketCpp.Data.Runs
import SocketCpp.Windows.TCPServer.AddressInfo

namespace SocketCpp.Windows

open Data

/-! Which sockets a `CTCPServer` of the Windows build uses, over runs with its clients.

Whatever goes wrong in a `Listen` of this build, a socket that it has not bound, or does not
listen on, is closed again.  The POSIX build keeps the one that it could not bind. -/

/-- The sockets that the server has made itself. -/
def Call.creationEvents : Call → List (Ledger.Event Socket)
  | .socket _ _ _ result => if result ≠ invalidSocket then [.acquire result] else []
  | .closesocket sd => [.release sd]
  | _ => []

namespace Trace

def created (trace : Trace) : Finset Socket :=
  Ledger.held (Ledger.entries Call.creationEvents trace)

/-- The address a socket has been bound to since it was made. -/
def bound (sd : Socket) : Trace → Option SockAddrIn
  | [] => none
  | .socket _ _ _ result :: earlier => if result = sd then none else bound sd earlier
  | .bind pointer address result :: earlier =>
      if pointer = sd ∧ result ≠ socketError then some address else bound sd earlier
  | .closesocket closed :: earlier => if closed = sd then none else bound sd earlier
  | _ :: earlier => bound sd earlier

theorem invalid_not_mem (trace : Trace) : invalidSocket ∉ trace.sockets := by
  induction trace with
  | nil => exact Finset.notMem_empty _
  | cons call earlier ih =>
      simp only [sockets] at ih
      cases call with
      | socket family socktype protocol result =>
          by_cases valid : result = invalidSocket
          · simpa [sockets, Call.socketEvents, valid] using ih
          · simpa [sockets, Call.socketEvents, valid, Ne.symm valid] using ih
      | accept sd result peer =>
          by_cases valid : result = invalidSocket
          · simpa [sockets, Call.socketEvents, valid] using ih
          · simpa [sockets, Call.socketEvents, valid, Ne.symm valid] using ih
      | closesocket sd =>
          intro member
          simp only [sockets, Ledger.entries_cons, Call.socketEvents] at member
          exact ih (Finset.mem_of_mem_erase member)
      | _ => simpa [sockets, Call.socketEvents] using ih

end Trace

/-- What is closed or handed to a call is open, and what a call makes is not. -/
def Call.UsesOpen (call : Call) (earlier : Trace) : Prop :=
  match call with
  | .closesocket sd => sd = invalidSocket ∨ sd ∈ earlier.sockets
  | call => ∀ event ∈ call.socketEvents, event.Permitted earlier.sockets

/-- `listen` and `accept` are called on a socket bound to this address. -/
def Call.OnAddress (address : SockAddrIn) (call : Call) (earlier : Trace) : Prop :=
  match call with
  | .listen sd _ | .accept sd _ _ => earlier.bound sd = some address
  | _ => True

structure Call.Sound (address : SockAddrIn) (call : Call) (earlier : Trace) : Prop where
  uses : call.UsesOpen earlier
  onAddress : call.OnAddress address earlier
  single : (Trace.created (call :: earlier)).card ≤ 1

/-- All is well so far, and of its own sockets the server has these open. -/
structure Trace.Tended (address : SockAddrIn) (own : Finset Socket) (trace : Trace) : Prop where
  calls : Each (Call.Sound address) trace
  created : trace.created = own
  few : own.card ≤ 1

/-- The server has made this socket. -/
structure Trace.Made (address : SockAddrIn) (sd : Socket) (trace : Trace) : Prop where
  tended : trace.Tended address {sd}
  isOpen : sd ∈ trace.sockets

structure Trace.Bound (address : SockAddrIn) (sd : Socket) (trace : Trace) : Prop
    extends Trace.Made address sd trace where
  named : trace.bound sd = some address

/-- Calls that use this socket, or none. -/
def Call.Handles (sd : Option Socket) : Call → Prop
  | .recv pointer _ _ _ | .shutdown pointer _ _ | .setsockopt pointer _ _ => sd = some pointer
  | .oLog _ | .getaddrinfo .. | .freeaddrinfo _ | .readAddrInfo _ | .fdSet _ | .select ..
  | .fdIsset _ | .sleep _ => True
  | _ => False

theorem selectSocket_handles (sd : Socket) (msec : Nat) (answer : SelectAnswer) (trace : Trace) :
    Extends (Call.Handles none) trace (selectSocket sd msec answer trace).2 := by
  have selected (timeout : Option Timeval) : Extends (Call.Handles none) trace
      (.select (sd + 1) timeout answer.result :: .fdSet sd :: trace) :=
    ((Extends.refl _ trace).cons (.fdSet sd) trivial).cons
      (.select (sd + 1) timeout answer.result) trivial
  simp only [selectSocket]
  generalize (if 0 < msec then some _ else none : Option Timeval) = timeout
  split_ifs
  · exact selected timeout
  · exact (selected timeout).cons (.fdIsset sd) trivial
  · exact (selected timeout).cons (.fdIsset sd) trivial

theorem recvTurn_handles (sd : Socket) (flags : SettingsFlag) (failure : String) (uSize : Nat)
    (bReadFully : Bool) (state : ReceiveState) (answer : RecvAnswer) :
    Extends (Call.Handles (some sd)) state.trace (Sum.elim ReceiveState.trace
      (fun result => result.trace) (recvTurn sd flags failure uSize bReadFully state answer)) := by
  have called := (Extends.refl (Call.Handles (some sd)) state.trace).cons
    (.recv sd state.total (wrapInt (window uSize state.total)) answer.result) rfl
  simp only [recvTurn]
  split_ifs
  · exact called
  · exact called.cons (.sleep 1) trivial
  · exact called.cons (.sleep 1) trivial
  · exact Trace.oLog_extends called flags failure trivial
  · exact called
  · exact called

namespace Trace

variable {address : SockAddrIn} {own : Finset Socket} {sd : Socket} {handled : Option Socket}
  {trace after : Trace}

theorem newSocket_not_mem (trace : Trace) (answer : Option Nat) :
    trace.newSocket answer ∉ trace.sockets := by
  cases answer with
  | none => exact trace.invalid_not_mem
  | some named => exact trace.newSocket_some_not_mem named

theorem handled_views {call : Call} (handles : call.Handles handled) (earlier : Trace) :
    sockets (call :: earlier) = earlier.sockets ∧ created (call :: earlier) = earlier.created ∧
      bound sd (call :: earlier) = bound sd earlier := by
  cases call <;> first
    | exact handles.elim
    | simp [sockets, created, bound, Call.socketEvents, Call.creationEvents]

theorem sockets_of_handles (handles : Extends (Call.Handles handled) trace after) :
    after.sockets = trace.sockets :=
  handles.view_eq sockets fun _ earlier one => (@handled_views invalidSocket _ _ one earlier).1

/-- A call that makes no socket of the server's own and closes none. -/
theorem Tended.call (tended : Tended address own trace) {call : Call}
    (keeps : call.creationEvents = []) (uses : call.UsesOpen trace)
    (onAddress : call.OnAddress address trace) : Tended address own (call :: trace) := by
  have created : Trace.created (call :: trace) = own := by
    rw [← tended.created, Trace.created, Ledger.entries_cons, keeps]
    rfl
  exact ⟨⟨⟨uses, onAddress, by rw [created]; exact tended.few⟩, tended.calls⟩, created, tended.few⟩

/-- Calls that use an open socket, or none. -/
theorem Tended.handles (tended : Tended address own trace)
    (isOpen : ∀ sd, handled = some sd → sd ∈ trace.sockets)
    (handles : Extends (Call.Handles handled) trace after) : Tended address own after := by
  obtain ⟨added, rfl, kinds⟩ := handles
  induction added with
  | nil => exact tended
  | cons call added ih =>
      have rest := fun other member => kinds other (List.mem_cons_of_mem call member)
      have one := kinds call List.mem_cons_self
      have extended : Extends (Call.Handles handled) trace (added ++ trace) := ⟨added, rfl, rest⟩
      have sockets := sockets_of_handles extended
      cases call with
      | recv pointer | shutdown pointer | setsockopt pointer =>
          have stillOpen : pointer ∈ Trace.sockets (added ++ trace) := by
            rw [sockets]
            exact isOpen pointer one
          refine (ih rest).call rfl ?_ trivial
          simp [Call.UsesOpen, Call.socketEvents, Ledger.Event.Permitted, stillOpen]
      | oLog | getaddrinfo | freeaddrinfo | readAddrInfo | fdSet | select | fdIsset | sleep =>
          exact (ih rest).call rfl (by simp [Call.UsesOpen, Call.socketEvents]) trivial
      | _ => exact one.elim

theorem Tended.log (tended : Tended address own trace) (flags : SettingsFlag)
    (message : String) : Tended address own (trace.oLog flags message) :=
  tended.handles (fun _ none => (by cases none))
    (oLog_extends (Extends.refl (Call.Handles none) trace) flags message trivial)

theorem Tended.close (tended : Tended address own trace)
    (isOpen : sd = invalidSocket ∨ sd ∈ trace.sockets) :
    Tended address (own.erase sd) (.closesocket sd :: trace) := by
  have created : Trace.created (.closesocket sd :: trace) = own.erase sd := by
    rw [← tended.created]
    simp [Trace.created, Call.creationEvents]
  have few : (own.erase sd).card ≤ 1 := Nat.le_trans Finset.card_erase_le tended.few
  exact ⟨⟨⟨isOpen, trivial, by rw [created]; exact few⟩, tended.calls⟩, created, few⟩

theorem Tended.makesNone (tended : Tended address own trace) (family socktype protocol : Int) :
    Tended address own (.socket family socktype protocol invalidSocket :: trace) :=
  tended.call (by simp [Call.creationEvents]) (by simp [Call.UsesOpen, Call.socketEvents]) trivial

theorem Tended.makes (tended : Tended address ∅ trace) (family socktype protocol : Int)
    (valid : sd ≠ invalidSocket) (fresh : sd ∉ trace.sockets) :
    Made address sd (.socket family socktype protocol sd :: trace) := by
  have created : Trace.created (.socket family socktype protocol sd :: trace) = {sd} := by
    have before := tended.created
    simp only [Trace.created] at before
    simp [Trace.created, Call.creationEvents, valid, before]
  refine ⟨⟨⟨⟨?_, trivial, by rw [created]; rfl⟩, tended.calls⟩, created, Nat.le_of_eq rfl⟩, ?_⟩
  · simpa [Call.UsesOpen, Call.socketEvents, valid, Ledger.Event.Permitted] using fresh
  · simp [sockets, Call.socketEvents, valid]

theorem Made.handles (made : trace.Made address sd)
    (isOpen : ∀ sd, handled = some sd → sd ∈ trace.sockets)
    (handles : Extends (Call.Handles handled) trace after) : after.Made address sd where
  tended := made.tended.handles isOpen handles
  isOpen := by
    rw [sockets_of_handles handles]
    exact made.isOpen

/-- The socket of the server is used. -/
theorem Made.use (made : trace.Made address sd) {call : Call} (handles : call.Handles (some sd)) :
    Made address sd (call :: trace) := by
  refine made.handles ?_ ((Extends.refl _ trace).cons call handles)
  rintro other same
  cases same
  exact made.isOpen

theorem Made.log (made : trace.Made address sd) (flags : SettingsFlag) (message : String) :
    (trace.oLog flags message).Made address sd := by
  unfold oLog
  split
  · exact made.use trivial
  · exact made

theorem Made.closes (made : trace.Made address sd) :
    Tended address ∅ (.closesocket sd :: trace) := by
  rw [← Finset.erase_singleton sd]
  exact made.tended.close (.inr made.isOpen)

theorem Made.bind (made : trace.Made address sd) (named : SockAddrIn) (result : Int) :
    Made address sd (.bind sd named result :: trace) := by
  refine ⟨made.tended.call rfl ?_ trivial, ?_⟩
  · simpa [Call.UsesOpen, Call.socketEvents, Ledger.Event.Permitted] using made.isOpen
  · simpa [sockets, Call.socketEvents] using made.isOpen

theorem Bound.handles (ready : trace.Bound address sd)
    (isOpen : ∀ sd, handled = some sd → sd ∈ trace.sockets)
    (handles : Extends (Call.Handles handled) trace after) : after.Bound address sd where
  toMade := ready.toMade.handles isOpen handles
  named := by
    rw [← ready.named]
    exact handles.view_eq (bound sd) fun _ earlier one => (handled_views one earlier).2.2

theorem Bound.quiet (ready : trace.Bound address sd)
    (handles : Extends (Call.Handles none) trace after) : after.Bound address sd :=
  ready.handles (fun _ none => (by cases none)) handles

theorem Bound.listen (ready : trace.Bound address sd) (result : Int) :
    Bound address sd (.listen sd result :: trace) := by
  refine ⟨⟨ready.tended.call rfl ?_ ready.named, ?_⟩, ready.named⟩
  · simpa [Call.UsesOpen, Call.socketEvents, Ledger.Event.Permitted] using ready.isOpen
  · simpa [sockets, Call.socketEvents] using ready.isOpen

theorem Bound.accept (ready : trace.Bound address sd) {client : Socket}
    (fresh : client ∉ trace.sockets) (peer : SockAddrIn) :
    Bound address sd (.accept sd client peer :: trace) := by
  have isOpen : sd ∈ trace.sockets := ready.isOpen
  by_cases valid : client = invalidSocket
  · refine ⟨⟨ready.tended.call rfl ?_ ready.named, ?_⟩, ready.named⟩
    · simpa [Call.UsesOpen, Call.socketEvents, valid, Ledger.Event.Permitted] using isOpen
    · simpa [sockets, Call.socketEvents, valid] using isOpen
  · refine ⟨⟨ready.tended.call rfl ?_ ready.named, ?_⟩, ready.named⟩
    · simpa [Call.UsesOpen, Call.socketEvents, valid, Ledger.Event.Permitted] using ⟨fresh, isOpen⟩
    · simp only [sockets] at isOpen
      simp [sockets, Call.socketEvents, valid, isOpen]

/-- A client is closed. -/
theorem Bound.close (ready : trace.Bound address sd) {client : Socket}
    (isOpen : client ∈ trace.sockets) (different : client ≠ sd) :
    Bound address sd (.closesocket client :: trace) := by
  have own : ({sd} : Finset Socket).erase client = {sd} :=
    Finset.erase_eq_of_notMem fun member => different (Finset.mem_singleton.mp member)
  have tended := ready.tended.close (.inr isOpen)
  rw [own] at tended
  refine ⟨⟨tended, ?_⟩, ?_⟩
  · have still := ready.isOpen
    simp only [sockets] at still
    simp [sockets, Call.socketEvents, Ne.symm different, still]
  · simpa [bound, different] using ready.named

end Trace

namespace CTCPServer

/-- The server has no socket of its own, or one that it has bound. -/
inductive Serves (address : SockAddrIn) : Socket → Trace → Prop where
  | idle {trace : Trace} (tended : trace.Tended address ∅) : Serves address invalidSocket trace
  | listening {sd : Socket} {trace : Trace} (valid : sd ≠ invalidSocket)
      (ready : trace.Bound address sd) : Serves address sd trace

variable {address : SockAddrIn} {server : CTCPServer} {trace : Trace}

theorem Serves.idles (serves : Serves address invalidSocket trace) : trace.Tended address ∅ := by
  cases serves with
  | idle tended => exact tended
  | listening valid => exact absurd rfl valid

theorem Serves.listens {sd : Socket} (serves : Serves address sd trace)
    (valid : sd ≠ invalidSocket) : trace.Bound address sd := by
  cases serves with
  | idle => exact absurd rfl valid
  | listening _ ready => exact ready

/-- A listening socket is made and bound, or nothing is left of it. -/
theorem createListenSocket_serves {answers : ListenAnswers}
    (tended : trace.Tended answers.entry.aiAddr ∅)
    (missing : server.listenSocket = invalidSocket) :
    Serves answers.entry.aiAddr (server.createListenSocket answers trace).self.listenSocket
        (server.createListenSocket answers trace).trace ∧
      ((server.createListenSocket answers trace).value = true →
        (server.createListenSocket answers trace).self.listenSocket ≠ invalidSocket) := by
  have quiet {own : Finset Socket} {earlier : Trace} {call : Call}
      (before : earlier.Tended answers.entry.aiAddr own) (handles : call.Handles none) :
      Trace.Tended answers.entry.aiAddr own (call :: earlier) :=
    before.handles (fun _ none => (by cases none)) ((Extends.refl _ earlier).cons call handles)
  have asked :
      Trace.Tended answers.entry.aiAddr ∅ (.readAddrInfo server.pResultAddrInfo :: trace) :=
    quiet tended trivial
  have fresh := Trace.newSocket_not_mem (.readAddrInfo server.pResultAddrInfo :: trace)
    answers.socket
  simp only [createListenSocket]
  by_cases null : server.pResultAddrInfo = none
  · simp only [if_pos null, missing]
    exact ⟨.idle asked, fun value => absurd value Bool.false_ne_true⟩
  · rw [if_neg null]
    generalize Trace.newSocket _ answers.socket = sd at fresh ⊢
    by_cases failed : sd = invalidSocket
    · rw [if_pos failed, failed]
      have logged := (asked.makesNone answers.entry.aiFamily answers.entry.aiSocktype
        answers.entry.aiProtocol).log server.eSettingsFlags
        ("[TCPServer][Error] socket failed : " ++ toString answers.error)
      exact ⟨.idle (quiet logged trivial), fun value => absurd value Bool.false_ne_true⟩
    · rw [if_neg failed]
      have made := asked.makes answers.entry.aiFamily answers.entry.aiSocktype
        answers.entry.aiProtocol failed fresh
      have allowed : Trace.Made answers.entry.aiAddr sd (.setsockopt sd (.reuseAddr 1)
          answers.reuseAddr :: .socket answers.entry.aiFamily answers.entry.aiSocktype
            answers.entry.aiProtocol sd :: .readAddrInfo server.pResultAddrInfo :: trace) :=
        made.use rfl
      by_cases refused : answers.reuseAddr < 0
      · rw [if_pos refused]
        have closed := (allowed.log server.eSettingsFlags
          "[TCPServer][Error] CTCPServer::Listen : Socket error in call to setsockopt.").closes
        exact ⟨.idle (quiet closed trivial), fun value => absurd value Bool.false_ne_true⟩
      · rw [if_neg refused]
        have read :
            Trace.Made answers.entry.aiAddr sd (.readAddrInfo server.pResultAddrInfo :: _) :=
          allowed.use trivial
        have bound := read.bind answers.entry.aiAddr answers.bind
        have freed :
            Trace.Made answers.entry.aiAddr sd (.freeaddrinfo server.pResultAddrInfo :: _) :=
          bound.use trivial
        by_cases rejected : answers.bind = socketError
        · rw [if_pos rejected]
          have logged := freed.log server.eSettingsFlags
            ("[TCPServer][Error] bind failed : " ++ toString answers.error)
          exact ⟨.idle logged.closes, fun value => absurd value Bool.false_ne_true⟩
        · rw [if_neg rejected]
          refine ⟨.listening failed ⟨freed, ?_⟩, fun _ => failed⟩
          simp [Trace.bound, rejected]

theorem acceptClient_serves (valid : server.listenSocket ≠ invalidSocket)
    (ready : trace.Bound address server.listenSocket) (msec : Nat) (answers : ListenAnswers) :
    Serves address (server.acceptClient msec answers trace).self.listenSocket
      (server.acceptClient msec answers trace).trace := by
  have listening := ready.listen answers.listen
  have logs {earlier : Trace} (before : earlier.Bound address server.listenSocket)
      (message : String) :
      (earlier.oLog server.eSettingsFlags message).Bound address server.listenSocket :=
    before.quiet (Trace.oLog_extends (Extends.refl _ earlier) _ message trivial)
  simp only [acceptClient]
  by_cases deaf : answers.listen = socketError
  · rw [if_pos deaf]
    exact .idle (logs listening _).closes
  · rw [if_neg deaf]
    have waits : Trace.Bound address server.listenSocket
        (if msec ≠ acceptWaitInfDelay then
          selectSocket server.listenSocket msec answers.select
            (.listen server.listenSocket answers.listen :: trace)
        else (1, .listen server.listenSocket answers.listen :: trace)).2 := by
      split
      · exact listening.quiet (selectSocket_handles ..)
      · exact listening
    generalize (if msec ≠ acceptWaitInfDelay then _ else _ : Int × Trace) = selected at waits ⊢
    have accepts := waits.accept (selected.2.newSocket_not_mem answers.accept) answers.peer
    split_ifs
    · exact .listening valid (logs waits _)
    · exact .listening valid (logs waits _)
    · exact .listening valid (logs accepts _)
    · exact .listening valid (logs accepts _)

theorem listen_serves (serves : Serves address server.listenSocket trace) (msec : Nat)
    {answers : ListenAnswers} (found : answers.entry.aiAddr = address) :
    Serves address (server.listen msec answers trace).self.listenSocket
      (server.listen msec answers trace).trace := by
  simp only [listen]
  by_cases missing : server.listenSocket = invalidSocket
  · rw [if_pos missing]
    rw [missing, ← found] at serves
    obtain ⟨created, valid⟩ := @createListenSocket_serves server trace answers serves.idles missing
    rw [← found]
    generalize server.createListenSocket answers trace = result at created valid ⊢
    cases value : result.value with
    | false => exact created
    | true => exact acceptClient_serves (valid value) (created.listens (valid value)) msec answers
  · rw [if_neg missing]
    exact acceptClient_serves missing (serves.listens missing) msec answers

/-- A client is used and disconnected only while it is open, and it is not the listening
socket. -/
def Request.Respects (state : State CTCPServer) : Request → Prop
  | .receive clientSocket .. | .disconnect clientSocket _ =>
      clientSocket ∈ state.trace.sockets ∧ clientSocket ≠ state.self.listenSocket
  | .listen _ => True

/-- The list that the constructor has got begins with this entry. -/
def Request.Finds (entry : AddrInfo) : Request → Prop
  | .listen op => op.answers.entry = entry
  | _ => True

/-- An open client is used. -/
theorem Serves.handles {sd client : Socket} {after : Trace} (serves : Serves address sd trace)
    (isOpen : client ∈ trace.sockets) (handles : Extends (Call.Handles (some client)) trace after) :
    Serves address sd after := by
  have opens : ∀ other, some client = some other → other ∈ trace.sockets := by
    rintro other same
    cases same
    exact isOpen
  cases serves with
  | idle tended => exact .idle (tended.handles opens handles)
  | listening valid ready => exact .listening valid (ready.handles opens handles)

theorem Serves.close {sd client : Socket} (serves : Serves address sd trace)
    (isOpen : client ∈ trace.sockets) (different : client ≠ sd) :
    Serves address sd (.closesocket client :: trace) := by
  cases serves with
  | idle tended =>
      have closed := tended.close (.inr isOpen)
      rw [Finset.erase_empty] at closed
      exact .idle closed
  | listening valid ready => exact .listening valid (ready.close isOpen different)

theorem Serves.destroys {sd : Socket} (serves : Serves address sd trace) :
    Trace.Tended address ∅ (.closesocket sd :: trace) := by
  cases serves with
  | idle tended =>
      have closed := tended.close (.inl rfl)
      rwa [Finset.erase_empty] at closed
  | listening _ ready => exact ready.closes

theorem serve_serves {state : State CTCPServer} {entry : AddrInfo}
    (serves : Serves entry.aiAddr state.self.listenSocket state.trace) {request : Request}
    (finds : request.Finds entry) (respects : request.Respects state) :
    Serves entry.aiAddr (serve state request).self.listenSocket (serve state request).trace := by
  cases request with
  | listen op => exact listen_serves serves op.msec (congrArg AddrInfo.aiAddr finds)
  | receive clientSocket pData uSize bReadFully script =>
      have runs := CallLoop.run_extends ReceiveState.trace (fun result : Received => result.trace)
        (recvTurn_handles clientSocket state.self.eSettingsFlags
          "[TCPServer][Error] Socket error in call to recv." uSize bReadFully)
        (.start pData state.trace) script
      have handles : Extends (Call.Handles (some clientSocket)) state.trace
          (serve state (.receive clientSocket pData uSize bReadFully script)).trace := by
        simp only [serve, receive, receiveEntry]
        split
        · exact Extends.refl _ _
        · exact runs
      exact serves.handles respects.1 handles
  | disconnect clientSocket answer =>
      have shuts := (Extends.refl (Call.Handles (some clientSocket)) state.trace).cons
        (.shutdown clientSocket sdReceive answer.result) rfl
      have shut := serves.handles respects.1 shuts
      simp only [serve, disconnect]
      split
      · exact serves.handles respects.1 (Trace.oLog_extends shuts _ _ trivial)
      · apply shut.close ?_ respects.2
        rw [Trace.sockets_of_handles shuts]
        exact respects.1

theorem serves_new {strPort : String} {eSettings : SettingsFlag} {iResult : Int} {list : Nat}
    {start : State CTCPServer} (constructed : new strPort eSettings iResult list = .ok start)
    (address : SockAddrIn) : Serves address start.self.listenSocket start.trace := by
  unfold new at constructed
  split_ifs at constructed with resolved
  cases constructed
  have empty : Trace.Tended address ∅ [] := ⟨trivial, rfl, Nat.zero_le _⟩
  exact .idle (empty.call rfl (by simp [Call.UsesOpen, Call.socketEvents]) trivial)

/-- In every run of a server it listens and accepts only on the address that it got when it was
constructed, it uses and closes only open sockets, and it has at most one socket of its own,
which the destructor closes. -/
theorem serves_resolved_address {strPort : String} {eSettings : SettingsFlag} {iResult : Int}
    {list : Nat} {start : State CTCPServer}
    (constructed : new strPort eSettings iResult list = .ok start) {entry : AddrInfo}
    {requests : List Request} (finds : ∀ request ∈ requests, request.Finds entry)
    (respects : Runs.Steps serve (fun state request => request.Respects state) start requests) :
    let last := requests.foldl serve start
    let final := last.self.destroy last.trace
    Each (Call.Sound entry.aiAddr) final.trace ∧ final.trace.created = ∅ := by
  intro last final
  have keeps : ∀ (state : State CTCPServer) (request : Request),
      Serves entry.aiAddr state.self.listenSocket state.trace →
        request.Finds entry ∧ request.Respects state →
        Serves entry.aiAddr (serve state request).self.listenSocket (serve state request).trace :=
    fun _ _ serves allowed => serve_serves serves allowed.1 allowed.2
  have allowed := Runs.steps_and (Runs.steps_of_forall (fun _ => finds) start) respects
  have serves : Serves entry.aiAddr last.self.listenSocket last.trace :=
    (Runs.always_of_invariant keeps (serves_new constructed entry.aiAddr) allowed).last
  exact ⟨serves.destroys.calls, serves.destroys.created⟩

theorem serves_resolved_address_two_clients :
    let entry := (listenWith 0).answers.entry
    let requests : List Request :=
      [.listen (listenWith 0), .receive 5 (some (Buffer.ofList [] 0)) 4 true [.data [1, 2]],
        .disconnect 5 ⟨0, 0⟩, .listen (listenWith 0)]
    let last := requests.foldl serve constructedServer
    let final := last.self.destroy last.trace
    new "80" .noFlags 0 1 = .ok constructedServer ∧ last.trace.sockets = {4, 5} ∧
      Each (Call.Sound entry.aiAddr) final.trace ∧ final.trace.created = ∅ := by
  intro entry requests last final
  have constructed : new "80" .noFlags 0 1 = .ok constructedServer := rfl
  have finds : ∀ request ∈ requests, request.Finds entry := by
    simp [requests, entry, Request.Finds]
  have accepted :
      (5 : Socket) ∈ (serve constructedServer (.listen (listenWith 0))).trace.sockets := by
    decide
  have received : (5 : Socket) ∈ (serve (serve constructedServer (.listen (listenWith 0)))
      (.receive 5 (some (Buffer.ofList [] 0)) 4 true [.data [1, 2]])).trace.sockets := by
    decide
  have respects : Runs.Steps serve (fun state request => request.Respects state)
      constructedServer requests :=
    ⟨trivial, ⟨accepted, by decide⟩, ⟨received, by decide⟩, trivial, trivial⟩
  exact ⟨constructed, by decide, serves_resolved_address constructed finds respects⟩

end CTCPServer

end SocketCpp.Windows
