import SocketCpp.Data.Runs
import SocketCpp.TCPServer

namespace SocketCpp

open Data

/-! On which address a `CTCPServer` listens and accepts, over runs of `Listen`.

`Listen` creates and binds its socket only when it has none.  A failing `bind`
leaves the created socket behind, and the next `Listen` takes it for a bound one. -/

def Call.Accepts (fd : Socket) : Call → Prop
  | .oLog _ | .fdSet _ | .select .. | .fdIsset _ => True
  | .listen pointer _ | .accept pointer _ _ => pointer = fd
  | _ => False

def Call.Creates : Call → Prop
  | .oLog _ | .socket .. | .setsockopt .. | .bind .. | .close _ => True
  | _ => False

/-- `listen` and `accept` are called on an open descriptor bound to this address. -/
def Call.OnAddress (address : SockAddrIn) (call : Call) (earlier : Trace) : Prop :=
  match call with
  | .listen fd _ | .accept fd _ _ =>
      fd ∈ Trace.sockets earlier ∧ Trace.bound fd earlier = some address
  | _ => True

/-- A descriptor that may be listened on, with nothing wrong so far. -/
structure Trace.Bound (address : SockAddrIn) (fd : Socket) (trace : Trace) : Prop where
  isOpen : fd ∈ trace.sockets
  named : Trace.bound fd trace = some address
  calls : Each (Call.OnAddress address) trace

theorem Trace.Bound.accepts {address : SockAddrIn} {fd : Socket} {before after : Trace}
    (start : before.Bound address fd) (extended : Extends (Call.Accepts fd) before after) :
    after.Bound address fd := by
  refine extended.keeps start ?_
  intro call earlier accepts ready
  cases call with
  | oLog | fdSet | select | fdIsset => exact ⟨ready.isOpen, ready.named, trivial, ready.calls⟩
  | listen pointer result =>
      obtain rfl : pointer = fd := accepts
      refine ⟨?_, ready.named, ⟨ready.isOpen, ready.named⟩, ready.calls⟩
      simpa [Trace.sockets, Call.socketEvents] using ready.isOpen
  | accept pointer result peer =>
      obtain rfl : pointer = fd := accepts
      refine ⟨?_, ready.named, ⟨ready.isOpen, ready.named⟩, ready.calls⟩
      have still : pointer ∈ Trace.sockets earlier := ready.isOpen
      simp only [Trace.sockets] at still
      by_cases valid : 0 ≤ result
      · simp [Trace.sockets, Call.socketEvents, valid, still]
      · simp [Trace.sockets, Call.socketEvents, valid, still]
  | _ => exact accepts.elim

theorem Call.WaitsOn.accepts {sd : Socket} {call : Call} (fd : Socket)
    (waits : call.WaitsOn sd) : call.Accepts fd := by
  cases call <;> first | exact waits.elim | trivial

theorem creates_onAddress {address : SockAddrIn} {before after : Trace}
    (calls : Each (Call.OnAddress address) before) (creates : Extends Call.Creates before after) :
    Each (Call.OnAddress address) after :=
  creates.each calls fun call _ creates _ => by
    cases call <;> first | exact creates.elim | trivial

/-- A socket is created and may be named, and `bind` fails. -/
def ListenAnswers.BindFails (answers : ListenAnswers) : Prop :=
  answers.socket.isSome ∧ 0 ≤ answers.reuseAddr ∧ answers.bind < 0

namespace CTCPServer

/-- The second part of `Listen` leaves the server alone; all its calls follow `listen`. -/
theorem acceptClient_calls (server : CTCPServer) (msec : Nat) (answers : ListenAnswers)
    (trace : Trace) :
    (server.acceptClient msec answers trace).self = server ∧
      Extends (Call.Accepts server.listenSocket)
        (.listen server.listenSocket answers.listen :: trace)
        (server.acceptClient msec answers trace).trace := by
  have start := Extends.refl (Call.Accepts server.listenSocket)
    (.listen server.listenSocket answers.listen :: trace)
  have selects := (selectSocket_extends server.listenSocket msec answers.select
    (.listen server.listenSocket answers.listen :: trace)).mono
      fun _ => Call.WaitsOn.accepts server.listenSocket
  simp only [acceptClient]
  split
  · exact ⟨rfl, Trace.oLog_extends start _ _ trivial⟩
  · generalize chosen : (if msec ≠ acceptWaitInfDelay then
      selectSocket server.listenSocket msec answers.select
        (.listen server.listenSocket answers.listen :: trace)
      else (1, .listen server.listenSocket answers.listen :: trace)) = selected
    have waited : Extends (Call.Accepts server.listenSocket)
        (.listen server.listenSocket answers.listen :: trace) selected.2 := by
      rw [← chosen]
      split
      · exact selects
      · exact start
    have accepted := waited.cons
      (.accept server.listenSocket (selected.2.newSocket answers.accept) answers.peer) rfl
    split
    · exact ⟨rfl, Trace.oLog_extends waited _ _ trivial⟩
    · split
      · exact ⟨rfl, Trace.oLog_extends waited _ _ trivial⟩
      · split
        · exact ⟨rfl, Trace.oLog_extends accepted _ _ trivial⟩
        · exact ⟨rfl, Trace.oLog_extends accepted _ _ trivial⟩

theorem acceptClient_accepts (server : CTCPServer) (msec : Nat) (answers : ListenAnswers)
    (trace : Trace) :
    Extends (Call.Accepts server.listenSocket) trace
      (server.acceptClient msec answers trace).trace := by
  have listens : Extends (Call.Accepts server.listenSocket) trace
      (.listen server.listenSocket answers.listen :: trace) := Extends.cons_iff.mpr rfl
  exact listens.trans (server.acceptClient_calls msec answers trace).2

/-- What holds of the calls of both parts holds of a `Listen`. -/
theorem listen_adds {kind : Call → Prop} {server : CTCPServer} {answers : ListenAnswers}
    {trace : Trace} (creates : Extends kind trace (server.createListenSocket answers trace).trace)
    (accepts : ∀ fd (call : Call), call.Accepts fd → kind call) (msec : Nat) :
    Extends kind trace (server.listen msec answers trace).trace := by
  have accepted (other : CTCPServer) (middle : Trace) :
      Extends kind middle (other.acceptClient msec answers middle).trace :=
    (other.acceptClient_accepts msec answers middle).mono (accepts other.listenSocket)
  simp only [listen]
  split_ifs
  · exact creates.trans (accepted _ _)
  · exact creates
  · exact accepted _ _

structure Created (server : CTCPServer) (answers : ListenAnswers) (trace : Trace)
    (result : Result CTCPServer Bool) : Prop where
  servAddr : result.self.servAddr = server.servAddr
  calls : Extends Call.Creates trace result.trace
  made : result.value = true →
    result.self.listenSocket ∈ result.trace.sockets ∧
      Trace.bound result.self.listenSocket result.trace = some server.servAddr
  failed : result.value = false → ¬ answers.BindFails → result.self.listenSocket = invalidSocket
  unbound : answers.BindFails → result.value = false ∧ 0 ≤ result.self.listenSocket ∧
    Trace.bound result.self.listenSocket result.trace = none

theorem bound_oLog (fd : Socket) (trace : Trace) (flags : SettingsFlag) (message : String) :
    Trace.bound fd (trace.oLog flags message) = Trace.bound fd trace := by
  simp only [Trace.oLog]
  split <;> rfl

theorem createListenSocket_created (server : CTCPServer) (answers : ListenAnswers)
    (trace : Trace) : server.Created answers trace (server.createListenSocket answers trace) := by
  have created := (Extends.refl Call.Creates trace).cons
    (.socket afInet sockStream 0 (trace.newSocket answers.socket)) trivial
  simp only [createListenSocket]
  cases answer : answers.socket with
  | none =>
      have negative : trace.newSocket none < 0 := show invalidSocket < 0 by decide
      rw [answer] at created
      rw [if_pos negative]
      refine ⟨rfl, Trace.oLog_extends created _ _ trivial, fun made => (by cases made),
        fun _ _ => rfl, fun fails => ?_⟩
      have some := fails.1
      rw [answer] at some
      cases some
  | some named =>
      have valid := trace.newSocket_some_nonneg named
      rw [answer] at created
      rw [if_neg (Int.not_lt.mpr valid)]
      generalize trace.newSocket (some named) = fd at created valid ⊢
      have allowed := created.cons (.setsockopt fd (.reuseAddr 1) answers.reuseAddr) trivial
      by_cases refused : answers.reuseAddr < 0
      · rw [if_pos refused]
        have logged := Trace.oLog_extends allowed server.eSettingsFlags
          ("[TCPServer][Error] CTCPServer::Listen : " ++
            "Socket error in SO_REUSEADDR call to setsockopt.") trivial
        refine ⟨rfl, logged.cons (.close fd) trivial,
          fun made => (by cases made), fun _ _ => rfl, fun fails => ?_⟩
        have granted := fails.2.1
        omega
      · rw [if_neg refused]
        have named := allowed.cons (.bind fd server.servAddr answers.bind) trivial
        by_cases rejected : answers.bind < 0
        · rw [if_pos rejected]
          have fails : answers.BindFails := ⟨by rw [answer]; rfl, Int.not_lt.mp refused, rejected⟩
          refine ⟨rfl, Trace.oLog_extends named _ _ trivial, fun made => (by cases made),
            fun _ spared => absurd fails spared, fun _ => ⟨rfl, valid, ?_⟩⟩
          rw [bound_oLog]
          simp [Trace.bound, Int.not_le.mpr rejected]
        · rw [if_neg rejected]
          refine ⟨rfl, named, fun _ => ⟨?_, ?_⟩, fun failed => (by cases failed),
            fun fails => absurd fails.2.2 rejected⟩
          · simp [Trace.sockets, Call.socketEvents, valid]
          · simp [Trace.bound, Int.not_lt.mp rejected]

/-! Runs of `Listen`. -/

structure ListenOp where
  msec : Nat
  answers : ListenAnswers

def step (state : State CTCPServer) (op : ListenOp) : State CTCPServer :=
  (state.self.listen op.msec op.answers state.trace).toState

def init (strPort : String) (eSettings : SettingsFlag) : State CTCPServer :=
  { self := new strPort eSettings, trace := [] }

def BindFails (state : State CTCPServer) (op : ListenOp) : Prop :=
  state.self.listenSocket = invalidSocket ∧ op.answers.BindFails

/-- The state between two calls of `Listen` as long as no `bind` has failed. -/
structure Serving (address : SockAddrIn) (state : State CTCPServer) : Prop where
  servAddr : state.self.servAddr = address
  calls : Each (Call.OnAddress address) state.trace
  socket : state.self.listenSocket = invalidSocket ∨
    state.trace.Bound address state.self.listenSocket

variable {address : SockAddrIn} {state : State CTCPServer}

theorem acceptClient_bound {server : CTCPServer} {trace : Trace}
    (ready : trace.Bound address server.listenSocket) (msec : Nat) (answers : ListenAnswers) :
    (server.acceptClient msec answers trace).trace.Bound address server.listenSocket :=
  ready.accepts (server.acceptClient_accepts msec answers trace)

theorem serving_step (serving : Serving address state) {op : ListenOp}
    (binds : ¬ BindFails state op) : Serving address (step state op) := by
  simp only [step, listen]
  by_cases fresh : state.self.listenSocket = invalidSocket
  · rw [if_pos fresh]
    have created := state.self.createListenSocket_created op.answers state.trace
    have spared : ¬ op.answers.BindFails := fun fails => binds ⟨fresh, fails⟩
    have calls := creates_onAddress serving.calls created.calls
    have same := created.servAddr.trans serving.servAddr
    cases value : (state.self.createListenSocket op.answers state.trace).value with
    | true =>
        rw [if_pos rfl]
        obtain ⟨isOpen, named⟩ := created.made value
        rw [serving.servAddr] at named
        have self := (acceptClient_calls
          (state.self.createListenSocket op.answers state.trace).self op.msec op.answers
          (state.self.createListenSocket op.answers state.trace).trace).1
        have bound := acceptClient_bound ⟨isOpen, named, calls⟩ op.msec op.answers
        refine ⟨?_, bound.calls, .inr ?_⟩
        · rw [self]
          exact same
        · rw [self]
          exact bound
    | false =>
        rw [if_neg Bool.false_ne_true]
        exact ⟨same, calls, .inl (created.failed value spared)⟩
  · rw [if_neg fresh]
    have ready := serving.socket.resolve_left fresh
    have self := (acceptClient_calls state.self op.msec op.answers state.trace).1
    have bound := acceptClient_bound ready op.msec op.answers
    refine ⟨?_, bound.calls, .inr ?_⟩
    · rw [self]
      exact serving.servAddr
    · rw [self]
      exact bound

/-- A socket left behind by a failed `bind`. -/
structure LeftUnbound (state : State CTCPServer) : Prop where
  kept : state.self.listenSocket ≠ invalidSocket
  unnamed : Trace.bound state.self.listenSocket state.trace = none

/-- A `Listen` whose `bind` fails makes no wrong call, but leaves its socket. -/
theorem bindFails_step (serving : Serving address state) {op : ListenOp}
    (fails : BindFails state op) :
    Each (Call.OnAddress address) (step state op).trace ∧ LeftUnbound (step state op) := by
  have created := state.self.createListenSocket_created op.answers state.trace
  obtain ⟨value, valid, unnamed⟩ := created.unbound fails.2
  simp only [step, listen]
  rw [if_pos fails.1, if_neg (by rw [value]; exact Bool.false_ne_true)]
  refine ⟨creates_onAddress serving.calls created.calls, ?_, unnamed⟩
  intro invalid
  rw [invalid] at valid
  exact absurd valid (by decide)

theorem leftUnbound_step (left : LeftUnbound state) (op : ListenOp) :
    ¬ Each (Call.OnAddress address) (step state op).trace := by
  simp only [step, listen]
  rw [if_neg left.kept]
  obtain ⟨-, added, after, -⟩ := state.self.acceptClient_calls op.msec op.answers state.trace
  rw [after]
  intro calls
  have listens := (Each.of_append calls).1
  rw [Call.OnAddress, left.unnamed] at listens
  cases listens.2

theorem step_extends (state : State CTCPServer) (op : ListenOp) :
    Extends (fun _ => True) state.trace (step state op).trace := by
  have created := (state.self.createListenSocket_created op.answers state.trace).calls.mono
    fun _ _ => trivial
  exact listen_adds created (fun _ _ _ => trivial) op.msec

theorem onAddress_of_foldl {operations : List ListenOp}
    (calls : Each (Call.OnAddress address) (operations.foldl step state).trace) :
    Each (Call.OnAddress address) state.trace := by
  induction operations generalizing state with
  | nil => exact calls
  | cons op operations ih =>
      obtain ⟨added, after, -⟩ := step_extends state op
      have stepped := ih calls
      rw [after] at stepped
      exact Each.of_append stepped

theorem onAddress_iff (serving : Serving address state) (operations : List ListenOp) :
    Each (Call.OnAddress address) (operations.foldl step state).trace ↔
      Runs.Steps step (fun state op => ¬ BindFails state op) state operations.dropLast := by
  induction operations generalizing state with
  | nil => exact iff_of_true serving.calls trivial
  | cons op operations ih =>
      cases operations with
      | nil =>
          refine iff_of_true ?_ trivial
          by_cases fails : BindFails state op
          · exact (bindFails_step serving fails).1
          · exact (serving_step serving fails).calls
      | cons next rest =>
          rw [List.foldl_cons, List.dropLast_cons_cons, Runs.Steps]
          by_cases fails : BindFails state op
          · have left := (bindFails_step serving fails).2
            refine iff_of_false ?_ fun steps => steps.1 fails
            intro calls
            exact leftUnbound_step left next (onAddress_of_foldl calls)
          · rw [ih (serving_step serving fails)]
            exact ⟨fun steps => ⟨fails, steps⟩, fun steps => steps.2⟩

/-- A server listens and accepts only on its address exactly when no `Listen` but
the last one of the run has its `bind` fail. -/
theorem listens_on_address_iff (strPort : String) (eSettings : SettingsFlag)
    (operations : List ListenOp) :
    Each (Call.OnAddress (new strPort eSettings).servAddr)
        (operations.foldl step (init strPort eSettings)).trace ↔
      Runs.Steps step (fun state op => ¬ BindFails state op) (init strPort eSettings)
        operations.dropLast := by
  have serving : Serving (new strPort eSettings).servAddr (init strPort eSettings) :=
    ⟨rfl, trivial, .inl rfl⟩
  exact onAddress_iff serving operations

/-- `bind` finds the port taken, and the next `Listen` accepts a client on the
socket that was left behind. -/
theorem listen_accepts_unbound :
    let answers : ListenAnswers :=
      { socket := some 3, reuseAddr := 0, bind := -1, listen := 0
        select := { result := 1, ready := true }, accept := some 4
        peer := { sinFamily := afInet, sinAddr := 2130706433, sinPort := 50000 }
        reason := "Address already in use" }
    let first := (new "80" .noFlags).listen acceptWaitInfDelay answers []
    let second := first.self.listen acceptWaitInfDelay answers first.trace
    first.value = false ∧ second.value = true ∧ second.clientSocket = 4 ∧
      second.trace = .accept 3 4 answers.peer :: .listen 3 0 :: first.trace ∧
      Trace.bound 3 first.trace = none := by
  decide

end CTCPServer

end SocketCpp
