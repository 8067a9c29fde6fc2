import Mathlib.Data.List.Forall2
import SocketCpp.Logging

namespace SocketCpp

open Data

/-! The secure classes on top of the plain ones.

To the operating system a secure client is the plain client it contains, and a secure
server the plain server.  What OpenSSL answers makes no difference to it. -/

namespace CTCPSSLClient

/-- The plain client inside, without the messages and without what OpenSSL is asked. -/
def below (state : State CTCPSSLClient) : State CTCPClient :=
  { self := state.self.tcpClient.silent, trace := state.trace.onSockets }

/-- What a request asks of the plain client. -/
def Request.below : Request → List CTCPClient.Op
  | .op (.connect strServer strPort resolution _) => [.connect strServer strPort resolution]
  | .op .disconnect => [.disconnect]
  | .setRcvTimeout msecTimeout iErr => [.setRcvTimeout msecTimeout iErr]
  | .setRcvTimeoutTimeval timeout iErr => [.setRcvTimeoutTimeval timeout iErr]
  | .setSndTimeout msecTimeout iErr => [.setSndTimeout msecTimeout iErr]
  | .setSndTimeoutTimeval timeout iErr => [.setSndTimeoutTimeval timeout iErr]
  | _ => []

/-- Two requests that differ at most in what OpenSSL answers. -/
inductive Request.Alike : Request → Request → Prop where
  | same (request : Request) : Alike request request
  | connect (strServer strPort : String) (resolution : Resolution) (answers others : TlsAnswers) :
      Alike (.op (.connect strServer strPort resolution answers))
        (.op (.connect strServer strPort resolution others))
  | send (pData : Option (Buffer UInt8)) (uSize : Nat) (script others : List SendAnswer) :
      Alike (.op (.send pData uSize script)) (.op (.send pData uSize others))
  | receive (pData : Option (Buffer UInt8)) (uSize : Nat) (bReadFully : Bool)
      (script others : List RecvAnswer) :
      Alike (.op (.receive pData uSize bReadFully script))
        (.op (.receive pData uSize bReadFully others))

theorem Request.Alike.below_eq {request other : Request} (alike : request.Alike other) :
    request.below = other.below := by
  cases alike <;> rfl

theorem below_seen (state : State CTCPSSLClient) (op : CTCPClient.Op) {after : State CTCPSSLClient}
    (self : after.self.tcpClient = (CTCPClient.step ⟨state.self.tcpClient, state.trace⟩ op).self)
    (trace : after.trace.onSockets =
      (CTCPClient.step ⟨state.self.tcpClient, state.trace⟩ op).trace.onSockets) :
    below after = CTCPClient.step (below state) op := by
  have seen := CTCPClient.step_seen (fun _ => false) ⟨state.self.tcpClient, state.trace⟩ op
  rw [below, self, trace]
  exact seen.symm

theorem below_request (state : State CTCPSSLClient) (request : Request) :
    below (CTCPSSLClient.request state request) =
      request.below.foldl CTCPClient.step (below state) := by
  have unchanged {after : Trace} {pSSL : Option Nat}
      (exchanges : Extends (Call.Exchanges pSSL) state.trace after) :
      below { state with trace := after } = below state := by
    rw [below, below, Trace.onSockets_of_layer (exchanges.mono fun _ => Call.Exchanges.layer_ne)]
  cases request with
  | op op =>
      cases op with
      | connect strServer strPort resolution answers =>
          have exit := state.self.connect_exit strServer strPort resolution answers state.trace
          exact below_seen state (.connect strServer strPort resolution)
            (state.self.connect_tcpClient strServer strPort resolution answers state.trace)
            (Trace.onSockets_of_layer exit.offSockets)
      | disconnect =>
          have shut := Trace.onSockets_of_layer
            (shutdownSSL_offSockets state.self.sslConnectSocket state.trace)
          apply below_seen state .disconnect
          · by_cases connected : state.self.tcpClient.eStatus = .connected
            · simp [request, step, disconnect, CTCPClient.step, CTCPClient.disconnect, connected]
            · simp [request, step, disconnect, CTCPClient.step, CTCPClient.disconnect, connected]
          · by_cases connected : state.self.tcpClient.eStatus = .connected
            · simp [request, step, disconnect, CTCPClient.step, CTCPClient.disconnect, connected]
              exact congrArg (List.cons (.close state.self.tcpClient.connectSocket)) shut
            · simp [request, step, disconnect, CTCPClient.step, CTCPClient.disconnect, connected]
      | send pData uSize script => exact unchanged (send_calls ..)
      | receive pData uSize bReadFully script => exact unchanged (receive_calls ..)
  | setSSLCerthAuth | setSSLCertFile | setSSLKeyFile => rfl
  | setRcvTimeout msecTimeout iErr =>
      exact below_seen state (.setRcvTimeout msecTimeout iErr) rfl rfl
  | setRcvTimeoutTimeval timeout iErr =>
      exact below_seen state (.setRcvTimeoutTimeval timeout iErr) rfl rfl
  | setSndTimeout msecTimeout iErr =>
      exact below_seen state (.setSndTimeout msecTimeout iErr) rfl rfl
  | setSndTimeoutTimeval timeout iErr =>
      exact below_seen state (.setSndTimeoutTimeval timeout iErr) rfl rfl

end CTCPSSLClient

namespace ServerPool

/-- The plain server inside, without the messages and without what OpenSSL is asked. -/
def below (pool : ServerPool) : State CTCPServer :=
  { self := pool.server.tcpServer.silent, trace := pool.trace.onSockets }

/-- What a request asks of the plain server. -/
def Request.below (pool : ServerPool) : Request → List CTCPServer.Request
  | .op (.listen slot msec tcpAnswers _) =>
      if slot < pool.count then [.listen msec tcpAnswers] else []
  | .op (.disconnect slot) =>
      if slot < pool.count then [.disconnect (pool.slots slot).sockFd] else []
  | .setRcvTimeout slot msecTimeout iErr =>
      if slot < pool.count then [.setRcvTimeout (pool.slots slot).sockFd msecTimeout iErr] else []
  | .setRcvTimeoutTimeval slot timeout iErr =>
      if slot < pool.count then
        [.setRcvTimeoutTimeval (pool.slots slot).sockFd timeout iErr]
      else []
  | .setSndTimeout slot msecTimeout iErr =>
      if slot < pool.count then [.setSndTimeout (pool.slots slot).sockFd msecTimeout iErr] else []
  | .setSndTimeoutTimeval slot timeout iErr =>
      if slot < pool.count then
        [.setSndTimeoutTimeval (pool.slots slot).sockFd timeout iErr]
      else []
  | _ => []

variable (pool : ServerPool)

theorem below_seen (request : CTCPServer.Request) {after : ServerPool}
    (self : after.server.tcpServer =
      (CTCPServer.serve ⟨pool.server.tcpServer, pool.trace⟩ request).self)
    (trace : after.trace.onSockets =
      (CTCPServer.serve ⟨pool.server.tcpServer, pool.trace⟩ request).trace.onSockets) :
    after.below = CTCPServer.serve pool.below request := by
  have seen := CTCPServer.serve_seen (fun _ => false) ⟨pool.server.tcpServer, pool.trace⟩ request
  rw [below, self, trace]
  exact seen.symm

/-- An operation on an object of the pool asks for one request, and on none for nothing. -/
theorem below_existing {exist : Prop} [Decidable exist] {request : CTCPServer.Request}
    {after : ServerPool} (asks : after.below = CTCPServer.serve pool.below request) :
    (if exist then after else pool).below =
      (if exist then [request] else []).foldl CTCPServer.serve pool.below := by
  by_cases present : exist
  · rw [if_pos present, if_pos present]
    exact asks
  · rw [if_neg present, if_neg present]
    rfl

theorem below_silent {exist : Prop} [Decidable exist] {after : ServerPool}
    (same : after.below = pool.below) : (if exist then after else pool).below = pool.below := by
  split
  · exact same
  · rfl

theorem below_exchanges {pSSL : Option Nat} {trace : Trace}
    (exchanges : Extends (Call.Exchanges pSSL) pool.trace trace) :
    below { pool with trace } = pool.below := by
  rw [below, below, Trace.onSockets_of_layer (exchanges.mono fun _ => Call.Exchanges.layer_ne)]

theorem below_request (request : Request) :
    (ServerPool.request pool request).below =
      (request.below pool).foldl CTCPServer.serve pool.below := by
  cases request with
  | op op =>
      cases op with
      | listen slot msec tcpAnswers answers =>
          have exit := pool.server.listen_exit (pool.slots slot).toSSLSocket msec tcpAnswers answers
            pool.trace
          have self := pool.server.listen_self (pool.slots slot).toSSLSocket msec tcpAnswers answers
            pool.trace
          exact pool.below_existing (pool.below_seen (.listen msec tcpAnswers)
            (congrArg CTCPSSLServer.tcpServer self) (Trace.onSockets_of_layer exit.offSockets))
      | disconnect slot =>
          have shut := Trace.onSockets_of_layer
            (shutdownSSL_offSockets (pool.slots slot).toSSLSocket pool.trace)
          have sockFd := shutdownSSL_sockFd (pool.slots slot).toSSLSocket pool.trace
          apply pool.below_existing
          refine pool.below_seen (.disconnect (pool.slots slot).sockFd) rfl ?_
          simp only [disconnected, CTCPSSLServer.disconnect, CTCPServer.disconnect, sockFd]
          exact congrArg (List.cons (.close (pool.slots slot).sockFd)) shut
      | send slot pData uSize script =>
          exact pool.below_silent (pool.below_exchanges (CTCPSSLServer.send_calls ..))
      | receive slot pData uSize bReadFully script =>
          exact pool.below_silent (pool.below_exchanges (CTCPSSLServer.receive_calls ..))
      | construct => rfl
      | moveConstruct | moveAssign => exact pool.below_silent rfl
  | setSSLCerthAuth | setSSLCertFile | setSSLKeyFile => rfl
  | setRcvTimeout slot msecTimeout iErr =>
      exact pool.below_existing (pool.below_seen (.setRcvTimeout _ msecTimeout iErr) rfl rfl)
  | setRcvTimeoutTimeval slot timeout iErr =>
      exact pool.below_existing (pool.below_seen (.setRcvTimeoutTimeval _ timeout iErr) rfl rfl)
  | setSndTimeout slot msecTimeout iErr =>
      exact pool.below_existing (pool.below_seen (.setSndTimeout _ msecTimeout iErr) rfl rfl)
  | setSndTimeoutTimeval slot timeout iErr =>
      exact pool.below_existing (pool.below_seen (.setSndTimeoutTimeval _ timeout iErr) rfl rfl)

/-- Two requests that differ at most in what OpenSSL answers. -/
inductive Request.Alike : Request → Request → Prop where
  | same (request : Request) : Alike request request
  | listen (slot msec : Nat) (tcpAnswers : ListenAnswers) (answers others : AcceptAnswers) :
      Alike (.op (.listen slot msec tcpAnswers answers)) (.op (.listen slot msec tcpAnswers others))
  | send (slot : Nat) (pData : Option (Buffer UInt8)) (uSize : Nat)
      (script others : List SendAnswer) :
      Alike (.op (.send slot pData uSize script)) (.op (.send slot pData uSize others))
  | receive (slot : Nat) (pData : Option (Buffer UInt8)) (uSize : Nat) (bReadFully : Bool)
      (script others : List RecvAnswer) :
      Alike (.op (.receive slot pData uSize bReadFully script))
        (.op (.receive slot pData uSize bReadFully others))

/-- The number that each object keeps for its descriptor. -/
def sockFds (pool : ServerPool) : Nat → Socket :=
  fun slot => (pool.slots slot).sockFd

/-- Two pools that look the same to the operating system, now and later. -/
structure Alike (first second : ServerPool) : Prop where
  below : first.below = second.below
  sockFds : first.sockFds = second.sockFds
  count : first.count = second.count

theorem sockFds_update (slots : Nat → Slot) (slot : Nat) (value : Slot) :
    (fun place => (Function.update slots slot value place).sockFd) =
      Function.update (fun place => (slots place).sockFd) slot value.sockFd :=
  Function.comp_update (fun value : Slot => value.sockFd) slots slot value

theorem sockFds_move (slots : Nat → Slot) (target source : Nat) :
    (fun place => (Pool.move slots target source Slot.empty place).sockFd) =
      Pool.move (fun place => (slots place).sockFd) target source Slot.empty.sockFd := by
  rw [Pool.move, Pool.move, sockFds_update, sockFds_update]

/-- The numbers after a request. -/
def Request.sockFds (pool : ServerPool) : Request → Nat → Socket
  | .op .construct => Function.update pool.sockFds pool.count Slot.empty.sockFd
  | .op (.moveConstruct source) =>
      if source < pool.count then Pool.move pool.sockFds pool.count source Slot.empty.sockFd
      else pool.sockFds
  | .op (.moveAssign target source) =>
      if target < pool.count ∧ source < pool.count ∧ target ≠ source then
        Pool.move pool.sockFds target source Slot.empty.sockFd
      else pool.sockFds
  | .op (.listen slot msec tcpAnswers _) =>
      if slot < pool.count then
        Function.update pool.sockFds slot
          (pool.below.self.listen msec tcpAnswers pool.below.trace).clientSocket
      else pool.sockFds
  | _ => pool.sockFds

/-- How many objects there are after a request. -/
def Request.count (pool : ServerPool) : Request → Nat
  | .op .construct => pool.count + 1
  | .op (.moveConstruct source) => if source < pool.count then pool.count + 1 else pool.count
  | _ => pool.count

theorem request_sockFds (request : Request) :
    (ServerPool.request pool request).sockFds = request.sockFds pool ∧
      (ServerPool.request pool request).count = request.count pool := by
  have kept {exist : Prop} [Decidable exist] {after : ServerPool}
      (sockFds : after.sockFds = pool.sockFds) (count : after.count = pool.count) :
      (if exist then after else pool).sockFds = pool.sockFds ∧
        (if exist then after else pool).count = pool.count := by
    split
    · exact ⟨sockFds, count⟩
    · exact ⟨rfl, rfl⟩
  cases request with
  | op op =>
      cases op with
      | construct => exact ⟨sockFds_update .., rfl⟩
      | moveConstruct source =>
          simp only [ServerPool.request, step, Request.sockFds, Request.count]
          split
          · exact ⟨sockFds_move .., rfl⟩
          · exact ⟨rfl, rfl⟩
      | moveAssign target source =>
          simp only [ServerPool.request, step, Request.sockFds, Request.count]
          split
          · exact ⟨sockFds_move .., rfl⟩
          · exact ⟨rfl, rfl⟩
      | listen slot msec tcpAnswers answers =>
          have seen := congrArg Listened.clientSocket (CTCPServer.listen_seen (fun _ => false)
            pool.server.tcpServer pool.trace msec tcpAnswers)
          have client : (pool.below.self.listen msec tcpAnswers pool.below.trace).clientSocket =
              (pool.server.tcpServer.listen msec tcpAnswers pool.trace).clientSocket := seen
          simp only [ServerPool.request, step, Request.sockFds, Request.count]
          split
          · refine ⟨(sockFds_update ..).trans ?_, rfl⟩
            simp only [client, CTCPSSLServer.listen_sockFd]
            rfl
          · exact ⟨rfl, rfl⟩
      | send | receive => exact kept rfl rfl
      | disconnect slot =>
          refine kept ((sockFds_update ..).trans ?_) rfl
          simp only [CTCPSSLServer.disconnect, shutdownSSL_sockFd]
          exact Function.update_eq_self slot pool.sockFds
  | setSSLCerthAuth | setSSLCertFile | setSSLKeyFile => exact ⟨rfl, rfl⟩
  | setRcvTimeout | setRcvTimeoutTimeval | setSndTimeout | setSndTimeoutTimeval =>
      exact kept rfl rfl

variable {first second : ServerPool}

/-- What a request asks of the plain server, and what it does to the numbers, does not depend on
what OpenSSL answers. -/
theorem Alike.request (alike : first.Alike second) {request other : Request}
    (same : request.Alike other) :
    (ServerPool.request first request).Alike (ServerPool.request second other) := by
  obtain ⟨below, sockFds, count⟩ := alike
  have descriptor (slot : Nat) : (first.slots slot).sockFd = (second.slots slot).sockFd :=
    congrFun sockFds slot
  have asks : request.below first = other.below second ∧
      request.sockFds first = other.sockFds second ∧
      request.count first = other.count second := by
    cases same with
    | listen | send | receive =>
        simp [Request.below, Request.sockFds, Request.count, below, sockFds, count]
    | same =>
        rcases request with ⟨⟨⟩⟩ <;>
          simp [Request.below, Request.sockFds, Request.count, below, sockFds, count, descriptor]
  refine ⟨?_, ?_, ?_⟩
  · rw [below_request, below_request, below, asks.1]
  · rw [(first.request_sockFds request).1, (second.request_sockFds other).1, asks.2.1]
  · rw [(first.request_sockFds request).2, (second.request_sockFds other).2, asks.2.2]

theorem Alike.foldl (alike : first.Alike second) {requests others : List Request}
    (same : List.Forall₂ Request.Alike requests others) :
    (requests.foldl ServerPool.request first).Alike (others.foldl ServerPool.request second) :=
  List.rel_foldl (fun _ _ alike _ _ same => alike.request same) alike same

theorem permits {setters : Bool} {pool : ServerPool} (attended : Attended setters pool)
    {request : Request}
    (respects : request.Respects pool) :
    Runs.Steps CTCPServer.serve (fun state request => request.Respects state) pool.below
      (request.below pool) := by
  have single {exist : Prop} [Decidable exist] {asked : CTCPServer.Request}
      (permitted : exist → asked.Respects pool.below) :
      Runs.Steps CTCPServer.serve (fun state request => request.Respects state) pool.below
        (if exist then [asked] else []) := by
    split
    · next present => exact ⟨permitted present, trivial⟩
    · trivial
  cases request with
  | op op =>
      cases op with
      | disconnect slot =>
          apply single
          intro exist valid
          obtain ⟨identity, found⟩ := Option.ne_none_iff_exists'.mp respects
          have isOpen := Trace.mem_sockets_of_connection (attended.owns.own slot identity found)
          refine ⟨?_, attended.apart slot respects⟩
          rw [below, Trace.onSockets, Trace.sockets_seen]
          exact isOpen
      | listen => exact single fun _ => trivial
      | _ => trivial
  | setSSLCerthAuth | setSSLCertFile | setSSLKeyFile => trivial
  | setRcvTimeout | setRcvTimeoutTimeval | setSndTimeout | setSndTimeoutTimeval =>
      exact single fun _ => trivial

end ServerPool

namespace Component

/-- The plain object inside, with what is asked of it. -/
def plain : Component → Component
  | client _ operations => client .noFlags operations
  | secureClient secure operations =>
      client .noFlags (Runs.lowered CTCPSSLClient.request (fun _ request => request.below)
        (CTCPSSLClient.init secure) operations)
  | server strPort _ operations => server strPort .noFlags operations
  | secureServer strPort secure operations =>
      server strPort .noFlags (Runs.lowered ServerPool.request ServerPool.Request.below
        (ServerPool.init (.new strPort secure)) operations)

/-- Two objects with runs that differ at most in what OpenSSL answers. -/
inductive Alike : Component → Component → Prop where
  | same (component : Component) : Alike component component
  | secureClient (secure : ASecureSocket) {operations others : List CTCPSSLClient.Request}
      (same : List.Forall₂ CTCPSSLClient.Request.Alike operations others) :
      Alike (.secureClient secure operations) (.secureClient secure others)
  | secureServer (strPort : String) (secure : ASecureSocket)
      {operations others : List ServerPool.Request}
      (same : List.Forall₂ ServerPool.Request.Alike operations others) :
      Alike (.secureServer strPort secure operations) (.secureServer strPort secure others)

theorem secureClient_onSockets (secure : ASecureSocket)
    (operations : List CTCPSSLClient.Request) :
    (secureClient secure operations).plain.trace =
      (secureClient secure operations).trace.onSockets := by
  have last := Runs.below_foldl CTCPSSLClient.below_request (CTCPSSLClient.init secure) operations
  have closing := CTCPSSLClient.below_request
    (operations.foldl CTCPSSLClient.request (CTCPSSLClient.init secure)) (.op .disconnect)
  rw [last] at closing
  rw [plain, trace, trace, CTCPClient.destroy_eq_disconnect, CTCPSSLClient.destroy_trace]
  exact (congrArg State.trace closing).symm

/-- What a secure server asks of the operating system is asked by the plain one inside it. -/
theorem secureServer_onSockets (strPort : String) (secure : ASecureSocket)
    (operations : List ServerPool.Request) :
    (secureServer strPort secure operations).trace.onSockets =
      let last := (operations.foldl ServerPool.request
        (ServerPool.init (.new strPort secure))).below
      (last.self.destroy last.trace).trace :=
  rfl

/-- What OpenSSL answers changes nothing of what is asked of the operating system. -/
theorem Alike.onSockets_eq {component other : Component} (alike : component.Alike other) :
    other.trace.onSockets = component.trace.onSockets := by
  cases alike with
  | same => rfl
  | @secureClient secure operations others same =>
      have lowered : Runs.lowered CTCPSSLClient.request (fun _ request => request.below)
            (CTCPSSLClient.init secure) others =
          Runs.lowered CTCPSSLClient.request (fun _ request => request.below)
            (CTCPSSLClient.init secure) operations := by
        rw [Runs.lowered_eq_flatMap, Runs.lowered_eq_flatMap]
        induction same with
        | nil => rfl
        | cons same rest ih => rw [List.flatMap_cons, List.flatMap_cons, same.below_eq, ih]
      rw [← secureClient_onSockets, ← secureClient_onSockets, plain, plain, lowered]
  | secureServer strPort secure same =>
      have start : (ServerPool.init (.new strPort secure)).Alike
          (ServerPool.init (.new strPort secure)) := ⟨rfl, rfl, rfl⟩
      rw [secureServer_onSockets, secureServer_onSockets, (start.foldl same).below]

/-- To the operating system a secure object does what the plain object inside does, from its
construction to its destructor, and does the same whatever OpenSSL answers. -/
theorem plain_trace (component : Component) :
    component.plain.trace = component.trace.onSockets ∧
      ∀ other, component.Alike other → other.trace.onSockets = component.trace.onSockets := by
  refine ⟨?_, fun other alike => alike.onSockets_eq⟩
  cases component with
  | client eSettings operations => exact client_silent _ eSettings operations
  | server strPort eSettings operations => exact server_silent _ strPort eSettings operations
  | secureClient secure operations => exact secureClient_onSockets secure operations
  | secureServer strPort secure operations =>
      have last := Runs.below_foldl ServerPool.below_request
        (ServerPool.init (.new strPort secure)) operations
      have start : ServerPool.below (ServerPool.init (.new strPort secure)) =
          CTCPServer.init strPort .noFlags := rfl
      rw [secureServer_onSockets, plain, trace, ← start, ← last]

/-- One client comes, and is disconnected whatever becomes of its handshake. -/
def shakingServer (handshake : Int) : Component :=
  .secureServer "443" CTCPSSLServer.plainServer.toASecureSocket
    [.op .construct,
      .op (.listen 0 1000 (CTCPServer.arriving { result := 1, ready := true })
        (CTCPSSLServer.handshakeWith handshake)),
      .op (.disconnect 0)]

theorem plain_trace_refused_handshake :
    .sslFree (some 2) ∈ (shakingServer (-1)).trace ∧ .close 4 ∈ (shakingServer 1).trace.onSockets ∧
      (shakingServer (-1)).trace.onSockets = (shakingServer 1).trace.onSockets := by
  refine ⟨by decide, by decide, (plain_trace (shakingServer 1)).2 _ (.secureServer _ _ ?_)⟩
  exact .cons (.same _) (.cons (.listen ..) (.cons (.same _) .nil))

/-- A secure server asks of the plain one inside only what that one allows. -/
theorem plain_respects (component : Component) (respects : component.Respects) :
    component.plain.Respects := by
  cases component with
  | client | secureClient => trivial
  | server strPort eSettings operations =>
      refine Runs.steps_map (CTCPServer.serve_seen fun _ => false) (fun state request respects => ?_)
        respects
      cases request with
      | receive | send | disconnect =>
          intro valid
          obtain ⟨isOpen, other⟩ := respects valid
          refine ⟨?_, other⟩
          rw [State.seen, Trace.sockets_seen]
          exact isOpen
      | _ => trivial
  | secureServer strPort secure operations =>
      -- The setters of the timeouts need not go through what is open.
      have keeps := fun pool request (attended : ServerPool.Attended false pool)
        (respects : ServerPool.Request.Respects pool request) =>
          ServerPool.attended_request attended respects (absurd · Bool.false_ne_true)
      exact Runs.steps_lowered ServerPool.below_request keeps
        (fun pool request attended respects => ServerPool.permits attended respects)
        (ServerPool.attended_init strPort secure) respects

/-- One client comes and is disconnected. -/
def exampleRequests : List ServerPool.Request :=
  let ready := CTCPServer.arriving { result := 1, ready := true }
  [.op .construct, .op (.listen 0 1000 ready (CTCPSSLServer.handshakeWith 1)), .op (.disconnect 0)]

def exampleServer : Component :=
  .secureServer "443" CTCPSSLServer.plainServer.toASecureSocket exampleRequests

theorem plain_respects_one_client :
    .close 4 ∈ exampleServer.plain.trace ∧ exampleServer.plain.Respects := by
  let pool := (exampleRequests.take 2).foldl ServerPool.request
    (ServerPool.init (.new "443" CTCPSSLServer.plainServer.toASecureSocket))
  have holds : (pool.slots 0).accepted ≠ none := by decide
  have respects : exampleServer.Respects := ⟨trivial, trivial, holds, trivial⟩
  exact ⟨by decide, plain_respects exampleServer respects⟩

end Component

end SocketCpp
