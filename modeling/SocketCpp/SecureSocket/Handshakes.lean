import SocketCpp.Process.Servers
import SocketCpp.SecureSocket.Configuration

namespace SocketCpp

open Data

/-! The handshakes of the secure classes.

Whatever files were set before and whatever failed before, a handshake is made with what
is set now. -/

/-- A handshake is made on a session that was set up so. -/
def Call.ShakesAs (setup : ContextSetup) (call : Call) (earlier : Trace) : Prop :=
  match call with
  | .sslConnect pointer _ | .sslAccept pointer _ =>
      ∃ ssl, pointer = some ssl ∧ earlier.sessionSetup ssl = some setup
  | _ => True

section Quiet

variable {setup : ContextSetup} {kind : Call → Prop} {before after : Trace}

theorem Call.shakesAs_of_passive {call : Call} (passive : call.passive = true) (earlier : Trace) :
    call.ShakesAs setup earlier := by
  cases call <;> trivial

theorem Call.shakesAs_of_layer {call : Call} (other : call.layer ≠ .openssl) (earlier : Trace) :
    call.ShakesAs setup earlier := by
  cases call <;> trivial

theorem continues_of_passive (extended : Extends kind before after)
    (passive : ∀ call, kind call → call.passive = true) :
    Continues (Call.ShakesAs setup) before after :=
  .of_extends extended fun call earlier is => Call.shakesAs_of_passive (passive call is) earlier

theorem continues_of_layer (extended : Extends kind before after)
    (other : ∀ call, kind call → call.layer ≠ .openssl) :
    Continues (Call.ShakesAs setup) before after :=
  .of_extends extended fun call earlier is => Call.shakesAs_of_layer (other call is) earlier

theorem continues_oLog (trace : Trace) (flags : SettingsFlag) (message : String) :
    Continues (Call.ShakesAs setup) trace (trace.oLog flags message) :=
  continues_of_layer (Trace.oLog_calls trace flags message) fun _ => Call.Logs.offOpenssl

/-- A context that has just been created, with the files loaded into it. -/
theorem continues_loadFiles (secure : ASecureSocket) (tag : String) (method : SSLMethod)
    (ctx : Nat) (answers : FileAnswers) (trace : Trace) :
    Continues (Call.ShakesAs setup) trace
      (secure.loadFiles tag (some ctx) answers (.sslCtxNew method (some ctx) :: trace)).2 := by
  have created : Continues (Call.ShakesAs setup) trace (.sslCtxNew method (some ctx) :: trace) :=
    .cons ⟨[], rfl, trivial⟩ _ trivial
  exact created.trans (continues_of_passive
    (secure.loadFiles_extends tag (some ctx) answers (.sslCtxNew method (some ctx) :: trace))
    fun _ => Call.LoadsInto.passive)

theorem continues_shutdownSSL (socket : SSLSocket) (trace : Trace) :
    Continues (Call.ShakesAs setup) trace (shutdownSSL socket trace).trace := by
  unfold shutdownSSL
  split
  · exact ⟨[], rfl, trivial⟩
  · next ssl _ =>
      exact ⟨[.sslCtxFree socket.pCTXSSL, .sslFree (some ssl), .sslShutdown (some ssl)], rfl,
        trivial, trivial, trivial, trivial⟩

end Quiet

namespace CTCPSSLClient

/-- What a handshake is to be made with. -/
def setup (client : CTCPSSLClient) : ContextSetup :=
  client.toASecureSocket.setup client.eOpenSSLProtocol.clientMethod

/-- The setters, and nothing else, change what is configured. -/
def Request.configure (secure : ASecureSocket) : Request → ASecureSocket
  | .setSSLCerthAuth strPath => secure.setSSLCerthAuth strPath
  | .setSSLCertFile strPath => secure.setSSLCertFile strPath
  | .setSSLKeyFile strPath => secure.setSSLKeyFile strPath
  | _ => secure

theorem request_configures (state : State CTCPSSLClient) (req : Request) :
    (request state req).self.toASecureSocket = req.configure state.self.toASecureSocket := by
  cases req with
  | op op =>
      cases op with
      | connect strServer strPort resolution answers =>
          change (connect ..).self.toASecureSocket = _
          cases state.self.connect_exit strServer strPort resolution answers state.trace with
          | unreachable _ self | noContext _ _ self => rw [self]; rfl
          | notLoaded _ _ _ _ _ self => rw [self]; rfl
          | shaken _ _ _ _ _ _ _ _ _ self => rw [self]; rfl
      | disconnect =>
          simp only [request, step, disconnect]
          split <;> rfl
      | send | receive => rfl
  | _ => rfl

theorem startSession_shakesAs {setup : ContextSetup} (client : CTCPSSLClient) {ctx : Nat}
    {trace : Trace} (known : trace.contextSetup ctx = some setup) (answers : TlsAnswers) :
    Continues (Call.ShakesAs setup) trace (client.startSession ctx answers trace).trace := by
  simp only [startSession]
  generalize trace.newSession answers.sslNew = pSSL
  generalize Trace.handshakeResult _ ctx answers = iResult
  have attached : Continues (Call.ShakesAs setup) trace
      (.sslSetFd (some pSSL) client.sslConnectSocket.sockFd :: .sslNew (some ctx) pSSL :: trace) :=
    .cons (.cons ⟨[], rfl, trivial⟩ _ trivial) _ trivial
  have shaken := attached.cons (.sslConnect (some pSSL) iResult)
    ⟨pSSL, rfl, by simp [Trace.sessionSetup, known]⟩
  have reports (after : Trace) (calls : Extends (Call.Reports (some pSSL)) _ after) :=
    shaken.trans (continues_of_passive calls fun _ => Call.Reports.passive)
  split
  · exact reports _ (Trace.oLogAfter_extends (.refl _ _) _ _ rfl trivial)
  · exact reports _ (Trace.oLogAfter_extends ((Extends.refl _ _).cons _ trivial) _ _ rfl trivial)

theorem connect_shakesAs (client : CTCPSSLClient) (strServer strPort : String)
    (resolution : Resolution) (answers : TlsAnswers) (trace : Trace) :
    Continues (Call.ShakesAs client.setup) trace
      (client.connect strServer strPort resolution answers trace).trace := by
  have dials : Continues (Call.ShakesAs client.setup) trace
      (client.tcpClient.connect strServer strPort resolution trace).trace :=
    continues_of_layer (CTCPClient.connect_calls ..) fun _ => Call.Dials.layer_ne
  simp only [connect]
  generalize client.tcpClient.connect strServer strPort resolution trace = tcp at dials ⊢
  split
  · cases created : tcp.trace.newContext answers.ctxNew with
    | none =>
        simp only [secureConnection, ASecureSocket.setUpCtxClient, created]
        have asked := dials.cons (.sslCtxNew client.eOpenSSLProtocol.clientMethod none) trivial
        exact asked.trans (continues_oLog ..)
    | some ctx =>
        let method := client.eOpenSSLProtocol.clientMethod
        have loads := dials.trans (continues_loadFiles client.toASecureSocket "[TCPSSLClient]" method
          ctx answers.files tcp.trace)
        have fresh : Trace.contextSetup ctx (.sslCtxNew method (some ctx) :: tcp.trace) =
          some (.fresh method) := if_pos rfl
        simp only [secureConnection, ASecureSocket.setUpCtxClient, created]
        split
        · next complete =>
            rw [ASecureSocket.loadFiles_value] at complete
            have known := client.loadFiles_setup "[TCPSSLClient]" ctx fresh complete
            exact loads.trans (startSession_shakesAs _ known answers)
        · exact loads
  · exact dials.trans (continues_oLog ..)

theorem request_shakesAs (state : State CTCPSSLClient) (req : Request) :
    Continues (Call.ShakesAs state.self.setup) state.trace (request state req).trace := by
  have timeout (option : SockOption) (failure : String) (iErr : Int) :
      Continues (Call.ShakesAs state.self.setup) state.trace
        (setTimeout state.self.tcpClient.connectSocket state.self.tcpClient.eSettingsFlags option
          failure iErr state.trace).2 :=
    continues_of_layer (setTimeout_extends ..) fun _ => Call.Sets.offOpenssl
  cases req with
  | op op =>
      cases op with
      | connect strServer strPort resolution answers => exact connect_shakesAs ..
      | send pData uSize script =>
          exact continues_of_passive (send_calls ..) fun _ => Call.Exchanges.passive
      | receive pData uSize bReadFully script =>
          exact continues_of_passive (receive_calls ..) fun _ => Call.Exchanges.passive
      | disconnect =>
          simp only [request, step, disconnect]
          split
          · exact ⟨[], rfl, trivial⟩
          · exact (continues_shutdownSSL ..).trans (continues_of_layer
              (CTCPClient.disconnect_calls ..) fun _ => Call.Dials.layer_ne)
  | setSSLCerthAuth | setSSLCertFile | setSSLKeyFile => exact ⟨[], rfl, trivial⟩
  | setRcvTimeout | setRcvTimeoutTimeval | setSndTimeout | setSndTimeoutTimeval => exact timeout ..

/-- What the setters in a run have configured. -/
theorem configured (secure : ASecureSocket) (requests : List Request) :
    (requests.foldl request (init secure)).self.toASecureSocket =
      requests.foldl Request.configure secure :=
  (@List.foldl_hom _ _ _ (fun state : State CTCPSSLClient => state.self.toASecureSocket) _ _ requests
    (init secure) fun state req => (request_configures state req).symm).symm

end CTCPSSLClient

namespace CTCPSSLServer

def setup (server : CTCPSSLServer) : ContextSetup :=
  server.toASecureSocket.setup server.eOpenSSLProtocol.serverMethod

theorem acceptSession_shakesAs {setup : ContextSetup} (server : CTCPSSLServer)
    (clientSocket : SSLSocket) {ctx : Nat} {trace : Trace}
    (known : trace.contextSetup ctx = some setup) (answers : AcceptAnswers) :
    Continues (Call.ShakesAs setup) trace
      (server.acceptSession clientSocket ctx answers trace).trace := by
  simp only [acceptSession]
  generalize trace.newSession answers.sslNew = pSSL
  have attached : Continues (Call.ShakesAs setup) trace
      (.sslSetFd (some pSSL) clientSocket.sockFd :: .sslNew (some ctx) pSSL :: trace) :=
    .cons (.cons ⟨[], rfl, trivial⟩ _ trivial) _ trivial
  have shaken := attached.cons (.sslAccept (some pSSL) answers.handshake)
    ⟨pSSL, rfl, by simp [Trace.sessionSetup, known]⟩
  split
  · have reports (after : Trace) (calls : Extends (Call.Reports (some pSSL)) _ after) :=
      shaken.trans (continues_of_passive calls fun _ => Call.Reports.passive)
    have asks : Call.Reports (some pSSL) (.sslGetError (some pSSL) answers.handshake) := rfl
    apply Continues.trans ?_ (continues_shutdownSSL ..)
    apply reports
    exact Extends.cons (Trace.oLogAfter_extends (.refl _ _) _ _ asks trivial) _ trivial
  · exact shaken

theorem listen_shakesAs (server : CTCPSSLServer) (clientSocket : SSLSocket) (msec : Nat)
    (tcpAnswers : ListenAnswers) (answers : AcceptAnswers) (trace : Trace) :
    Continues (Call.ShakesAs server.setup) trace
      (server.listen clientSocket msec tcpAnswers answers trace).trace := by
  have accepts : Continues (Call.ShakesAs server.setup) trace
      (server.tcpServer.listen msec tcpAnswers trace).trace :=
    continues_of_layer (server.tcpServer.listen_offOpenssl msec tcpAnswers trace) fun _ => id
  simp only [listen]
  generalize server.tcpServer.listen msec tcpAnswers trace = tcp at accepts ⊢
  split
  · cases created : tcp.trace.newContext answers.ctxNew with
    | none =>
        simp only [acceptSecurely, ASecureSocket.setUpCtxServer, created]
        have asked := accepts.cons (.sslCtxNew server.eOpenSSLProtocol.serverMethod none) trivial
        exact asked.trans (continues_oLog ..)
    | some ctx =>
        let method := server.eOpenSSLProtocol.serverMethod
        have loads := accepts.trans (continues_loadFiles server.toASecureSocket "[TCPSSLServer]"
          method ctx answers.files tcp.trace)
        have fresh : Trace.contextSetup ctx (.sslCtxNew method (some ctx) :: tcp.trace) =
          some (.fresh method) := if_pos rfl
        simp only [acceptSecurely, ASecureSocket.setUpCtxServer, created]
        split
        · next complete =>
            rw [ASecureSocket.loadFiles_value] at complete
            have known := server.loadFiles_setup "[TCPSSLServer]" ctx fresh complete
            exact loads.trans (acceptSession_shakesAs _ _ known answers)
        · exact loads
  · exact accepts.trans (continues_oLog ..)

end CTCPSSLServer

namespace ServerPool

theorem request_shakesAs (pool : ServerPool) (request : Request) :
    Continues (Call.ShakesAs pool.server.setup) pool.trace
      (ServerPool.request pool request).trace := by
  have nothing : Continues (Call.ShakesAs pool.server.setup) pool.trace pool.trace :=
    ⟨[], rfl, trivial⟩
  have timeout (slot : Nat) (option : SockOption) (failure : String) (iErr : Int) :
      Continues (Call.ShakesAs pool.server.setup) pool.trace
        (pool.timed slot fun socket => setTimeout socket.sockFd pool.server.tcpServer.eSettingsFlags
          option failure iErr).trace := by
    simp only [timed]
    split
    · exact continues_of_layer (setTimeout_extends ..) fun _ => Call.Sets.offOpenssl
    · exact nothing
  cases request with
  | op op =>
      apply @step_rule
        (fun after => Continues (Call.ShakesAs pool.server.setup) pool.trace after.trace) _ op nothing
      · exact nothing
      · exact fun _ _ _ => nothing
      · exact fun slot msec tcpAnswers answers => CTCPSSLServer.listen_shakesAs ..
      · exact fun slot trace exchanges =>
          continues_of_passive exchanges fun _ => Call.Exchanges.passive
      · intro slot _ _
        exact (continues_shutdownSSL ..).cons _ trivial
  | setSSLCerthAuth | setSSLCertFile | setSSLKeyFile => exact nothing
  | setRcvTimeout | setRcvTimeoutTimeval | setSndTimeout | setSndTimeoutTimeval => exact timeout ..

def Request.configure (secure : ASecureSocket) : Request → ASecureSocket
  | .setSSLCerthAuth strPath => secure.setSSLCerthAuth strPath
  | .setSSLCertFile strPath => secure.setSSLCertFile strPath
  | .setSSLKeyFile strPath => secure.setSSLKeyFile strPath
  | _ => secure

theorem request_configures (pool : ServerPool) (request : Request) :
    (ServerPool.request pool request).server.toASecureSocket =
      request.configure pool.server.toASecureSocket := by
  have timed (slot : Nat) (set : SSLSocket → Trace → Bool × Trace) :
      (pool.timed slot set).server.toASecureSocket = pool.server.toASecureSocket := by
    simp only [timed]
    split <;> rfl
  cases request with
  | op op =>
      apply @step_rule
        (fun after => after.server.toASecureSocket = pool.server.toASecureSocket) _ op rfl rfl
      · exact fun _ _ _ => rfl
      · intro slot msec tcpAnswers answers
        have self := pool.server.listen_self (pool.slots slot).toSSLSocket msec tcpAnswers answers
          pool.trace
        have secure := congrArg CTCPSSLServer.toASecureSocket self
        exact secure
      · exact fun _ _ _ => rfl
      · exact fun _ _ _ => rfl
  | setSSLCerthAuth | setSSLCertFile | setSSLKeyFile => rfl
  | setRcvTimeout | setRcvTimeoutTimeval | setSndTimeout | setSndTimeoutTimeval => exact timed ..

theorem configured (strPort : String) (secure : ASecureSocket) (requests : List Request) :
    (requests.foldl ServerPool.request (init (.new strPort secure))).server.toASecureSocket =
      requests.foldl Request.configure secure :=
  (@List.foldl_hom _ _ _ (fun pool : ServerPool => pool.server.toASecureSocket) _ _ requests
    (init (.new strPort secure)) fun pool request => (pool.request_configures request).symm).symm

end ServerPool

/-- Every handshake of a client or a server is made on a session of the configured method,
with exactly the files that the setters before it have set, and without verification. -/
theorem handshakes_configured (strPort : String) (secure : ASecureSocket) :
    (∀ (requests : List CTCPSSLClient.Request) (req : CTCPSSLClient.Request),
      let state := requests.foldl CTCPSSLClient.request (CTCPSSLClient.init secure)
      let asked := requests.foldl CTCPSSLClient.Request.configure secure
      Continues (Call.ShakesAs (asked.setup asked.eOpenSSLProtocol.clientMethod)) state.trace
        (CTCPSSLClient.request state req).trace) ∧
    ∀ (requests : List ServerPool.Request) (request : ServerPool.Request),
      let pool := requests.foldl ServerPool.request (ServerPool.init (.new strPort secure))
      let asked := requests.foldl ServerPool.Request.configure secure
      Continues (Call.ShakesAs (asked.setup asked.eOpenSSLProtocol.serverMethod)) pool.trace
        (ServerPool.request pool request).trace := by
  constructor
  · intro requests req state asked
    have configured : state.self.toASecureSocket = asked := CTCPSSLClient.configured secure requests
    rw [← configured]
    exact CTCPSSLClient.request_shakesAs state req
  · intro requests request pool asked
    have configured : pool.server.toASecureSocket = asked :=
      ServerPool.configured strPort secure requests
    rw [← configured]
    exact ServerPool.request_shakesAs pool request

end SocketCpp
