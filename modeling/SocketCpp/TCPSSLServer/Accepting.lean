import SocketCpp.SecureSocket.Objects
import SocketCpp.TCPSSLServer
import SocketCpp.TCPServer.Listening

namespace SocketCpp

open Data

/-! What one `Listen` of a `CTCPSSLServer` leaves behind: one case for each exit.

Only the refused handshake shuts anything down, and no exit behind the TCP
connection closes it. -/

/-- The context is created, the files load and the handshake completes. -/
def AcceptAnswers.Completes (answers : AcceptAnswers) (secure : ASecureSocket) : Prop :=
  answers.ctxNew.isSome ∧ secure.loads answers.files = true ∧ 0 < answers.handshake

namespace CTCPSSLServer

/-- The fields of a client once a context has been asked for. -/
def withContext (server : CTCPSSLServer) (clientSocket : SSLSocket) (fd : Socket)
    (ctx : Option Nat) : SSLSocket :=
  { clientSocket with
    sockFd := fd
    pMTHDSSL := some server.eOpenSSLProtocol.serverMethod
    pCTXSSL := ctx }

/-- The exits of `Listen`, given how the TCP connection went. -/
inductive Exit (server : CTCPSSLServer) (clientSocket : SSLSocket) (answers : AcceptAnswers)
    (tcp : Listened) (result : SSLListened) : Prop where
  | notAccepted (failed : tcp.value = false) (value : result.value = false)
      (socket : result.clientSocket = { clientSocket with sockFd := tcp.clientSocket })
      (calls : Extends Call.Logs tcp.trace result.trace)
  | noContext (accepted : tcp.value = true) (none : answers.ctxNew = none)
      (value : result.value = false)
      (socket : result.clientSocket = server.withContext clientSocket tcp.clientSocket .none)
      (calls : Extends Call.Logs
        (.sslCtxNew server.eOpenSSLProtocol.serverMethod .none :: tcp.trace) result.trace)
  | notLoaded (ctx : Nat) (accepted : tcp.value = true) (fresh : ctx ∉ tcp.trace.contexts)
      (fails : server.loads answers.files = false) (value : result.value = false)
      (socket : result.clientSocket = server.withContext clientSocket tcp.clientSocket (some ctx))
      (calls : Extends (Call.LoadsInto (some ctx))
        (.sslCtxNew server.eOpenSSLProtocol.serverMethod (some ctx) :: tcp.trace) result.trace)
  | refused (ctx pSSL : Nat) (loaded shaken : Trace) (accepted : tcp.value = true)
      (fresh : ctx ∉ tcp.trace.contexts) (freshSession : pSSL ∉ loaded.sessions)
      (refusal : answers.handshake ≤ 0) (value : result.value = false)
      (socket : result.clientSocket =
        { server.withContext clientSocket tcp.clientSocket (some ctx) with pSSL := none })
      (files : Extends (Call.LoadsInto (some ctx))
        (.sslCtxNew server.eOpenSSLProtocol.serverMethod (some ctx) :: tcp.trace) loaded)
      (calls : Extends (Call.Reports (some pSSL))
        (.sslAccept (some pSSL) answers.handshake :: .sslSetFd (some pSSL) tcp.clientSocket ::
          .sslNew (some ctx) pSSL :: loaded) shaken)
      (trace : result.trace = .sslCtxFree (some ctx) :: .sslFree (some pSSL) ::
        .sslShutdown (some pSSL) :: shaken)
  | secured (ctx pSSL : Nat) (loaded : Trace) (accepted : tcp.value = true)
      (fresh : ctx ∉ tcp.trace.contexts) (freshSession : pSSL ∉ loaded.sessions)
      (completes : answers.Completes server.toASecureSocket) (value : result.value = true)
      (socket : result.clientSocket =
        { server.withContext clientSocket tcp.clientSocket (some ctx) with pSSL := some pSSL })
      (files : Extends (Call.LoadsInto (some ctx))
        (.sslCtxNew server.eOpenSSLProtocol.serverMethod (some ctx) :: tcp.trace) loaded)
      (trace : result.trace = .sslAccept (some pSSL) answers.handshake ::
        .sslSetFd (some pSSL) tcp.clientSocket :: .sslNew (some ctx) pSSL :: loaded)

theorem listen_exit (server : CTCPSSLServer) (clientSocket : SSLSocket) (msec : Nat)
    (tcpAnswers : ListenAnswers) (answers : AcceptAnswers) (trace : Trace) :
    server.Exit clientSocket answers (server.tcpServer.listen msec tcpAnswers trace)
      (server.listen clientSocket msec tcpAnswers answers trace) := by
  simp only [listen]
  generalize server.tcpServer.listen msec tcpAnswers trace = tcp
  cases accepted : tcp.value with
  | false =>
      rw [if_neg Bool.false_ne_true]
      exact .notAccepted accepted rfl rfl (Trace.oLog_calls ..)
  | true =>
      rw [if_pos rfl]
      simp only [acceptSecurely, ASecureSocket.setUpCtxServer]
      cases created : answers.ctxNew with
      | none => exact .noContext accepted created rfl rfl (Trace.oLog_calls ..)
      | some named =>
          obtain ⟨ctx, isNew⟩ : ∃ ctx, tcp.trace.newContext (some named) = some ctx := ⟨_, rfl⟩
          have fresh := Trace.newContext_not_mem isNew
          simp only [isNew]
          have files := server.loadFiles_extends "[TCPSSLServer]" (some ctx) answers.files
            (.sslCtxNew server.eOpenSSLProtocol.serverMethod (some ctx) :: tcp.trace)
          have value := server.loadFiles_value "[TCPSSLServer]" (some ctx) answers.files
            (.sslCtxNew server.eOpenSSLProtocol.serverMethod (some ctx) :: tcp.trace)
          generalize server.loadFiles "[TCPSSLServer]" (some ctx) answers.files
            (.sslCtxNew server.eOpenSSLProtocol.serverMethod (some ctx) :: tcp.trace) = loaded
            at files value ⊢
          cases loads : loaded.1 with
          | false =>
              rw [if_neg Bool.false_ne_true]
              exact .notLoaded ctx accepted fresh (value.symm.trans loads) rfl rfl files
          | true =>
              rw [if_pos rfl]
              have freshSession := loaded.2.newSession_not_mem answers.sslNew
              simp only [acceptSession]
              generalize loaded.2.newSession answers.sslNew = pSSL at freshSession ⊢
              by_cases refusal : answers.handshake ≤ 0
              · rw [if_pos refusal]
                have shaken := Extends.refl (Call.Reports (some pSSL))
                  (.sslAccept (some pSSL) answers.handshake ::
                    .sslSetFd (some pSSL) tcp.clientSocket :: .sslNew (some ctx) pSSL :: loaded.2)
                have asks : Call.Reports (some pSSL)
                    (.sslGetError (some pSSL) answers.handshake) := rfl
                have logged := Trace.oLogAfter_extends shaken server.eSettingsFlags
                  ("[TCPSSLServer][Error] accept failed. (Error=" ++
                    toString answers.handshake ++ " | " ++ getSSLErrorString answers.error ++ ")")
                  asks trivial
                have reported := logged.cons .errPrintErrors trivial
                exact .refused ctx pSSL loaded.2 _ accepted fresh freshSession refusal rfl rfl files
                  reported rfl
              · rw [if_neg refusal]
                have completes : answers.Completes server.toASecureSocket :=
                  ⟨by rw [created]; rfl, value.symm.trans loads, Int.not_le.mp refusal⟩
                exact .secured ctx pSSL loaded.2 accepted fresh freshSession completes rfl rfl files
                  rfl

theorem Exit.offSockets {server : CTCPSSLServer} {clientSocket : SSLSocket}
    {answers : AcceptAnswers} {tcp : Listened} {result : SSLListened}
    (exit : server.Exit clientSocket answers tcp result) :
    Extends (fun call : Call => call.layer ≠ .sockets) tcp.trace result.trace := by
  have start := Extends.refl (fun call : Call => call.layer ≠ .sockets) tcp.trace
  have created (ctx : Option Nat) :=
    start.cons (.sslCtxNew server.eOpenSSLProtocol.serverMethod ctx) (by simp [Call.layer])
  have shakes {ctx pSSL : Nat} {loaded : Trace} (files : Extends (Call.LoadsInto (some ctx))
      (.sslCtxNew server.eOpenSSLProtocol.serverMethod (some ctx) :: tcp.trace) loaded) :
      Extends (fun call : Call => call.layer ≠ .sockets) tcp.trace
        (.sslAccept (some pSSL) answers.handshake :: .sslSetFd (some pSSL) tcp.clientSocket ::
          .sslNew (some ctx) pSSL :: loaded) := by
    have configured := (created (some ctx)).trans (files.mono fun _ => Call.LoadsInto.layer_ne)
    have new := configured.cons (.sslNew (some ctx) pSSL) (by simp [Call.layer])
    have set := new.cons (.sslSetFd (some pSSL) tcp.clientSocket) (by simp [Call.layer])
    exact set.cons (.sslAccept (some pSSL) answers.handshake) (by simp [Call.layer])
  cases exit with
  | notAccepted _ _ _ calls => exact calls.mono fun _ => Call.Logs.offSockets
  | noContext _ _ _ _ calls =>
      exact (created none).trans (calls.mono fun _ => Call.Logs.offSockets)
  | notLoaded ctx _ _ _ _ _ calls =>
      exact (created (some ctx)).trans (calls.mono fun _ => Call.LoadsInto.layer_ne)
  | refused ctx pSSL loaded shaken _ _ _ _ _ _ files calls trace =>
      have reported := (shakes files).trans (calls.mono fun _ => Call.Reports.layer_ne)
      have shut := reported.cons (.sslShutdown (some pSSL)) (by simp [Call.layer])
      have freed := shut.cons (.sslFree (some pSSL)) (by simp [Call.layer])
      rw [trace]
      exact freed.cons (.sslCtxFree (some ctx)) (by simp [Call.layer])
  | secured ctx pSSL loaded _ _ _ _ _ _ files trace =>
      rw [trace]
      exact shakes files

/-- Whatever happens to the session, the client keeps the descriptor of the connection. -/
theorem listen_sockFd (server : CTCPSSLServer) (clientSocket : SSLSocket) (msec : Nat)
    (tcpAnswers : ListenAnswers) (answers : AcceptAnswers) (trace : Trace) :
    (server.listen clientSocket msec tcpAnswers answers trace).clientSocket.sockFd =
      (server.tcpServer.listen msec tcpAnswers trace).clientSocket := by
  cases server.listen_exit clientSocket msec tcpAnswers answers trace with
  | notAccepted _ _ socket => rw [socket]
  | noContext _ _ _ socket => rw [socket]; rfl
  | notLoaded _ _ _ _ _ socket => rw [socket]; rfl
  | refused _ _ _ _ _ _ _ _ _ socket => rw [socket]; rfl
  | secured _ _ _ _ _ _ _ _ socket => rw [socket]; rfl

theorem listen_value_iff (server : CTCPSSLServer) (clientSocket : SSLSocket) (msec : Nat)
    (tcpAnswers : ListenAnswers) (answers : AcceptAnswers) (trace : Trace)
    (possible : tcpAnswers.select.Possible) :
    (server.listen clientSocket msec tcpAnswers answers trace).value = true ↔
      server.tcpServer.Accepts msec tcpAnswers ∧ answers.Completes server.toASecureSocket := by
  have accepts := server.tcpServer.listen_value_iff msec tcpAnswers trace possible
  rw [← accepts]
  cases server.listen_exit clientSocket msec tcpAnswers answers trace with
  | notAccepted failed value => simp [failed, value]
  | noContext accepted none value => simp [accepted, value, none, AcceptAnswers.Completes]
  | notLoaded ctx accepted fresh fails value =>
      simp [accepted, value, fails, AcceptAnswers.Completes]
  | refused ctx pSSL loaded shaken accepted fresh freshSession refusal value =>
      simp [accepted, value, Int.not_lt.mpr refusal, AcceptAnswers.Completes]
  | secured ctx pSSL loaded accepted fresh freshSession completes value =>
      simp [accepted, value, completes]

end CTCPSSLServer

end SocketCpp
