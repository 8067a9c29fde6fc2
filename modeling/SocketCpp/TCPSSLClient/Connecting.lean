import SocketCpp.SecureSocket.Objects
import SocketCpp.TCPClient.Connecting
import SocketCpp.TCPSSLClient

namespace SocketCpp

open Data

/-! What one `Connect` of a `CTCPSSLClient` leaves behind: one case for each exit. -/

namespace Trace

/-! What OpenSSL knows after a session has been set up. -/

theorem shaken_views {loaded after : Trace} {ctx pSSL : Nat} {fd : Socket} {iResult : Int}
    (calls : Extends (Call.Reports (some pSSL))
      (.sslConnect (some pSSL) iResult :: .sslSetFd (some pSSL) fd ::
        .sslNew (some ctx) pSSL :: loaded) after) :
    after.contexts = loaded.contexts ∧ after.sessions = insert pSSL loaded.sessions ∧
      handshaken pSSL after = decide (0 < iResult) ∧
      attached pSSL after = loaded.connection fd ∧
      ∀ fd, after.connection fd = loaded.connection fd := by
  have passive := calls.mono fun _ => Call.Reports.passive
  have shakes : Call.Shakes pSSL (.sslConnect (some pSSL) iResult) := rfl
  obtain ⟨contexts, sessions⟩ := shaken_objects shakes calls
  refine ⟨contexts, sessions, ?_, ?_, fun fd => ?_⟩
  · rw [handshaken_of_passive passive]
    simp [handshaken]
  · rw [attached_of_passive passive]
    simp [attached, connection, Call.socketEvents]
  · rw [connection_of_passive passive]
    simp [connection, Call.socketEvents]

/-- A context that is still as it was created lets every handshake result through. -/
theorem handshakeResult_fresh {before loaded : Trace} {method : SSLMethod} {ctx pSSL : Nat}
    (files : Extends (Call.LoadsInto (some ctx)) (.sslCtxNew method (some ctx) :: before) loaded)
    (fd : Socket) (answers : TlsAnswers) :
    handshakeResult (.sslSetFd (some pSSL) fd :: .sslNew (some ctx) pSSL :: loaded) ctx answers =
      answers.handshake := by
  have mode : verifyMode ctx (.sslSetFd (some pSSL) fd :: .sslNew (some ctx) pSSL :: loaded) =
      .verifyNone := (loaded_views files).2.2.1
  simp [handshakeResult, mode]

end Trace

def TlsAnswers.Completes (answers : TlsAnswers) (secure : ASecureSocket) : Prop :=
  answers.ctxNew.isSome ∧ secure.loads answers.files = true ∧ 0 < answers.handshake

namespace CTCPSSLClient

/-- The session fields once a context has been asked for. -/
def withContext (client : CTCPSSLClient) (fd : Socket) (ctx : Option Nat) : SSLSocket :=
  { client.sslConnectSocket with
    sockFd := fd
    pMTHDSSL := some client.eOpenSSLProtocol.clientMethod
    pCTXSSL := ctx }

/-- The exits of `Connect`, given how the TCP connection went. -/
inductive Exit (client : CTCPSSLClient) (answers : TlsAnswers) (tcp : Result CTCPClient Bool)
    (result : Result CTCPSSLClient Bool) : Prop where
  | unreachable (failed : tcp.value = false)
      (self : result.self = { client with tcpClient := tcp.self }) (value : result.value = false)
      (calls : Extends Call.Logs tcp.trace result.trace)
  | noContext (reached : tcp.value = true) (none : answers.ctxNew = none)
      (self : result.self = { client with
        tcpClient := tcp.self
        sslConnectSocket := client.withContext tcp.self.connectSocket .none })
      (value : result.value = false)
      (calls : Extends Call.Logs
        (.sslCtxNew client.eOpenSSLProtocol.clientMethod .none :: tcp.trace) result.trace)
  | notLoaded (ctx : Nat) (reached : tcp.value = true) (created : answers.ctxNew.isSome)
      (fresh : ctx ∉ tcp.trace.contexts) (fails : client.loads answers.files = false)
      (self : result.self = { client with
        tcpClient := tcp.self
        sslConnectSocket := client.withContext tcp.self.connectSocket (some ctx) })
      (value : result.value = false)
      (calls : Extends (Call.LoadsInto (some ctx))
        (.sslCtxNew client.eOpenSSLProtocol.clientMethod (some ctx) :: tcp.trace) result.trace)
  | shaken (ctx pSSL : Nat) (iResult : Int) (loaded : Trace)
      (reached : tcp.value = true) (created : answers.ctxNew.isSome)
      (fresh : ctx ∉ tcp.trace.contexts) (loads : client.loads answers.files = true)
      (freshSession : pSSL ∉ loaded.sessions)
      (self : result.self = { client with
        tcpClient := tcp.self
        sslConnectSocket :=
          { client.withContext tcp.self.connectSocket (some ctx) with pSSL := some pSSL } })
      (value : result.value = decide (0 < iResult))
      (files : Extends (Call.LoadsInto (some ctx))
        (.sslCtxNew client.eOpenSSLProtocol.clientMethod (some ctx) :: tcp.trace) loaded)
      (handshake : iResult = Trace.handshakeResult
        (.sslSetFd (some pSSL) tcp.self.connectSocket :: .sslNew (some ctx) pSSL :: loaded)
        ctx answers)
      (calls : Extends (Call.Reports (some pSSL))
        (.sslConnect (some pSSL) iResult :: .sslSetFd (some pSSL) tcp.self.connectSocket ::
          .sslNew (some ctx) pSSL :: loaded) result.trace)

theorem connect_exit (client : CTCPSSLClient) (strServer strPort : String)
    (resolution : Resolution) (answers : TlsAnswers) (trace : Trace) :
    client.Exit answers (client.tcpClient.connect strServer strPort resolution trace)
      (client.connect strServer strPort resolution answers trace) := by
  simp only [connect]
  generalize client.tcpClient.connect strServer strPort resolution trace = tcp
  cases reached : tcp.value with
  | false =>
      rw [if_neg Bool.false_ne_true]
      exact .unreachable reached rfl rfl (Trace.oLog_calls ..)
  | true =>
      rw [if_pos rfl]
      simp only [secureConnection, ASecureSocket.setUpCtxClient]
      cases created : answers.ctxNew with
      | none => exact .noContext reached created rfl rfl (Trace.oLog_calls ..)
      | some named =>
          have isSome : answers.ctxNew.isSome := by rw [created]; rfl
          obtain ⟨ctx, isNew⟩ : ∃ ctx, tcp.trace.newContext (some named) = some ctx := ⟨_, rfl⟩
          have fresh := Trace.newContext_not_mem isNew
          simp only [isNew]
          have files := client.loadFiles_extends "[TCPSSLClient]" (some ctx) answers.files
            (.sslCtxNew client.eOpenSSLProtocol.clientMethod (some ctx) :: tcp.trace)
          have value := client.loadFiles_value "[TCPSSLClient]" (some ctx) answers.files
            (.sslCtxNew client.eOpenSSLProtocol.clientMethod (some ctx) :: tcp.trace)
          generalize client.loadFiles "[TCPSSLClient]" (some ctx) answers.files
            (.sslCtxNew client.eOpenSSLProtocol.clientMethod (some ctx) :: tcp.trace) = loaded
            at files value ⊢
          cases loads : loaded.1 with
          | false =>
              rw [if_neg Bool.false_ne_true]
              exact .notLoaded ctx reached isSome fresh (value.symm.trans loads) rfl rfl files
          | true =>
              rw [if_pos rfl]
              have freshSession := loaded.2.newSession_not_mem answers.sslNew
              simp only [startSession]
              generalize loaded.2.newSession answers.sslNew = pSSL at freshSession ⊢
              generalize result : Trace.handshakeResult (.sslSetFd (some pSSL)
                tcp.self.connectSocket :: .sslNew (some ctx) pSSL :: loaded.2) ctx answers = iResult
              have shaken := Extends.refl (Call.Reports (some pSSL))
                (.sslConnect (some pSSL) iResult :: .sslSetFd (some pSSL) tcp.self.connectSocket ::
                  .sslNew (some ctx) pSSL :: loaded.2)
              have printed := shaken.cons .errPrintErrors trivial
              have value := value.symm.trans loads
              by_cases succeeded : 0 < iResult
              · rw [if_pos succeeded]
                exact .shaken ctx pSSL iResult loaded.2 reached isSome fresh value freshSession rfl
                  (by simp [succeeded]) files result.symm
                  (Trace.oLogAfter_extends shaken _ _ rfl trivial)
              · rw [if_neg succeeded]
                exact .shaken ctx pSSL iResult loaded.2 reached isSome fresh value freshSession rfl
                  (by simp [succeeded]) files result.symm
                  (Trace.oLogAfter_extends printed _ _ rfl trivial)

theorem connect_tcpClient (client : CTCPSSLClient) (strServer strPort : String)
    (resolution : Resolution) (answers : TlsAnswers) (trace : Trace) :
    (client.connect strServer strPort resolution answers trace).self.tcpClient =
      (client.tcpClient.connect strServer strPort resolution trace).self := by
  cases client.connect_exit strServer strPort resolution answers trace with
  | unreachable _ self => rw [self]
  | noContext _ _ self => rw [self]
  | notLoaded _ _ _ _ _ self => rw [self]
  | shaken _ _ _ _ _ _ _ _ _ self => rw [self]

/-- `Connect` succeeds exactly when the address is reached and OpenSSL completes. -/
theorem connect_value_iff (client : CTCPSSLClient) (strServer strPort : String)
    (resolution : Resolution) (answers : TlsAnswers) (trace : Trace) :
    (client.connect strServer strPort resolution answers trace).value = true ↔
      resolution.Reaches ∧ answers.Completes client.toASecureSocket := by
  have reaches :=
    (client.tcpClient.connect_connects strServer strPort resolution trace).value
  rw [← reaches]
  cases client.connect_exit strServer strPort resolution answers trace with
  | unreachable failed _ value _ => simp [value, failed]
  | noContext reached none _ value _ => simp [value, reached, none, TlsAnswers.Completes]
  | notLoaded ctx reached created fresh fails _ value _ =>
      simp [value, reached, fails, TlsAnswers.Completes]
  | shaken ctx pSSL iResult loaded reached created fresh loads _ _ value files handshake _ =>
      rw [Trace.handshakeResult_fresh files] at handshake
      simp [value, reached, created, loads, handshake, TlsAnswers.Completes]

/-! What the transfers call. -/

theorem send_calls (client : CTCPSSLClient) (pData : Option (Buffer UInt8)) (uSize : Nat)
    (script : List SendAnswer) (trace : Trace) :
    Extends (Call.Exchanges client.sslConnectSocket.pSSL) trace
      (sentTrace (client.send pData uSize script trace)) := by
  have start := Extends.refl (Call.Exchanges client.sslConnectSocket.pSSL) trace
  have runs := CallLoop.run_extends SendState.trace (fun result : Sent => result.trace)
    (fun state answer => sslWriteTurn_extends client.eSettingsFlags uSize
      client.sslConnectSocket.pSSL (fun nSent error =>
        "[TCPSSLClient][Error] SSL_write failed (Error=" ++ toString nSent ++ " | " ++
          getSSLErrorString error ++ ")") state answer) (.start trace) script
  simp only [send, sendEntry]
  split_ifs
  · exact Trace.oLog_extends start _ _ trivial
  · exact runs

theorem receive_calls (client : CTCPSSLClient) (pData : Option (Buffer UInt8)) (uSize : Nat)
    (bReadFully : Bool) (script : List RecvAnswer) (trace : Trace) :
    Extends (Call.Exchanges client.sslConnectSocket.pSSL) trace
      (receivedTrace (client.receive pData uSize bReadFully script trace)) := by
  have start := Extends.refl (Call.Exchanges client.sslConnectSocket.pSSL) trace
  have runs := CallLoop.run_extends ReceiveState.trace (fun result : Received => result.trace)
    (fun state answer => sslReadTurn_extends client.eSettingsFlags uSize
      client.sslConnectSocket.pSSL (fun nRecvd error =>
        "[TCPSSLClient][Error] SSL_read failed (Error=" ++ toString nRecvd ++ " | " ++
          getSSLErrorString error ++ ")") bReadFully state answer) (.start pData trace) script
  simp only [receive, receiveEntry]
  split_ifs
  · exact Trace.oLog_extends start _ _ trivial
  · exact runs

/-- The destructor calls nothing but what `Disconnect` calls. -/
theorem destroy_trace (client : CTCPSSLClient) (trace : Trace) :
    (client.destroy trace).trace = (client.disconnect trace).trace := by
  by_cases connected : client.tcpClient.eStatus = .connected
  · simp [destroy, disconnect, CTCPClient.disconnect, CTCPClient.destroy, connected]
  · simp [destroy, disconnect, CTCPClient.destroy, connected]

end CTCPSSLClient

end SocketCpp
