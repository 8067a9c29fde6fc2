import SocketCpp.Logging.Plain
import SocketCpp.TCPSSLClient
import SocketCpp.TCPSSLServer.Pool

namespace SocketCpp

open Data

/-! The secure classes with logging switched off.

With logging on they also ask OpenSSL for what they write into a message. -/

/-- A call whose answer goes into nothing but a message. -/
def Call.acts : Call → Bool
  | .sslGetCipher _ | .sslGetError _ _ => false
  | _ => true

namespace Trace

theorem unseen_cases {call : Call} (unseen : call.isSeen Call.acts = false) :
    (∃ message, call = .oLog message) ∨ (∃ ssl, call = .sslGetCipher ssl) ∨
      ∃ ssl result, call = .sslGetError ssl result := by
  cases call <;> simp_all [Call.isSeen, Call.layer, Call.acts]

@[simp] theorem connection_seen (keep : Call → Bool) (trace : Trace) (fd : Socket) :
    (trace.seen keep).connection fd = trace.connection fd :=
  congrArg (Ledger.identity fd) (Ledger.entries_filter
    (fun _ unseen => socketEvents_of_layer (layer_of_unseen unseen)) trace)

theorem passive_of_unseen {call : Call} (unseen : call.isSeen Call.acts = false) :
    call.passive = true := by
  rcases unseen_cases unseen with ⟨message, rfl⟩ | ⟨ssl, rfl⟩ | ⟨ssl, result, rfl⟩ <;> rfl

@[simp] theorem contexts_seen (trace : Trace) :
    (trace.seen Call.acts).contexts = trace.contexts :=
  Ledger.held_filter (fun _ unseen => contextEvents_of_passive (passive_of_unseen unseen)) trace

@[simp] theorem sessions_seen (trace : Trace) :
    (trace.seen Call.acts).sessions = trace.sessions :=
  Ledger.held_filter (fun _ unseen => sessionEvents_of_passive (passive_of_unseen unseen)) trace

@[simp] theorem newContext_seen (trace : Trace) (answer : Option Nat) :
    (trace.seen Call.acts).newContext answer = trace.newContext answer := by
  simp [newContext]

@[simp] theorem newSession_seen (trace : Trace) (named : Nat) :
    (trace.seen Call.acts).newSession named = trace.newSession named := by
  simp [newSession]

@[simp] theorem verifyMode_seen (trace : Trace) (ctx : Nat) :
    (trace.seen Call.acts).verifyMode ctx = trace.verifyMode ctx := by
  induction trace with
  | nil => rfl
  | cons call earlier ih =>
      cases seen : call.isSeen Call.acts with
      | false =>
          rw [seen_cons, if_neg (by simp [seen]), ih]
          exact ((Extends.refl _ earlier).cons call (passive_of_unseen seen) |> verifyMode_of_passive)
            ctx |>.symm
      | true =>
          rw [seen_cons, if_pos seen]
          cases call <;> simp only [verifyMode, ih]

@[simp] theorem handshakeResult_seen (trace : Trace) (ctx : Nat) (answers : TlsAnswers) :
    (trace.seen Call.acts).handshakeResult ctx answers = trace.handshakeResult ctx answers := by
  simp [handshakeResult]

@[simp] theorem seen_oLogAfter (trace : Trace) (flags : SettingsFlag) {call : Call}
    (message : String) (unseen : call.isSeen Call.acts = false) :
    (trace.oLogAfter flags call message).seen Call.acts = trace.seen Call.acts := by
  unfold oLogAfter
  split
  · rw [seen_cons, if_neg (by simp [Call.isSeen, Call.layer]), seen_cons, if_neg (by simp [unseen])]
  · rfl

end Trace

theorem sslWriteTurn_seen (pSSL : Option Nat) (flags : SettingsFlag)
    (failure : Int → Int → String) (uSize : Nat) (state : SendState) (answer : SendAnswer) :
    sslWriteTurn pSSL .noFlags failure uSize (state.seen Call.acts) answer =
      Sum.map (SendState.seen Call.acts) (Sent.seen Call.acts)
        (sslWriteTurn pSSL flags failure uSize state answer) := by
  simp only [sslWriteTurn, SendState.seen]
  split_ifs
  · simp only [Sum.map_inr, Sent.seen, SendState.seen, Trace.oLogAfter_noFlags]
    rw [Trace.seen_oLogAfter _ _ _ rfl]
    rfl
  · simp [SendState.seen, Call.isSeen, Call.layer, Call.acts, *]
  · simp [Sent.seen, SendState.seen, Call.isSeen, Call.layer, Call.acts, *]

theorem sslReadTurn_seen (pSSL : Option Nat) (flags : SettingsFlag)
    (failure : Int → Int → String) (uSize : Nat) (bReadFully : Bool) (state : ReceiveState)
    (answer : RecvAnswer) :
    sslReadTurn pSSL .noFlags failure uSize bReadFully (state.seen Call.acts) answer =
      Sum.map (ReceiveState.seen Call.acts) (Received.seen Call.acts)
        (sslReadTurn pSSL flags failure uSize bReadFully state answer) := by
  simp only [sslReadTurn, ReceiveState.seen]
  split_ifs
  · simp only [Sum.map_inr, Received.seen, ReceiveState.seen, Trace.oLogAfter_noFlags]
    rw [Trace.seen_oLogAfter _ _ _ rfl]
    rfl
  · simp [ReceiveState.seen, Call.isSeen, Call.layer, Call.acts, *]
  · simp [Received.seen, ReceiveState.seen, Call.isSeen, Call.layer, Call.acts, *]

theorem shutdownSSL_seen (socket : SSLSocket) (trace : Trace) :
    shutdownSSL socket (trace.seen Call.acts) = (shutdownSSL socket trace).seen Call.acts id := by
  unfold shutdownSSL
  split <;> simp [State.seen, Call.isSeen, Call.layer, Call.acts]

namespace ASecureSocket

def silent (secure : ASecureSocket) : ASecureSocket :=
  { secure with eSettingsFlags := .noFlags }

@[simp] theorem silent_flags (secure : ASecureSocket) :
    secure.silent.eSettingsFlags = .noFlags := rfl

variable (secure : ASecureSocket) (trace : Trace)

theorem setUpCtxClient_seen (socket : SSLSocket) (answer : Option Nat) :
    secure.silent.setUpCtxClient socket answer (trace.seen Call.acts) =
      (secure.setUpCtxClient socket answer trace).seen Call.acts id := by
  simp [setUpCtxClient, silent, State.seen, Call.isSeen, Call.layer, Call.acts]

theorem setUpCtxServer_seen (socket : SSLSocket) (answer : Option Nat) :
    secure.silent.setUpCtxServer socket answer (trace.seen Call.acts) =
      (secure.setUpCtxServer socket answer trace).seen Call.acts id := by
  simp [setUpCtxServer, silent, State.seen, Call.isSeen, Call.layer, Call.acts]

theorem seen_consUnless (file : String) {call : Call} (kept : call.isSeen Call.acts = true) :
    Trace.seen Call.acts (if file = "" then trace else call :: trace) =
      if file = "" then trace.seen Call.acts else call :: trace.seen Call.acts := by
  split
  · rfl
  · rw [Trace.seen_cons, if_pos kept]

theorem loadFiles_seen (tag : String) (ctx : Option Nat) (answers : FileAnswers) :
    secure.silent.loadFiles tag ctx answers (trace.seen Call.acts) =
      Prod.map id (Trace.seen Call.acts) (secure.loadFiles tag ctx answers trace) := by
  have certificate (earlier : Trace) := seen_consUnless earlier secure.strSSLCertFile
    (rfl : (Call.sslCtxUseCertificateFile ctx secure.strSSLCertFile answers.certificate).isSeen
      Call.acts = true)
  have authorities (earlier : Trace) := seen_consUnless earlier secure.strCAFile
    (rfl : (Call.sslCtxLoadVerifyLocations ctx secure.strCAFile answers.authorities).isSeen
      Call.acts = true)
  have depth (earlier : Trace) := seen_consUnless earlier secure.strCAFile
    (rfl : (Call.sslCtxSetVerifyDepth ctx 1).isSeen Call.acts = true)
  have privateKey (earlier : Trace) := seen_consUnless earlier secure.strSSLKeyFile
    (rfl : (Call.sslCtxUsePrivateKeyFile ctx secure.strSSLKeyFile answers.privateKey).isSeen
      Call.acts = true)
  simp only [loadFiles, silent_flags, Trace.oLog_noFlags]
  by_cases cert : secure.strSSLCertFile ≠ "" ∧ answers.certificate ≤ 0
  · have cert' : secure.silent.strSSLCertFile ≠ "" ∧ answers.certificate ≤ 0 := cert
    simp only [if_pos cert, if_pos cert', Prod.map_apply, Trace.seen_oLog, certificate]
    rfl
  · have cert' : ¬ (secure.silent.strSSLCertFile ≠ "" ∧ answers.certificate ≤ 0) := cert
    simp only [if_neg cert, if_neg cert']
    by_cases ca : secure.strCAFile ≠ "" ∧ answers.authorities = 0
    · have ca' : secure.silent.strCAFile ≠ "" ∧ answers.authorities = 0 := ca
      simp only [if_pos ca, if_pos ca', Prod.map_apply, Trace.seen_oLog, authorities, certificate]
      rfl
    · have ca' : ¬ (secure.silent.strCAFile ≠ "" ∧ answers.authorities = 0) := ca
      simp only [if_neg ca, if_neg ca']
      by_cases key : secure.strSSLKeyFile ≠ "" ∧ answers.privateKey ≤ 0
      · have key' : secure.silent.strSSLKeyFile ≠ "" ∧ answers.privateKey ≤ 0 := key
        simp only [if_pos key, if_pos key', Prod.map_apply, Trace.seen_oLog, privateKey, depth,
          authorities, certificate]
        rfl
      · have key' : ¬ (secure.silent.strSSLKeyFile ≠ "" ∧ answers.privateKey ≤ 0) := key
        simp only [if_neg key, if_neg key', Prod.map_apply, privateKey, depth, authorities,
          certificate]
        rfl

end ASecureSocket

namespace CTCPSSLClient

def silent (client : CTCPSSLClient) : CTCPSSLClient :=
  { client with
    toASecureSocket := client.toASecureSocket.silent
    tcpClient := client.tcpClient.silent }

@[simp] theorem silent_flags (client : CTCPSSLClient) :
    client.silent.eSettingsFlags = .noFlags := rfl

variable (client : CTCPSSLClient) (trace : Trace)

theorem startSession_seen (ctx : Nat) (answers : TlsAnswers) :
    client.silent.startSession ctx answers (trace.seen Call.acts) =
      (client.startSession ctx answers trace).seen Call.acts silent := by
  have attached (pSSL : Nat) : Trace.seen Call.acts
      (.sslSetFd (some pSSL) client.sslConnectSocket.sockFd :: .sslNew (some ctx) pSSL :: trace) =
        .sslSetFd (some pSSL) client.sslConnectSocket.sockFd :: .sslNew (some ctx) pSSL ::
          trace.seen Call.acts := rfl
  have shaken (pSSL : Nat) := Trace.handshakeResult_seen
    (.sslSetFd (some pSSL) client.sslConnectSocket.sockFd :: .sslNew (some ctx) pSSL :: trace)
    ctx answers
  simp only [attached] at shaken
  have sockFd : client.silent.sslConnectSocket = client.sslConnectSocket := rfl
  simp only [startSession, Trace.newSession_seen, sockFd]
  generalize trace.newSession answers.sslNew = pSSL
  rw [shaken]
  generalize Trace.handshakeResult _ ctx answers = iResult
  by_cases done : 0 < iResult
  · simp only [if_pos done, silent_flags, Trace.oLogAfter_noFlags, Result.seen, State.seen]
    rw [Trace.seen_oLogAfter _ _ _ rfl]
    rfl
  · simp only [if_neg done, silent_flags, Trace.oLogAfter_noFlags, Result.seen, State.seen]
    rw [Trace.seen_oLogAfter _ _ _ rfl]
    rfl

theorem secureConnection_seen (answers : TlsAnswers) :
    client.silent.secureConnection answers (trace.seen Call.acts) =
      (client.secureConnection answers trace).seen Call.acts silent := by
  let socket := { client.sslConnectSocket with sockFd := client.tcpClient.connectSocket }
  have setUp := client.toASecureSocket.setUpCtxClient_seen trace socket answers.ctxNew
  have connected : { client.silent.sslConnectSocket with
      sockFd := client.silent.tcpClient.connectSocket } = socket := rfl
  simp only [secureConnection]
  rw [connected]
  have secure : client.silent.toASecureSocket = client.toASecureSocket.silent := rfl
  rw [secure, setUp]
  generalize client.setUpCtxClient socket answers.ctxNew trace = result
  obtain ⟨prepared, earlier⟩ := result
  cases found : prepared.pCTXSSL with
  | none => simp [State.seen, found, Result.seen, silent]
  | some ctx =>
      have loaded := client.toASecureSocket.loadFiles_seen earlier "[TCPSSLClient]" (some ctx)
        answers.files
      cases files : client.loadFiles "[TCPSSLClient]" (some ctx) answers.files earlier with
      | mk loads after =>
          rw [files] at loaded
          simp only [State.seen, id_eq, found, files, loaded, Prod.map_apply]
          cases loads with
          | true =>
              exact startSession_seen { client with sslConnectSocket := prepared } after ctx answers
          | false => rfl

theorem connect_seen (strServer strPort : String) (resolution : Resolution)
    (answers : TlsAnswers) :
    client.silent.connect strServer strPort resolution answers (trace.seen Call.acts) =
      (client.connect strServer strPort resolution answers trace).seen Call.acts silent := by
  have tcp : client.silent.tcpClient.connect strServer strPort resolution (trace.seen Call.acts) =
      _ := client.tcpClient.connect_seen Call.acts trace strServer strPort resolution
  simp only [connect]
  rw [tcp]
  generalize client.tcpClient.connect strServer strPort resolution trace = result
  by_cases connected : result.value = true
  · have connected' : (result.seen Call.acts CTCPClient.silent).value = true := connected
    simp only [if_pos connected, if_pos connected']
    exact secureConnection_seen { client with tcpClient := result.self } result.trace answers
  · have connected' : ¬ (result.seen Call.acts CTCPClient.silent).value = true := connected
    simp only [if_neg connected, if_neg connected']
    simp [Result.seen, State.seen, silent]

theorem send_seen (pData : Option (Buffer UInt8)) (uSize : Nat) (script : List SendAnswer) :
    client.silent.send pData uSize script (trace.seen Call.acts) =
      Sum.map (SendState.seen Call.acts) (Sent.seen Call.acts)
        (client.send pData uSize script trace) := by
  have entry : client.silent.sendEntry (trace.seen Call.acts) =
      Sum.map (SendState.seen Call.acts) (Sent.seen Call.acts) (client.sendEntry trace) := by
    by_cases connected : client.tcpClient.eStatus = .connected
    · simp [sendEntry, silent, CTCPClient.silent, connected, SendState.start, SendState.seen]
    · simp [sendEntry, silent, CTCPClient.silent, connected, Sent.refused, SendState.start, Sent.seen,
        SendState.seen]
  rw [send, entry]
  apply CallLoop.enter_map
  exact sslWriteTurn_seen client.sslConnectSocket.pSSL client.eSettingsFlags _ uSize

theorem receive_seen (pData : Option (Buffer UInt8)) (uSize : Nat) (bReadFully : Bool)
    (script : List RecvAnswer) :
    client.silent.receive pData uSize bReadFully script (trace.seen Call.acts) =
      Sum.map (ReceiveState.seen Call.acts) (Received.seen Call.acts)
        (client.receive pData uSize bReadFully script trace) := by
  have entry : client.silent.receiveEntry pData (trace.seen Call.acts) =
      Sum.map (ReceiveState.seen Call.acts) (Received.seen Call.acts)
        (client.receiveEntry pData trace) := by
    by_cases connected : client.tcpClient.eStatus = .connected
    · simp [receiveEntry, silent, CTCPClient.silent, connected, ReceiveState.start,
        ReceiveState.seen]
    · simp [receiveEntry, silent, CTCPClient.silent, connected, Received.refused,
        ReceiveState.start, Received.seen, ReceiveState.seen]
  rw [receive, entry]
  apply CallLoop.enter_map
  exact sslReadTurn_seen client.sslConnectSocket.pSSL client.eSettingsFlags _ uSize bReadFully

theorem disconnect_seen :
    client.silent.disconnect (trace.seen Call.acts) =
      (client.disconnect trace).seen Call.acts silent := by
  have shut : shutdownSSL client.silent.sslConnectSocket (trace.seen Call.acts) = _ :=
    shutdownSSL_seen client.sslConnectSocket trace
  have closed : client.silent.tcpClient.disconnect
      ((shutdownSSL client.sslConnectSocket trace).trace.seen Call.acts) = _ :=
    client.tcpClient.disconnect_seen Call.acts (shutdownSSL client.sslConnectSocket trace).trace
  simp only [disconnect]
  by_cases missing : client.tcpClient.eStatus ≠ .connected
  · have missing' : client.silent.tcpClient.eStatus ≠ .connected := missing
    simp only [if_pos missing, if_pos missing']
    rfl
  · have missing' : ¬ client.silent.tcpClient.eStatus ≠ .connected := missing
    simp only [if_neg missing, if_neg missing', shut, State.seen, closed]
    rfl

theorem step_seen (state : State CTCPSSLClient) (op : Op) :
    step (state.seen Call.acts silent) op = (step state op).seen Call.acts silent := by
  obtain ⟨client, trace⟩ := state
  cases op with
  | connect strServer strPort resolution answers =>
      exact congrArg Result.toState
        (client.connect_seen trace strServer strPort resolution answers)
  | disconnect => exact congrArg Result.toState (client.disconnect_seen trace)
  | send pData uSize script =>
      simp only [step, State.seen, client.send_seen trace, sentTrace_seen]
  | receive pData uSize bReadFully script =>
      simp only [step, State.seen, client.receive_seen trace, receivedTrace_seen]

theorem request_seen (state : State CTCPSSLClient) (request : Request) :
    CTCPSSLClient.request (state.seen Call.acts silent) request =
      (CTCPSSLClient.request state request).seen Call.acts silent := by
  cases request with
  | op op => exact step_seen state op
  | setSSLCerthAuth | setSSLCertFile | setSSLKeyFile => rfl
  | setRcvTimeout | setRcvTimeoutTimeval | setSndTimeout | setSndTimeoutTimeval =>
      exact congrArg (fun result : Bool × Trace => State.mk state.self.silent result.2)
        (setTimeout_seen Call.acts ..)

def reply (state : State CTCPSSLClient) : Request → Reply
  | .op (.connect strServer strPort resolution answers) =>
      .answered (state.self.connect strServer strPort resolution answers state.trace).value
  | .op .disconnect => .answered (state.self.disconnect state.trace).value
  | .op (.send pData uSize script) => .ofSent (state.self.send pData uSize script state.trace)
  | .op (.receive pData uSize bReadFully script) =>
      .ofReceived (state.self.receive pData uSize bReadFully script state.trace)
  | .setSSLCerthAuth _ | .setSSLCertFile _ | .setSSLKeyFile _ => .done
  | .setRcvTimeout msecTimeout iErr =>
      .answered (state.self.setRcvTimeout msecTimeout iErr state.trace).1
  | .setRcvTimeoutTimeval timeout iErr =>
      .answered (state.self.setRcvTimeoutTimeval timeout iErr state.trace).1
  | .setSndTimeout msecTimeout iErr =>
      .answered (state.self.setSndTimeout msecTimeout iErr state.trace).1
  | .setSndTimeoutTimeval timeout iErr =>
      .answered (state.self.setSndTimeoutTimeval timeout iErr state.trace).1

theorem reply_seen (state : State CTCPSSLClient) (request : Request) :
    reply (state.seen Call.acts silent) request = reply state request := by
  obtain ⟨client, trace⟩ := state
  cases request with
  | op op =>
      cases op with
      | connect strServer strPort resolution answers =>
          have connected := client.connect_seen trace strServer strPort resolution answers
          have value := congrArg (fun result => Reply.answered result.value) connected
          exact value
      | disconnect =>
          have disconnected := client.disconnect_seen trace
          have value := congrArg (fun result => Reply.answered result.value) disconnected
          exact value
      | send pData uSize script =>
          simp only [reply, State.seen, client.send_seen trace, Reply.ofSent_seen]
      | receive pData uSize bReadFully script =>
          simp only [reply, State.seen, client.receive_seen trace, Reply.ofReceived_seen]
  | setSSLCerthAuth | setSSLCertFile | setSSLKeyFile => rfl
  | setRcvTimeout | setRcvTimeoutTimeval | setSndTimeout | setSndTimeoutTimeval =>
      exact congrArg Reply.answered (setTimeout_value ..)

end CTCPSSLClient

def SSLListened.seen (keep : Call → Bool) (silent : CTCPSSLServer → CTCPSSLServer)
    (result : SSLListened) : SSLListened :=
  { result.toResult.seen keep silent with clientSocket := result.clientSocket }

namespace CTCPSSLServer

def silent (server : CTCPSSLServer) : CTCPSSLServer where
  toASecureSocket := server.toASecureSocket.silent
  tcpServer := server.tcpServer.silent

@[simp] theorem silent_flags (server : CTCPSSLServer) :
    server.silent.eSettingsFlags = .noFlags := rfl

variable (server : CTCPSSLServer) (trace : Trace)

theorem acceptSession_seen (clientSocket : SSLSocket) (ctx : Nat) (answers : AcceptAnswers) :
    server.silent.acceptSession clientSocket ctx answers (trace.seen Call.acts) =
      (server.acceptSession clientSocket ctx answers trace).seen Call.acts silent := by
  simp only [acceptSession, Trace.newSession_seen, silent_flags, Trace.oLogAfter_noFlags]
  generalize trace.newSession answers.sslNew = pSSL
  by_cases failed : answers.handshake ≤ 0
  · simp only [if_pos failed, shutdownSSL, SSLListened.seen, Result.seen, State.seen,
      Trace.seen_cons, Call.isSeen, Call.layer, Call.acts, if_true]
    rw [Trace.seen_oLogAfter _ _ _ rfl]
    rfl
  · simp only [if_neg failed]
    rfl

theorem acceptSecurely_seen (clientSocket : SSLSocket) (answers : AcceptAnswers) :
    server.silent.acceptSecurely clientSocket answers (trace.seen Call.acts) =
      (server.acceptSecurely clientSocket answers trace).seen Call.acts silent := by
  have setUp := server.toASecureSocket.setUpCtxServer_seen trace clientSocket answers.ctxNew
  have secure : server.silent.toASecureSocket = server.toASecureSocket.silent := rfl
  simp only [acceptSecurely]
  rw [secure, setUp]
  generalize server.setUpCtxServer clientSocket answers.ctxNew trace = result
  obtain ⟨prepared, earlier⟩ := result
  cases found : prepared.pCTXSSL with
  | none => simp [State.seen, found, SSLListened.seen, Result.seen]
  | some ctx =>
      have loaded := server.toASecureSocket.loadFiles_seen earlier "[TCPSSLServer]" (some ctx)
        answers.files
      cases files : server.loadFiles "[TCPSSLServer]" (some ctx) answers.files earlier with
      | mk loads after =>
          rw [files] at loaded
          simp only [State.seen, id_eq, found, files, loaded, Prod.map_apply]
          cases loads with
          | true => exact server.acceptSession_seen after prepared ctx answers
          | false => rfl

theorem listen_seen (clientSocket : SSLSocket) (msec : Nat) (tcpAnswers : ListenAnswers)
    (answers : AcceptAnswers) :
    server.silent.listen clientSocket msec tcpAnswers answers (trace.seen Call.acts) =
      (server.listen clientSocket msec tcpAnswers answers trace).seen Call.acts silent := by
  have tcp : server.silent.tcpServer.listen msec tcpAnswers (trace.seen Call.acts) = _ :=
    server.tcpServer.listen_seen Call.acts trace msec tcpAnswers
  simp only [listen]
  rw [tcp]
  generalize server.tcpServer.listen msec tcpAnswers trace = result
  by_cases accepted : result.value = true
  · have accepted' : (result.seen Call.acts CTCPServer.silent).value = true := accepted
    simp only [if_pos accepted, if_pos accepted']
    exact acceptSecurely_seen { server with tcpServer := result.self } result.trace
      { clientSocket with sockFd := result.clientSocket } answers
  · have accepted' : ¬ (result.seen Call.acts CTCPServer.silent).value = true := accepted
    simp only [if_neg accepted, if_neg accepted']
    simp [Listened.seen, SSLListened.seen, Result.seen, State.seen, silent]

theorem send_seen (clientSocket : SSLSocket) (pData : Option (Buffer UInt8)) (uSize : Nat)
    (script : List SendAnswer) :
    server.silent.send clientSocket pData uSize script (trace.seen Call.acts) =
      Sum.map (SendState.seen Call.acts) (Sent.seen Call.acts)
        (server.send clientSocket pData uSize script trace) :=
  CallLoop.run_map (sslWriteTurn_seen clientSocket.pSSL server.eSettingsFlags _ uSize)
    (.start trace) script

theorem receive_seen (clientSocket : SSLSocket) (pData : Option (Buffer UInt8)) (uSize : Nat)
    (bReadFully : Bool) (script : List RecvAnswer) :
    server.silent.receive clientSocket pData uSize bReadFully script (trace.seen Call.acts) =
      Sum.map (ReceiveState.seen Call.acts) (Received.seen Call.acts)
        (server.receive clientSocket pData uSize bReadFully script trace) :=
  CallLoop.run_map (sslReadTurn_seen clientSocket.pSSL server.eSettingsFlags _ uSize bReadFully)
    (.start pData trace) script

theorem disconnect_seen (clientSocket : SSLSocket) :
    server.silent.disconnect clientSocket (trace.seen Call.acts) =
      (server.disconnect clientSocket trace).seen Call.acts id := by
  simp only [disconnect, shutdownSSL_seen, State.seen]
  simp [Result.seen, State.seen, CTCPServer.disconnect, Call.isSeen, Call.layer]

end CTCPSSLServer

namespace ServerPool

def silent (pool : ServerPool) : ServerPool :=
  { pool with server := pool.server.silent, trace := pool.trace.seen Call.acts }

variable (pool : ServerPool)

theorem ite_silent {exist : Prop} [Decidable exist] {after silenced : ServerPool}
    (same : silenced = after.silent) :
    (if exist then silenced else pool.silent) = (if exist then after else pool).silent := by
  subst same
  split <;> rfl

theorem listened_seen (slot : Nat) (result : SSLListened) :
    pool.silent.listened slot (result.seen Call.acts CTCPSSLServer.silent) =
      (pool.listened slot result).silent := by
  have accepted := Trace.connection_seen Call.acts result.trace result.clientSocket.sockFd
  simp only [listened, silent, SSLListened.seen, Result.seen, State.seen, accepted]

/-- Each operation on a pool without logging is the operation with it, seen without the
messages. -/
theorem step_seen (op : Op) : step pool.silent op = (step pool op).silent := by
  cases op with
  | construct => rfl
  | moveConstruct source => exact pool.ite_silent rfl
  | moveAssign target source => exact pool.ite_silent rfl
  | listen slot msec tcpAnswers answers =>
      apply pool.ite_silent
      rw [← listened_seen, ← CTCPSSLServer.listen_seen]
      rfl
  | send slot pData uSize script =>
      apply pool.ite_silent
      have sent := pool.server.send_seen pool.trace (pool.slots slot).toSSLSocket pData uSize script
      have trace := congrArg sentTrace sent
      rw [sentTrace_seen] at trace
      exact congrArg (fun trace => { pool.silent with trace }) trace
  | receive slot pData uSize bReadFully script =>
      apply pool.ite_silent
      have received := pool.server.receive_seen pool.trace (pool.slots slot).toSSLSocket pData uSize
        bReadFully script
      have trace := congrArg receivedTrace received
      rw [receivedTrace_seen] at trace
      exact congrArg (fun trace => { pool.silent with trace }) trace
  | disconnect slot =>
      apply pool.ite_silent
      have closed := pool.server.disconnect_seen pool.trace (pool.slots slot).toSSLSocket
      exact congrArg (pool.silent.disconnected slot) closed

theorem timed_seen (slot : Nat) (set silenced : SSLSocket → Trace → Bool × Trace)
    (same : ∀ socket, (silenced socket (pool.trace.seen Call.acts)).2 =
      (set socket pool.trace).2.seen Call.acts) :
    pool.silent.timed slot silenced = (pool.timed slot set).silent :=
  pool.ite_silent (congrArg (fun trace => { pool.silent with trace }) (same _))

theorem request_seen (request : Request) :
    ServerPool.request pool.silent request = (ServerPool.request pool request).silent := by
  have timeout (flags : SettingsFlag) (fd : Socket) (option : SockOption) (failure : String)
      (iErr : Int) : (setTimeout fd .noFlags option failure iErr (pool.trace.seen Call.acts)).2 =
        (setTimeout fd flags option failure iErr pool.trace).2.seen Call.acts :=
    congrArg Prod.snd (setTimeout_seen Call.acts ..)
  cases request with
  | op op => exact pool.step_seen op
  | setSSLCerthAuth | setSSLCertFile | setSSLKeyFile => rfl
  | setRcvTimeout | setRcvTimeoutTimeval | setSndTimeout | setSndTimeoutTimeval =>
      exact pool.timed_seen _ _ _ fun _ => timeout ..

/-- An operation on an object that does not exist returns nothing. -/
def reply (pool : ServerPool) : Request → Reply
  | .op (.listen slot msec tcpAnswers answers) =>
      if slot < pool.count then
        let result := pool.server.listen (pool.slots slot).toSSLSocket msec tcpAnswers answers
          pool.trace
        .secured result.value result.clientSocket
      else .done
  | .op (.send slot pData uSize script) =>
      if slot < pool.count then
        .ofSent (pool.server.send (pool.slots slot).toSSLSocket pData uSize script pool.trace)
      else .done
  | .op (.receive slot pData uSize bReadFully script) =>
      if slot < pool.count then
        .ofReceived (pool.server.receive (pool.slots slot).toSSLSocket pData uSize bReadFully script
          pool.trace)
      else .done
  | .op (.disconnect slot) =>
      if slot < pool.count then
        let result := pool.server.disconnect (pool.slots slot).toSSLSocket pool.trace
        .secured result.value result.self
      else .done
  | .setRcvTimeout slot msecTimeout iErr =>
      if slot < pool.count then
        .answered (pool.server.setRcvTimeout (pool.slots slot).toSSLSocket msecTimeout iErr
          pool.trace).1
      else .done
  | .setRcvTimeoutTimeval slot timeout iErr =>
      if slot < pool.count then
        .answered (pool.server.setRcvTimeoutTimeval (pool.slots slot).toSSLSocket timeout iErr
          pool.trace).1
      else .done
  | .setSndTimeout slot msecTimeout iErr =>
      if slot < pool.count then
        .answered (pool.server.setSndTimeout (pool.slots slot).toSSLSocket msecTimeout iErr
          pool.trace).1
      else .done
  | .setSndTimeoutTimeval slot timeout iErr =>
      if slot < pool.count then
        .answered (pool.server.setSndTimeoutTimeval (pool.slots slot).toSSLSocket timeout iErr
          pool.trace).1
      else .done
  | _ => .done

theorem ite_reply {exist : Prop} [Decidable exist] {first second : Reply} (same : first = second) :
    (if exist then first else .done) = if exist then second else .done := by
  rw [same]

theorem reply_seen (request : Request) : reply pool.silent request = reply pool request := by
  cases request with
  | op op =>
      cases op with
      | listen slot msec tcpAnswers answers =>
          apply ite_reply
          have listened := pool.server.listen_seen pool.trace (pool.slots slot).toSSLSocket msec
            tcpAnswers answers
          have value := congrArg
            (fun result : SSLListened => Reply.secured result.value result.clientSocket) listened
          exact value
      | send slot pData uSize script =>
          apply ite_reply
          have sent := pool.server.send_seen pool.trace (pool.slots slot).toSSLSocket pData uSize
            script
          exact (congrArg Reply.ofSent sent).trans (Reply.ofSent_seen _ _)
      | receive slot pData uSize bReadFully script =>
          apply ite_reply
          have received := pool.server.receive_seen pool.trace (pool.slots slot).toSSLSocket pData
            uSize bReadFully script
          exact (congrArg Reply.ofReceived received).trans (Reply.ofReceived_seen _ _)
      | disconnect slot =>
          apply ite_reply
          have closed := pool.server.disconnect_seen pool.trace (pool.slots slot).toSSLSocket
          have value := congrArg (fun result => Reply.secured result.value result.self) closed
          exact value
      | construct | moveConstruct | moveAssign => rfl
  | setSSLCerthAuth | setSSLCertFile | setSSLKeyFile => rfl
  | setRcvTimeout | setRcvTimeoutTimeval | setSndTimeout | setSndTimeoutTimeval =>
      exact ite_reply (congrArg Reply.answered (setTimeout_value ..))

end ServerPool

end SocketCpp
