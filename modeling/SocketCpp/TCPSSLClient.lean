import SocketCpp.TCPClient

namespace SocketCpp

open Data

/-! `CTCPSSLClient`, POSIX build. -/

structure CTCPSSLClient extends ASecureSocket where
  tcpClient : CTCPClient
  sslConnectSocket : SSLSocket
deriving DecidableEq, Repr

/-- What OpenSSL answers in one `Connect`.  `verifyResult` is what
`SSL_get_verify_result` would give for the server's chain. -/
structure TlsAnswers where
  ctxNew : Option Nat
  files : FileAnswers
  sslNew : Nat
  handshake : Int
  verifyResult : Int
  cipher : String
  error : Int
deriving DecidableEq, Repr

def x509VOk : Int := 0

/-- What `SSL_connect` returns.  A context that verifies its peer lets no
handshake succeed with another verify result than `X509_V_OK`. -/
def Trace.handshakeResult (trace : Trace) (ctx : Nat) (answers : TlsAnswers) : Int :=
  if trace.verifyMode ctx = .verifyPeer ∧ answers.verifyResult ≠ x509VOk ∧
    0 < answers.handshake then -1
  else answers.handshake

namespace CTCPSSLClient

def new (secure : ASecureSocket) : CTCPSSLClient where
  toASecureSocket := secure
  tcpClient := .new secure.eSettingsFlags
  sslConnectSocket := .empty

def setRcvTimeout (client : CTCPSSLClient) (msecTimeout : UInt32) (iErr : Int) (trace : Trace) :
    Bool × Trace :=
  client.tcpClient.setRcvTimeout msecTimeout iErr trace

def setSndTimeout (client : CTCPSSLClient) (msecTimeout : UInt32) (iErr : Int) (trace : Trace) :
    Bool × Trace :=
  client.tcpClient.setSndTimeout msecTimeout iErr trace

def setRcvTimeoutTimeval (client : CTCPSSLClient) (timeout : Timeval) (iErr : Int)
    (trace : Trace) : Bool × Trace :=
  client.tcpClient.setRcvTimeoutTimeval timeout iErr trace

def setSndTimeoutTimeval (client : CTCPSSLClient) (timeout : Timeval) (iErr : Int)
    (trace : Trace) : Bool × Trace :=
  client.tcpClient.setSndTimeoutTimeval timeout iErr trace

/-- `Connect` once the files are loaded into `ctx`. -/
def startSession (client : CTCPSSLClient) (ctx : Nat) (answers : TlsAnswers) (trace : Trace) :
    Result CTCPSSLClient Bool :=
  let flags := client.eSettingsFlags
  let pSSL := trace.newSession answers.sslNew
  let self := { client with
    sslConnectSocket := { client.sslConnectSocket with pSSL := some pSSL } }
  let attached : Trace := .sslSetFd (some pSSL) client.sslConnectSocket.sockFd ::
    .sslNew (some ctx) pSSL :: trace
  let iResult := attached.handshakeResult ctx answers
  let shaken : Trace := .sslConnect (some pSSL) iResult :: attached
  if 0 < iResult then
    { self
      trace := shaken.oLogAfter flags (.sslGetCipher (some pSSL))
        ("[TCPSSLClient][Info] Connected with '" ++ answers.cipher ++ "' encryption.")
      value := true }
  else
    { self
      trace := Trace.oLogAfter (.errPrintErrors :: shaken) flags
        (.sslGetError (some pSSL) iResult)
        ("[TCPSSLClient][Error] SSL_connect failed (Error=" ++ toString iResult ++ " | " ++
          getSSLErrorString answers.error ++ ")")
      value := false }

/-- `Connect` once the TCP connection is up. -/
def secureConnection (client : CTCPSSLClient) (answers : TlsAnswers) (trace : Trace) :
    Result CTCPSSLClient Bool :=
  let flags := client.eSettingsFlags
  let socket := { client.sslConnectSocket with sockFd := client.tcpClient.connectSocket }
  let setUp := client.setUpCtxClient socket answers.ctxNew trace
  let self := { client with sslConnectSocket := setUp.self }
  match setUp.self.pCTXSSL with
  | none =>
      { self
        trace := setUp.trace.oLog flags "[TCPSSLClient][Error] SSL_CTX_new failed."
        value := false }
  | some ctx =>
      let loaded := client.loadFiles "[TCPSSLClient]" (some ctx) answers.files setUp.trace
      if loaded.1 then self.startSession ctx answers loaded.2
      else { self, trace := loaded.2, value := false }

def connect (client : CTCPSSLClient) (strServer strPort : String) (resolution : Resolution)
    (answers : TlsAnswers) (trace : Trace) : Result CTCPSSLClient Bool :=
  let tcp := client.tcpClient.connect strServer strPort resolution trace
  let self := { client with tcpClient := tcp.self }
  if tcp.value then self.secureConnection answers tcp.trace
  else
    { self
      trace := tcp.trace.oLog client.eSettingsFlags
        "[TCPSSLClient][Error] Unable to establish a TCP connection with the server."
      value := false }

def sendEntry (client : CTCPSSLClient) (trace : Trace) : SendState ⊕ Sent :=
  if client.tcpClient.eStatus ≠ .connected then
    .inr (.refused (trace.oLog client.eSettingsFlags
      "[TCPSSLClient][Error] SSL send failed : not connected to an SSL server."))
  else .inl (.start trace)

def sendTurn (client : CTCPSSLClient) : Nat → SendState → SendAnswer → SendState ⊕ Sent :=
  sslWriteTurn client.sslConnectSocket.pSSL client.eSettingsFlags fun nSent error =>
    "[TCPSSLClient][Error] SSL_write failed (Error=" ++ toString nSent ++ " | " ++
      getSSLErrorString error ++ ")"

def send (client : CTCPSSLClient) (_pData : Option (Buffer UInt8)) (uSize : Nat)
    (script : List SendAnswer) (trace : Trace) : SendState ⊕ Sent :=
  CallLoop.enter (client.sendTurn uSize) (client.sendEntry trace) script

def receiveEntry (client : CTCPSSLClient) (pData : Option (Buffer UInt8)) (trace : Trace) :
    ReceiveState ⊕ Received :=
  if client.tcpClient.eStatus ≠ .connected then
    .inr (.refused pData (trace.oLog client.eSettingsFlags
      "[TCPSSLClient][Error] SSL recv failed : not connected to a server.") (-1))
  else .inl (.start pData trace)

def recvTurn (client : CTCPSSLClient) :
    Nat → Bool → ReceiveState → RecvAnswer → ReceiveState ⊕ Received :=
  sslReadTurn client.sslConnectSocket.pSSL client.eSettingsFlags fun nRecvd error =>
    "[TCPSSLClient][Error] SSL_read failed (Error=" ++ toString nRecvd ++ " | " ++
      getSSLErrorString error ++ ")"

def receive (client : CTCPSSLClient) (pData : Option (Buffer UInt8)) (uSize : Nat)
    (bReadFully : Bool) (script : List RecvAnswer) (trace : Trace) : ReceiveState ⊕ Received :=
  CallLoop.enter (client.recvTurn uSize bReadFully) (client.receiveEntry pData trace) script

def disconnect (client : CTCPSSLClient) (trace : Trace) : Result CTCPSSLClient Bool :=
  if client.tcpClient.eStatus ≠ .connected then { self := client, trace, value := true }
  else
    let shut := shutdownSSL client.sslConnectSocket trace
    let closed := client.tcpClient.disconnect shut.trace
    { self := { client with sslConnectSocket := shut.self, tcpClient := closed.self }
      trace := closed.trace
      value := closed.value }

/-- `~CTCPSSLClient`, and then the destructor of the member `m_TCPClient`. -/
def destroy (client : CTCPSSLClient) (trace : Trace) : State CTCPSSLClient :=
  let body : State CTCPSSLClient :=
    if client.tcpClient.eStatus = .connected then
      let first := client.disconnect trace
      let second := first.self.tcpClient.disconnect first.trace
      { self := { first.self with tcpClient := second.self }, trace := second.trace }
    else { self := client, trace }
  let member := body.self.tcpClient.destroy body.trace
  { self := { body.self with tcpClient := member.self }, trace := member.trace }

/-! Runs of one client. -/

inductive Op where
  | connect (strServer strPort : String) (resolution : Resolution) (answers : TlsAnswers)
  | send (pData : Option (Buffer UInt8)) (uSize : Nat) (script : List SendAnswer)
  | receive (pData : Option (Buffer UInt8)) (uSize : Nat) (bReadFully : Bool)
      (script : List RecvAnswer)
  | disconnect

def step (state : State CTCPSSLClient) : Op → State CTCPSSLClient
  | .connect strServer strPort resolution answers =>
      (state.self.connect strServer strPort resolution answers state.trace).toState
  | .send pData uSize script =>
      { state with trace := sentTrace (state.self.send pData uSize script state.trace) }
  | .receive pData uSize bReadFully script =>
      { state with
        trace := receivedTrace (state.self.receive pData uSize bReadFully script state.trace) }
  | .disconnect => (state.self.disconnect state.trace).toState

def init (secure : ASecureSocket) : State CTCPSSLClient :=
  { self := new secure, trace := [] }

/-! Runs in which the files and the timeouts are set as well. -/

inductive Request where
  | op (op : Op)
  | setSSLCerthAuth (strPath : String)
  | setSSLCertFile (strPath : String)
  | setSSLKeyFile (strPath : String)
  | setRcvTimeout (msecTimeout : UInt32) (iErr : Int)
  | setRcvTimeoutTimeval (timeout : Timeval) (iErr : Int)
  | setSndTimeout (msecTimeout : UInt32) (iErr : Int)
  | setSndTimeoutTimeval (timeout : Timeval) (iErr : Int)

def configure (client : CTCPSSLClient) (secure : ASecureSocket) : CTCPSSLClient :=
  { client with toASecureSocket := secure }

def request (state : State CTCPSSLClient) : Request → State CTCPSSLClient
  | .op op => step state op
  | .setSSLCerthAuth strPath =>
      { state with self := state.self.configure (state.self.setSSLCerthAuth strPath) }
  | .setSSLCertFile strPath =>
      { state with self := state.self.configure (state.self.setSSLCertFile strPath) }
  | .setSSLKeyFile strPath =>
      { state with self := state.self.configure (state.self.setSSLKeyFile strPath) }
  | .setRcvTimeout msecTimeout iErr =>
      { state with trace := (state.self.setRcvTimeout msecTimeout iErr state.trace).2 }
  | .setRcvTimeoutTimeval timeout iErr =>
      { state with trace := (state.self.setRcvTimeoutTimeval timeout iErr state.trace).2 }
  | .setSndTimeout msecTimeout iErr =>
      { state with trace := (state.self.setSndTimeout msecTimeout iErr state.trace).2 }
  | .setSndTimeoutTimeval timeout iErr =>
      { state with trace := (state.self.setSndTimeoutTimeval timeout iErr state.trace).2 }

end CTCPSSLClient

end SocketCpp
