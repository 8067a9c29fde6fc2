import SocketCpp.SecureSocket
import SocketCpp.TCPServer

namespace SocketCpp

open Data

/-! `CTCPSSLServer`, POSIX build. -/

structure CTCPSSLServer extends ASecureSocket where
  tcpServer : CTCPServer
deriving DecidableEq, Repr

/-- What OpenSSL answers in one `Listen`. -/
structure AcceptAnswers where
  ctxNew : Option Nat
  files : FileAnswers
  sslNew : Nat
  handshake : Int
  error : Int
deriving DecidableEq, Repr

structure SSLListened extends Result CTCPSSLServer Bool where
  clientSocket : SSLSocket

namespace CTCPSSLServer

def new (strPort : String) (secure : ASecureSocket) : CTCPSSLServer where
  toASecureSocket := secure
  tcpServer := .new strPort secure.eSettingsFlags

def setRcvTimeout (server : CTCPSSLServer) (clientSocket : SSLSocket) (msecTimeout : UInt32)
    (iErr : Int) (trace : Trace) : Bool × Trace :=
  server.tcpServer.setRcvTimeout clientSocket.sockFd msecTimeout iErr trace

def setSndTimeout (server : CTCPSSLServer) (clientSocket : SSLSocket) (msecTimeout : UInt32)
    (iErr : Int) (trace : Trace) : Bool × Trace :=
  server.tcpServer.setSndTimeout clientSocket.sockFd msecTimeout iErr trace

def setRcvTimeoutTimeval (server : CTCPSSLServer) (clientSocket : SSLSocket) (timeout : Timeval)
    (iErr : Int) (trace : Trace) : Bool × Trace :=
  server.tcpServer.setRcvTimeoutTimeval clientSocket.sockFd timeout iErr trace

def setSndTimeoutTimeval (server : CTCPSSLServer) (clientSocket : SSLSocket) (timeout : Timeval)
    (iErr : Int) (trace : Trace) : Bool × Trace :=
  server.tcpServer.setSndTimeoutTimeval clientSocket.sockFd timeout iErr trace

/-- `Listen` once the files are loaded into `ctx`. -/
def acceptSession (server : CTCPSSLServer) (clientSocket : SSLSocket) (ctx : Nat)
    (answers : AcceptAnswers) (trace : Trace) : SSLListened :=
  let flags := server.eSettingsFlags
  let pSSL := trace.newSession answers.sslNew
  let clientSocket := { clientSocket with pSSL := some pSSL }
  let attached : Trace :=
    .sslSetFd (some pSSL) clientSocket.sockFd :: .sslNew (some ctx) pSSL :: trace
  let iSSLErr := answers.handshake
  let shaken : Trace := .sslAccept (some pSSL) iSSLErr :: attached
  if iSSLErr ≤ 0 then
    let logged := shaken.oLogAfter flags (.sslGetError (some pSSL) iSSLErr)
      ("[TCPSSLServer][Error] accept failed. (Error=" ++ toString iSSLErr ++ " | " ++
        getSSLErrorString answers.error ++ ")")
    let shut := shutdownSSL clientSocket (.errPrintErrors :: logged)
    { self := server, trace := shut.trace, value := false, clientSocket := shut.self }
  else { self := server, trace := shaken, value := true, clientSocket }

/-- `Listen` once a TCP connection has been accepted. -/
def acceptSecurely (server : CTCPSSLServer) (clientSocket : SSLSocket) (answers : AcceptAnswers)
    (trace : Trace) : SSLListened :=
  let flags := server.eSettingsFlags
  let setUp := server.setUpCtxServer clientSocket answers.ctxNew trace
  match setUp.self.pCTXSSL with
  | none =>
      { self := server
        trace := setUp.trace.oLog flags "[TCPSSLServer][Error] SSL CTX failed."
        value := false
        clientSocket := setUp.self }
  | some ctx =>
      let loaded := server.loadFiles "[TCPSSLServer]" (some ctx) answers.files setUp.trace
      if loaded.1 then server.acceptSession setUp.self ctx answers loaded.2
      else { self := server, trace := loaded.2, value := false, clientSocket := setUp.self }

def listen (server : CTCPSSLServer) (clientSocket : SSLSocket) (msec : Nat)
    (tcpAnswers : ListenAnswers) (answers : AcceptAnswers) (trace : Trace) : SSLListened :=
  let tcp := server.tcpServer.listen msec tcpAnswers trace
  let self := { server with tcpServer := tcp.self }
  let clientSocket := { clientSocket with sockFd := tcp.clientSocket }
  if tcp.value then self.acceptSecurely clientSocket answers tcp.trace
  else
    { self
      trace := tcp.trace.oLog server.eSettingsFlags
        "[TCPSSLServer][Error] Unable to accept an incoming TCP connection with a client."
      value := false
      clientSocket }

def recvTurn (server : CTCPSSLServer) (clientSocket : SSLSocket) :
    Nat → Bool → ReceiveState → RecvAnswer → ReceiveState ⊕ Received :=
  sslReadTurn clientSocket.pSSL server.eSettingsFlags fun nRecvd error =>
    "[TCPSSLServer][Error] SSL_read failed (Error=" ++ toString nRecvd ++ " | " ++
      getSSLErrorString error ++ ")"

/-- Nothing is checked in front of the loop. -/
def receive (server : CTCPSSLServer) (clientSocket : SSLSocket) (pData : Option (Buffer UInt8))
    (uSize : Nat) (bReadFully : Bool) (script : List RecvAnswer) (trace : Trace) :
    ReceiveState ⊕ Received :=
  CallLoop.run (server.recvTurn clientSocket uSize bReadFully) (.start pData trace) script

def sendTurn (server : CTCPSSLServer) (clientSocket : SSLSocket) :
    Nat → SendState → SendAnswer → SendState ⊕ Sent :=
  sslWriteTurn clientSocket.pSSL server.eSettingsFlags fun nSent error =>
    "[TCPSSLServer][Error] SSL_write failed (Error=" ++ toString nSent ++ " | " ++
      getSSLErrorString error ++ ")."

def send (server : CTCPSSLServer) (clientSocket : SSLSocket) (_pData : Option (Buffer UInt8))
    (uSize : Nat) (script : List SendAnswer) (trace : Trace) : SendState ⊕ Sent :=
  CallLoop.run (server.sendTurn clientSocket uSize) (.start trace) script

/-- The session of the client is shut down and its descriptor closed, but the
number of the descriptor is kept. -/
def disconnect (server : CTCPSSLServer) (clientSocket : SSLSocket) (trace : Trace) :
    Result SSLSocket Bool :=
  let shut := shutdownSSL clientSocket trace
  let closed := server.tcpServer.disconnect shut.self.sockFd shut.trace
  { self := shut.self, trace := closed.2, value := closed.1 }

/-- `~CTCPSSLServer` is empty, and the destructor of the member `m_TCPServer` follows. -/
def destroy (server : CTCPSSLServer) (trace : Trace) : State CTCPSSLServer :=
  let member := server.tcpServer.destroy trace
  { self := { server with tcpServer := member.self }, trace := member.trace }

end CTCPSSLServer

end SocketCpp
