import SocketCpp.TCPClient

namespace SocketCpp

open Data

/-! `CTCPServer`, POSIX build. -/

structure CTCPServer where
  eSettingsFlags : SettingsFlag
  listenSocket : Socket
  servAddr : SockAddrIn
deriving DecidableEq, Repr

/-- What the system answers to the calls of one `Listen`.  At most one of them
fails, and `reason` is the text of its error. -/
structure ListenAnswers where
  socket : Option Nat
  reuseAddr : Int
  bind : Int
  listen : Int
  select : SelectAnswer
  accept : Option Nat
  peer : SockAddrIn
  reason : String
deriving DecidableEq, Repr

structure Listened extends Result CTCPServer Bool where
  clientSocket : Socket

def isSpace (char : Char) : Bool :=
  char = ' ' || (0x09 ≤ char.toNat && char.toNat ≤ 0x0d)

def decimal (digits : List Char) : Nat :=
  (digits.takeWhile Char.isDigit).foldl (fun value digit => 10 * value + (digit.toNat - 48)) 0

def atoi (text : String) : Int :=
  match text.toList.dropWhile isSpace with
  | '-' :: digits => -(decimal digits : Int)
  | '+' :: digits => decimal digits
  | digits => decimal digits

/-- A port in network order is kept here by its value. -/
def htons (value : Int) : Nat :=
  (value % 65536).toNat

def inetNtoa (address : Nat) : String :=
  toString (address / 16777216 % 256) ++ "." ++ toString (address / 65536 % 256) ++ "." ++
    toString (address / 256 % 256) ++ "." ++ toString (address % 256)

def inaddrAny : Nat := 0

def acceptWaitInfDelay : Nat := sizeMax

namespace CTCPServer

def new (strPort : String) (eSettings : SettingsFlag) : CTCPServer where
  eSettingsFlags := eSettings
  listenSocket := invalidSocket
  servAddr := { sinFamily := afInet, sinAddr := inaddrAny, sinPort := htons (atoi strPort) }

def setRcvTimeoutTimeval (server : CTCPServer) (clientSocket : Socket) (timeout : Timeval)
    (iErr : Int) (trace : Trace) : Bool × Trace :=
  setTimeout clientSocket server.eSettingsFlags (.rcvTimeo timeout)
    ("[TCPServer][Error] CTCPServer::SetRcvTimeout : " ++
      "Socket error in SO_RCVTIMEO call to setsockopt.") iErr trace

def setRcvTimeout (server : CTCPServer) (clientSocket : Socket) (msecTimeout : UInt32)
    (iErr : Int) (trace : Trace) : Bool × Trace :=
  server.setRcvTimeoutTimeval clientSocket (timevalFromMsec msecTimeout) iErr trace

def setSndTimeoutTimeval (server : CTCPServer) (clientSocket : Socket) (timeout : Timeval)
    (iErr : Int) (trace : Trace) : Bool × Trace :=
  setTimeout clientSocket server.eSettingsFlags (.sndTimeo timeout)
    ("[TCPServer][Error] CTCPServer::SetSndTimeout : " ++
      "Socket error in SO_SNDTIMEO call to setsockopt.") iErr trace

/-- The millisecond overload forwards to the receive setter. -/
def setSndTimeout (server : CTCPServer) (clientSocket : Socket) (msecTimeout : UInt32)
    (iErr : Int) (trace : Trace) : Bool × Trace :=
  server.setRcvTimeoutTimeval clientSocket (timevalFromMsec msecTimeout) iErr trace

/-- The first part of `Listen`, entered when there is no listening socket yet. -/
def createListenSocket (server : CTCPServer) (answers : ListenAnswers) (trace : Trace) :
    Result CTCPServer Bool :=
  let flags := server.eSettingsFlags
  let listenSocket := trace.newSocket answers.socket
  let created : Trace := .socket afInet sockStream 0 listenSocket :: trace
  if listenSocket < 0 then
    { self := { server with listenSocket := invalidSocket }
      trace := created.oLog flags ("[TCPServer][Error] opening socket : " ++ answers.reason)
      value := false }
  else
    let allowed : Trace := .setsockopt listenSocket (.reuseAddr 1) answers.reuseAddr :: created
    if answers.reuseAddr < 0 then
      { self := { server with listenSocket := invalidSocket }
        trace := .close listenSocket :: allowed.oLog flags
          ("[TCPServer][Error] CTCPServer::Listen : " ++
            "Socket error in SO_REUSEADDR call to setsockopt.")
        value := false }
    else
      let named : Trace := .bind listenSocket server.servAddr answers.bind :: allowed
      if answers.bind < 0 then
        { self := { server with listenSocket }
          trace := named.oLog flags ("[TCPServer][Error] bind failed : " ++ answers.reason)
          value := false }
      else { self := { server with listenSocket }, trace := named, value := true }

/-- The second part of `Listen`: `listen`, the optional wait, and `accept`. -/
def acceptClient (server : CTCPServer) (msec : Nat) (answers : ListenAnswers) (trace : Trace) :
    Listened :=
  let flags := server.eSettingsFlags
  let listening : Trace := .listen server.listenSocket answers.listen :: trace
  if answers.listen < 0 then
    { self := server
      trace := listening.oLog flags ("[TCPServer][Error] listen failed : " ++ answers.reason)
      value := false, clientSocket := invalidSocket }
  else
    let selected :=
      if msec ≠ acceptWaitInfDelay then
        selectSocket server.listenSocket msec answers.select listening
      else (1, listening)
    if selected.1 = 0 then
      { self := server
        trace := selected.2.oLog flags "[TCPServer][Error] CTCPServer::Listen : Timed out."
        value := false, clientSocket := invalidSocket }
    else if selected.1 = -1 then
      { self := server
        trace := selected.2.oLog flags
          "[TCPServer][Error] CTCPServer::Listen : Error selecting socket."
        value := false, clientSocket := invalidSocket }
    else
      let clientSocket := selected.2.newSocket answers.accept
      let accepted : Trace :=
        .accept server.listenSocket clientSocket answers.peer :: selected.2
      if clientSocket < 0 then
        { self := server
          trace := accepted.oLog flags ("[TCPServer][Error] accept failed : " ++ answers.reason)
          value := false, clientSocket }
      else
        { self := server
          trace := accepted.oLog flags ("[TCPServer][Info] Incoming connection from '" ++
            inetNtoa answers.peer.sinAddr ++ "' port '" ++ toString answers.peer.sinPort ++ "'")
          value := true, clientSocket }

def listen (server : CTCPServer) (msec : Nat) (answers : ListenAnswers) (trace : Trace) :
    Listened :=
  if server.listenSocket = invalidSocket then
    let created := server.createListenSocket answers trace
    if created.value then created.self.acceptClient msec answers created.trace
    else { created with clientSocket := invalidSocket }
  else server.acceptClient msec answers trace

def receiveEntry (clientSocket : Socket) (pData : Option (Buffer UInt8)) (uSize : Nat)
    (trace : Trace) : ReceiveState ⊕ Received :=
  if clientSocket < 0 ∨ pData.isNone ∨ uSize = 0 then .inr (.refused pData trace (-1))
  else .inl (.start pData trace)

def receive (_server : CTCPServer) (clientSocket : Socket) (pData : Option (Buffer UInt8))
    (uSize : Nat) (bReadFully : Bool) (script : List RecvAnswer) (trace : Trace) :
    ReceiveState ⊕ Received :=
  CallLoop.enter (recvTurn clientSocket uSize bReadFully)
    (receiveEntry clientSocket pData uSize trace) script

def sendEntry (clientSocket : Socket) (pData : Option (Buffer UInt8)) (uSize : Nat)
    (trace : Trace) : SendState ⊕ Sent :=
  if clientSocket < 0 ∨ pData.isNone ∨ uSize = 0 then .inr (.refused trace)
  else .inl (.start trace)

def sendTurn (server : CTCPServer) (clientSocket : Socket) :
    Nat → SendState → SendAnswer → SendState ⊕ Sent :=
  SocketCpp.sendTurn clientSocket server.eSettingsFlags
    "[TCPServer][Error] Socket error in call to send."

def send (server : CTCPServer) (clientSocket : Socket) (pData : Option (Buffer UInt8))
    (uSize : Nat) (script : List SendAnswer) (trace : Trace) : SendState ⊕ Sent :=
  CallLoop.enter (server.sendTurn clientSocket uSize)
    (sendEntry clientSocket pData uSize trace) script

def disconnect (_server : CTCPServer) (clientSocket : Socket) (trace : Trace) : Bool × Trace :=
  (true, .close clientSocket :: trace)

def destroy (server : CTCPServer) (trace : Trace) : State CTCPServer :=
  { self := server, trace := .close server.listenSocket :: trace }

/-! Runs of one server together with the clients it has accepted. -/

inductive Request where
  | listen (msec : Nat) (answers : ListenAnswers)
  | receive (clientSocket : Socket) (pData : Option (Buffer UInt8)) (uSize : Nat)
      (bReadFully : Bool) (script : List RecvAnswer)
  | send (clientSocket : Socket) (pData : Option (Buffer UInt8)) (uSize : Nat)
      (script : List SendAnswer)
  | disconnect (clientSocket : Socket)
  | setRcvTimeout (clientSocket : Socket) (msecTimeout : UInt32) (iErr : Int)
  | setRcvTimeoutTimeval (clientSocket : Socket) (timeout : Timeval) (iErr : Int)
  | setSndTimeout (clientSocket : Socket) (msecTimeout : UInt32) (iErr : Int)
  | setSndTimeoutTimeval (clientSocket : Socket) (timeout : Timeval) (iErr : Int)

def serve (state : State CTCPServer) : Request → State CTCPServer
  | .listen msec answers => (state.self.listen msec answers state.trace).toState
  | .receive clientSocket pData uSize bReadFully script =>
      { state with
        trace := receivedTrace (state.self.receive clientSocket pData uSize bReadFully script
          state.trace) }
  | .send clientSocket pData uSize script =>
      { state with trace := sentTrace (state.self.send clientSocket pData uSize script state.trace) }
  | .disconnect clientSocket =>
      { state with trace := (state.self.disconnect clientSocket state.trace).2 }
  | .setRcvTimeout clientSocket msecTimeout iErr =>
      { state with
        trace := (state.self.setRcvTimeout clientSocket msecTimeout iErr state.trace).2 }
  | .setRcvTimeoutTimeval clientSocket timeout iErr =>
      { state with
        trace := (state.self.setRcvTimeoutTimeval clientSocket timeout iErr state.trace).2 }
  | .setSndTimeout clientSocket msecTimeout iErr =>
      { state with
        trace := (state.self.setSndTimeout clientSocket msecTimeout iErr state.trace).2 }
  | .setSndTimeoutTimeval clientSocket timeout iErr =>
      { state with
        trace := (state.self.setSndTimeoutTimeval clientSocket timeout iErr state.trace).2 }

end CTCPServer

end SocketCpp
