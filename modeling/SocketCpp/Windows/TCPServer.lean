import SocketCpp.TCPServer
import SocketCpp.Windows.TCPClient

namespace SocketCpp.Windows

open Data

/-! `CTCPServer`, Windows build. -/

structure CTCPServer where
  eSettingsFlags : SettingsFlag
  listenSocket : Socket
  pResultAddrInfo : Option Nat
deriving DecidableEq, Repr

/-- What the system answers to the calls of one `Listen`.  `error` belongs to the call
that fails, and `entry` is the head of the address list. -/
structure ListenAnswers where
  entry : AddrInfo
  socket : Option Nat
  reuseAddr : Int
  bind : Int
  listen : Int
  select : SelectAnswer
  accept : Option Nat
  peer : SockAddrIn
  error : Int
deriving DecidableEq, Repr

structure Listened extends Result CTCPServer Bool where
  clientSocket : Socket

def aiPassive : Int := 1

def sdReceive : Int := 0

namespace CTCPServer

def hints : Hints where
  aiFlags := aiPassive
  aiFamily := afInet
  aiSocktype := sockStream
  aiProtocol := ipprotoTcp

/-- The constructor, or the text of the `EResolveError` it throws. -/
def new (strPort : String) (eSettings : SettingsFlag) (iResult : Int) (list : Nat) :
    Except String (State CTCPServer) :=
  if iResult ≠ 0 then
    .error ("[TCPServer][Error] getaddrinfo failed : " ++ toString iResult)
  else
    let pResultAddrInfo := some (Trace.newList [] list)
    .ok {
      self := { eSettingsFlags := eSettings, listenSocket := invalidSocket, pResultAddrInfo }
      trace := [.getaddrinfo none strPort hints iResult pResultAddrInfo] }

/-- The part of `Listen` that makes a listening socket.  A read through a null pointer is
recorded, and nothing comes after it. -/
def createListenSocket (server : CTCPServer) (answers : ListenAnswers) (trace : Trace) :
    Result CTCPServer Bool :=
  let flags := server.eSettingsFlags
  let asked : Trace := .readAddrInfo server.pResultAddrInfo :: trace
  if server.pResultAddrInfo = none then { self := server, trace := asked, value := false }
  else
    let listenSocket := asked.newSocket answers.socket
    let created : Trace := .socket answers.entry.aiFamily answers.entry.aiSocktype
      answers.entry.aiProtocol listenSocket :: asked
    let freed := { server with listenSocket := invalidSocket, pResultAddrInfo := none }
    if listenSocket = invalidSocket then
      { self := freed
        trace := .freeaddrinfo server.pResultAddrInfo :: created.oLog flags
          ("[TCPServer][Error] socket failed : " ++ toString answers.error)
        value := false }
    else
      let allowed : Trace := .setsockopt listenSocket (.reuseAddr 1) answers.reuseAddr :: created
      if answers.reuseAddr < 0 then
        let closed : Trace := .closesocket listenSocket :: allowed.oLog flags
          "[TCPServer][Error] CTCPServer::Listen : Socket error in call to setsockopt."
        { self := freed
          trace := .freeaddrinfo server.pResultAddrInfo :: closed
          value := false }
      else
        let bound : Trace := .freeaddrinfo server.pResultAddrInfo ::
          .bind listenSocket answers.entry.aiAddr answers.bind ::
          .readAddrInfo server.pResultAddrInfo :: allowed
        if answers.bind = socketError then
          { self := freed
            trace := .closesocket listenSocket :: bound.oLog flags
              ("[TCPServer][Error] bind failed : " ++ toString answers.error)
            value := false }
        else { self := { freed with listenSocket }, trace := bound, value := true }

def incomingMessage (peer : SockAddrIn) : String :=
  let address := if peer.sinFamily = afInet then inetNtoa peer.sinAddr else ""
  let port := if peer.sinFamily = afInet then peer.sinPort else 0
  "[TCPServer][Info] Incoming connection from '" ++ address ++ "' port '" ++ toString port ++ "'"

/-- The part of `Listen` that waits for a client and accepts it. -/
def acceptClient (server : CTCPServer) (msec : Nat) (answers : ListenAnswers) (trace : Trace) :
    Listened :=
  let flags := server.eSettingsFlags
  let listening : Trace := .listen server.listenSocket answers.listen :: trace
  if answers.listen = socketError then
    { self := { server with listenSocket := invalidSocket }
      trace := .closesocket server.listenSocket :: listening.oLog flags
        ("[TCPServer][Error] listen failed : " ++ toString answers.error)
      value := false, clientSocket := invalidSocket }
  else
    let selected :=
      if msec ≠ acceptWaitInfDelay then
        selectSocket server.listenSocket msec answers.select listening
      else (1, listening)
    if selected.1 = 0 then
      { self := server
        trace := selected.2.oLog flags "[TCPServer][Error] CTCPServer::Listen : Timed out."
        value := false, clientSocket := invalidSocket }
    else if selected.1 = -1 then
      { self := server
        trace := selected.2.oLog flags
          "[TCPServer][Error] CTCPServer::Listen : Error selecting socket."
        value := false, clientSocket := invalidSocket }
    else
      let clientSocket := selected.2.newSocket answers.accept
      let accepted : Trace :=
        .accept server.listenSocket clientSocket answers.peer :: selected.2
      if clientSocket = invalidSocket then
        { self := server
          trace := accepted.oLog flags
            ("[TCPServer][Error] accept failed : " ++ toString answers.error)
          value := false, clientSocket }
      else
        { self := server
          trace := accepted.oLog flags (incomingMessage answers.peer)
          value := true, clientSocket }

def listen (server : CTCPServer) (msec : Nat) (answers : ListenAnswers) (trace : Trace) :
    Listened :=
  if server.listenSocket = invalidSocket then
    let created := server.createListenSocket answers trace
    if created.value then created.self.acceptClient msec answers created.trace
    else { created with clientSocket := invalidSocket }
  else server.acceptClient msec answers trace

/-- An unsigned handle is never below zero, so the guard lets every `ClientSocket` pass. -/
def receiveEntry (pData : Option (Buffer UInt8)) (uSize : Nat) (trace : Trace) :
    ReceiveState ⊕ Received :=
  if pData.isNone ∨ uSize = 0 then .inr (.refused pData trace (-1))
  else .inl (.start pData trace)

def recvTurn (server : CTCPServer) (clientSocket : Socket) :
    Nat → Bool → ReceiveState → RecvAnswer → ReceiveState ⊕ Received :=
  Windows.recvTurn clientSocket server.eSettingsFlags
    "[TCPServer][Error] Socket error in call to recv."

def receive (server : CTCPServer) (clientSocket : Socket) (pData : Option (Buffer UInt8))
    (uSize : Nat) (bReadFully : Bool) (script : List RecvAnswer) (trace : Trace) :
    ReceiveState ⊕ Received :=
  CallLoop.enter (server.recvTurn clientSocket uSize bReadFully)
    (receiveEntry pData uSize trace) script

/-- A client is closed only if it can be shut down. -/
def disconnect (server : CTCPServer) (clientSocket : Socket) (answer : Answer) (trace : Trace) :
    Bool × Trace :=
  let shut : Trace := .shutdown clientSocket sdReceive answer.result :: trace
  if answer.result = socketError then
    (false, shut.oLog server.eSettingsFlags
      ("[TCPServer][Error] shutdown failed : " ++ toString answer.error))
  else (true, .closesocket clientSocket :: shut)

def destroy (server : CTCPServer) (trace : Trace) : State CTCPServer :=
  { self := server, trace := .closesocket server.listenSocket :: trace }

/-! Runs of one server. -/

structure ListenOp where
  msec : Nat
  answers : ListenAnswers

def step (state : State CTCPServer) (op : ListenOp) : State CTCPServer :=
  (state.self.listen op.msec op.answers state.trace).toState

inductive Request where
  | listen (op : ListenOp)
  | receive (clientSocket : Socket) (pData : Option (Buffer UInt8)) (uSize : Nat)
      (bReadFully : Bool) (script : List RecvAnswer)
  | disconnect (clientSocket : Socket) (answer : Answer)

def serve (state : State CTCPServer) : Request → State CTCPServer
  | .listen op => step state op
  | .receive clientSocket pData uSize bReadFully script =>
      { state with
        trace := Sum.elim ReceiveState.trace (fun result => result.trace)
          (state.self.receive clientSocket pData uSize bReadFully script state.trace) }
  | .disconnect clientSocket answer =>
      { state with trace := (state.self.disconnect clientSocket answer state.trace).2 }

end CTCPServer

end SocketCpp.Windows
