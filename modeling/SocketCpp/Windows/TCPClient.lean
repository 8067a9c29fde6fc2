import SocketCpp.TCPClient
import SocketCpp.Windows.Loops

namespace SocketCpp.Windows

open Data

/-! `CTCPClient`, Windows build. -/

structure CTCPClient where
  eSettingsFlags : SettingsFlag
  eStatus : SocketStatus
  connectSocket : Socket
  pResultAddrInfo : Option Nat
deriving DecidableEq, Repr

/-- What the system answers to the calls of one `Connect`.  `shutdown` is for the
connection that is closed first, and `error` belongs to the call that fails. -/
structure ConnectAnswers where
  shutdown : Answer
  getaddrinfo : Int
  list : Nat
  entry : AddrInfo
  socket : Option Nat
  noDelay : Int
  connect : Int
  error : Int
deriving DecidableEq, Repr

def ipprotoTcp : Int := 6

def sdSend : Int := 1

namespace CTCPClient

def hints : Hints where
  aiFlags := 0
  aiFamily := afInet
  aiSocktype := sockStream
  aiProtocol := ipprotoTcp

def new (eSettings : SettingsFlag) : CTCPClient where
  eSettingsFlags := eSettings
  eStatus := .disconnected
  connectSocket := invalidSocket
  pResultAddrInfo := none

def freeAddrInfo (client : CTCPClient) (trace : Trace) : State CTCPClient :=
  if client.pResultAddrInfo ≠ none then
    { self := { client with pResultAddrInfo := none }
      trace := .freeaddrinfo client.pResultAddrInfo :: trace }
  else { self := client, trace }

def disconnect (client : CTCPClient) (answer : Answer) (trace : Trace) :
    Result CTCPClient Bool :=
  if client.eStatus ≠ .connected then { self := client, trace, value := true }
  else
    let self := { client with eStatus := .disconnected }
    let shut : Trace := .shutdown client.connectSocket sdSend answer.result :: trace
    if answer.result = socketError then
      { self
        trace := shut.oLog client.eSettingsFlags
          ("[TCPClient][Error] shutdown failed : " ++ toString answer.error)
        value := false }
    else
      let freed := self.freeAddrInfo (.closesocket client.connectSocket :: shut)
      { self := { freed.self with connectSocket := invalidSocket }
        trace := freed.trace
        value := true }

/-- `Connect` once there is a socket. -/
def connectOn (client : CTCPClient) (answers : ConnectAnswers) (trace : Trace) :
    Result CTCPClient Bool :=
  let flags := client.eSettingsFlags
  let set : Trace := .setsockopt client.connectSocket (.noDelay 1) answers.noDelay :: trace
  if answers.noDelay = invalidSocket then
    let closed : Trace := .closesocket client.connectSocket ::
      set.oLog flags "[TCPClient][Error] Socket error in call to setsockopt"
    { self := { client with pResultAddrInfo := none }
      trace := .freeaddrinfo client.pResultAddrInfo :: closed
      value := false }
  else
    let tried : Trace := .connect client.connectSocket answers.entry.aiAddr answers.connect ::
      .readAddrInfo client.pResultAddrInfo :: set
    let freed : Trace := .freeaddrinfo client.pResultAddrInfo :: tried
    let self := { client with pResultAddrInfo := none }
    if answers.connect ≠ socketError then
      { self := { self with eStatus := .connected }, trace := freed, value := true }
    else
      { self
        trace := freed.oLog flags
          ("[TCPClient][Error] Unable to connect to server : " ++ toString answers.error)
        value := false }

/-- `Connect` from the resolution on. -/
def resolveAndConnect (client : CTCPClient) (strServer strPort : String)
    (answers : ConnectAnswers) (trace : Trace) : Result CTCPClient Bool :=
  let flags := client.eSettingsFlags
  if answers.getaddrinfo ≠ 0 then
    let asked : Trace :=
      .getaddrinfo (some strServer) strPort hints answers.getaddrinfo none :: trace
    let freed := client.freeAddrInfo (asked.oLog flags
      ("[TCPClient][Error] getaddrinfo failed : " ++ toString answers.getaddrinfo))
    { freed with value := false }
  else
    let list := some (trace.newList answers.list)
    let asked : Trace :=
      .getaddrinfo (some strServer) strPort hints answers.getaddrinfo list :: trace
    let connectSocket := asked.newSocket answers.socket
    let created : Trace := .socket answers.entry.aiFamily answers.entry.aiSocktype
      answers.entry.aiProtocol connectSocket :: .readAddrInfo list :: asked
    if connectSocket = invalidSocket then
      { self := { client with connectSocket, pResultAddrInfo := none }
        trace := .freeaddrinfo list :: created.oLog flags
          ("[TCPClient][Error] socket failed : " ++ toString answers.error)
        value := false }
    else
      { client with connectSocket, pResultAddrInfo := list }.connectOn answers created

def hangUp (client : CTCPClient) (answer : Answer) (trace : Trace) : State CTCPClient :=
  if client.eStatus = .connected then
    let closed := client.disconnect answer trace
    { self := closed.self
      trace := closed.trace.oLog client.eSettingsFlags
        ("[TCPClient][Warning] Opening a new connexion. " ++
          "The last one was automatically closed.") }
  else { self := client, trace }

def connect (client : CTCPClient) (strServer strPort : String) (answers : ConnectAnswers)
    (trace : Trace) : Result CTCPClient Bool :=
  let hungUp := client.hangUp answers.shutdown trace
  hungUp.self.resolveAndConnect strServer strPort answers hungUp.trace

def receiveEntry (client : CTCPClient) (pData : Option (Buffer UInt8)) (uSize : Nat)
    (trace : Trace) : ReceiveState ⊕ Received :=
  if pData.isNone ∨ uSize = 0 then .inr (.refused pData trace (-2))
  else if client.eStatus ≠ .connected then
    .inr (.refused pData (trace.oLog client.eSettingsFlags
      "[TCPClient][Error] recv failed : not connected to a server.") (-1))
  else .inl (.start pData trace)

def recvTurn (client : CTCPClient) :
    Nat → Bool → ReceiveState → RecvAnswer → ReceiveState ⊕ Received :=
  Windows.recvTurn client.connectSocket client.eSettingsFlags
    "[TCPClient][Error] Socket error in call to recv."

def receive (client : CTCPClient) (pData : Option (Buffer UInt8)) (uSize : Nat)
    (bReadFully : Bool) (script : List RecvAnswer) (trace : Trace) : ReceiveState ⊕ Received :=
  CallLoop.enter (client.recvTurn uSize bReadFully) (client.receiveEntry pData uSize trace) script

def destroy (client : CTCPClient) (answer : Answer) (trace : Trace) : State CTCPClient :=
  if client.eStatus = .connected then (client.disconnect answer trace).toState
  else { self := client, trace }

/-! Runs of one client. -/

inductive Op where
  | connect (strServer strPort : String) (answers : ConnectAnswers)
  | disconnect (answer : Answer)

def step (state : State CTCPClient) : Op → State CTCPClient
  | .connect strServer strPort answers =>
      (state.self.connect strServer strPort answers state.trace).toState
  | .disconnect answer => (state.self.disconnect answer state.trace).toState

def init (eSettings : SettingsFlag) : State CTCPClient :=
  { self := new eSettings, trace := [] }

end CTCPClient

end SocketCpp.Windows
