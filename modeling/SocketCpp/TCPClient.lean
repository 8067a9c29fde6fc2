import SocketCpp.Transfer.Loops

namespace SocketCpp

open Data

/-! `CTCPClient`, POSIX build. -/

inductive SocketStatus where
  | connected
  | disconnected
deriving DecidableEq, Repr

structure CTCPClient where
  eSettingsFlags : SettingsFlag
  eStatus : SocketStatus
  connectSocket : Socket
  pResultAddrInfo : Option Nat
deriving DecidableEq, Repr

structure AddrAttempt where
  entry : AddrInfo
  socket : Option Nat
  connect : Int
deriving DecidableEq, Repr

/-- What `getaddrinfo` returns, and what happens along its list. -/
structure Resolution where
  code : Int
  reason : String
  list : Nat
  attempts : List AddrAttempt
deriving DecidableEq, Repr

def afInet : Int := 2

def sockStream : Int := 1

namespace CTCPClient

def new (eSettings : SettingsFlag) : CTCPClient where
  eSettingsFlags := eSettings
  eStatus := .disconnected
  connectSocket := invalidSocket
  pResultAddrInfo := none

def setRcvTimeoutTimeval (client : CTCPClient) (timeout : Timeval) (iErr : Int)
    (trace : Trace) : Bool × Trace :=
  setTimeout client.connectSocket client.eSettingsFlags (.rcvTimeo timeout)
    ("[TCPServer][Error] CTCPClient::SetRcvTimeout : " ++
      "Socket error in SO_RCVTIMEO call to setsockopt.") iErr trace

def setRcvTimeout (client : CTCPClient) (msecTimeout : UInt32) (iErr : Int) (trace : Trace) :
    Bool × Trace :=
  client.setRcvTimeoutTimeval (timevalFromMsec msecTimeout) iErr trace

def setSndTimeoutTimeval (client : CTCPClient) (timeout : Timeval) (iErr : Int)
    (trace : Trace) : Bool × Trace :=
  setTimeout client.connectSocket client.eSettingsFlags (.sndTimeo timeout)
    ("[TCPServer][Error] CTCPClient::SetSndTimeout : " ++
      "Socket error in SO_SNDTIMEO call to setsockopt.") iErr trace

def setSndTimeout (client : CTCPClient) (msecTimeout : UInt32) (iErr : Int) (trace : Trace) :
    Bool × Trace :=
  client.setSndTimeoutTimeval (timevalFromMsec msecTimeout) iErr trace

def disconnect (client : CTCPClient) (trace : Trace) : Result CTCPClient Bool :=
  if client.eStatus ≠ .connected then { self := client, trace, value := true }
  else
    { self := { client with eStatus := .disconnected, connectSocket := invalidSocket }
      trace := .close client.connectSocket :: trace
      value := true }

def freeAddrInfo (client : CTCPClient) (trace : Trace) : State CTCPClient :=
  if client.pResultAddrInfo ≠ none then
    { self := { client with pResultAddrInfo := none }
      trace := .freeaddrinfo client.pResultAddrInfo :: trace }
  else { self := client, trace }

/-- The loop of `Connect` over the address list. -/
def tryAddresses (client : CTCPClient) : List AddrAttempt → Trace → Result CTCPClient Bool
  | [], trace => { self := client, trace, value := false }
  | attempt :: rest, trace =>
      let connectSocket := trace.newSocket attempt.socket
      let client := { client with connectSocket }
      let created : Trace := .socket attempt.entry.aiFamily attempt.entry.aiSocktype
        attempt.entry.aiProtocol connectSocket :: trace
      if connectSocket < 0 then client.tryAddresses rest created
      else
        let tried : Trace :=
          .connect connectSocket attempt.entry.aiAddr attempt.connect :: created
        if 0 ≤ attempt.connect then
          { self := { client with eStatus := .connected }, trace := tried, value := true }
        else client.tryAddresses rest (.close connectSocket :: tried)

/-- `Connect` from the resolution on. -/
def resolveAndConnect (client : CTCPClient) (strServer strPort : String)
    (resolution : Resolution) (trace : Trace) : Result CTCPClient Bool :=
  let flags := client.eSettingsFlags
  if resolution.code ≠ 0 then
    let asked : Trace := .getaddrinfo strServer strPort afInet sockStream resolution.code none ::
      trace
    let logged := asked.oLog flags ("[TCPClient][Error] getaddrinfo failed : " ++
      resolution.reason)
    { client.freeAddrInfo logged with value := false }
  else
    let list := some (trace.newList resolution.list)
    let asked : Trace := .getaddrinfo strServer strPort afInet sockStream resolution.code list ::
      trace
    let client := { client with pResultAddrInfo := list }
    let tried := client.tryAddresses resolution.attempts asked
    let freed := tried.self.freeAddrInfo tried.trace
    if tried.value then { freed with value := true }
    else
      { self := freed.self
        trace := freed.trace.oLog flags "[TCPClient][Error] no such host."
        value := false }

def hangUp (client : CTCPClient) (trace : Trace) : State CTCPClient :=
  if client.eStatus = .connected then
    let closed := client.disconnect trace
    { self := closed.self
      trace := closed.trace.oLog client.eSettingsFlags
        ("[TCPClient][Warning] Opening a new connexion. " ++
          "The last one was automatically closed.") }
  else { self := client, trace }

def connect (client : CTCPClient) (strServer strPort : String) (resolution : Resolution)
    (trace : Trace) : Result CTCPClient Bool :=
  let hungUp := client.hangUp trace
  hungUp.self.resolveAndConnect strServer strPort resolution hungUp.trace

def sendEntry (client : CTCPClient) (pData : Option (Buffer UInt8)) (uSize : Nat)
    (trace : Trace) : SendState ⊕ Sent :=
  if pData.isNone ∨ uSize = 0 then .inr (.refused trace)
  else if client.eStatus ≠ .connected then
    .inr (.refused (trace.oLog client.eSettingsFlags
      "[TCPClient][Error] send failed : not connected to a server."))
  else .inl (.start trace)

def sendTurn (client : CTCPClient) : Nat → SendState → SendAnswer → SendState ⊕ Sent :=
  SocketCpp.sendTurn client.connectSocket client.eSettingsFlags
    "[TCPClient][Error] Socket error in call to send."

def send (client : CTCPClient) (pData : Option (Buffer UInt8)) (uSize : Nat)
    (script : List SendAnswer) (trace : Trace) : SendState ⊕ Sent :=
  CallLoop.enter (client.sendTurn uSize) (client.sendEntry pData uSize trace) script

def receiveEntry (client : CTCPClient) (pData : Option (Buffer UInt8)) (uSize : Nat)
    (trace : Trace) : ReceiveState ⊕ Received :=
  if pData.isNone ∨ uSize = 0 then .inr (.refused pData trace (-2))
  else if client.eStatus ≠ .connected then
    .inr (.refused pData (trace.oLog client.eSettingsFlags
      "[TCPClient][Error] recv failed : not connected to a server.") (-1))
  else .inl (.start pData trace)

def recvTurn (client : CTCPClient) :
    Nat → Bool → ReceiveState → RecvAnswer → ReceiveState ⊕ Received :=
  SocketCpp.recvTurn client.connectSocket

def receive (client : CTCPClient) (pData : Option (Buffer UInt8)) (uSize : Nat)
    (bReadFully : Bool) (script : List RecvAnswer) (trace : Trace) : ReceiveState ⊕ Received :=
  CallLoop.enter (client.recvTurn uSize bReadFully) (client.receiveEntry pData uSize trace) script

def destroy (client : CTCPClient) (trace : Trace) : State CTCPClient :=
  if client.eStatus = .connected then (client.disconnect trace).toState
  else { self := client, trace }

/-! Runs of one client.  An operation carries what the outside answers to it. -/

inductive Op where
  | connect (strServer strPort : String) (resolution : Resolution)
  | disconnect
  | send (pData : Option (Buffer UInt8)) (uSize : Nat) (script : List SendAnswer)
  | receive (pData : Option (Buffer UInt8)) (uSize : Nat) (bReadFully : Bool)
      (script : List RecvAnswer)
  | setRcvTimeout (msecTimeout : UInt32) (iErr : Int)
  | setRcvTimeoutTimeval (timeout : Timeval) (iErr : Int)
  | setSndTimeout (msecTimeout : UInt32) (iErr : Int)
  | setSndTimeoutTimeval (timeout : Timeval) (iErr : Int)

def step (state : State CTCPClient) : Op → State CTCPClient
  | .connect strServer strPort resolution =>
      (state.self.connect strServer strPort resolution state.trace).toState
  | .disconnect => (state.self.disconnect state.trace).toState
  | .send pData uSize script =>
      { state with trace := sentTrace (state.self.send pData uSize script state.trace) }
  | .receive pData uSize bReadFully script =>
      { state with
        trace := receivedTrace (state.self.receive pData uSize bReadFully script state.trace) }
  | .setRcvTimeout msecTimeout iErr =>
      { state with trace := (state.self.setRcvTimeout msecTimeout iErr state.trace).2 }
  | .setRcvTimeoutTimeval timeout iErr =>
      { state with trace := (state.self.setRcvTimeoutTimeval timeout iErr state.trace).2 }
  | .setSndTimeout msecTimeout iErr =>
      { state with trace := (state.self.setSndTimeout msecTimeout iErr state.trace).2 }
  | .setSndTimeoutTimeval timeout iErr =>
      { state with trace := (state.self.setSndTimeoutTimeval timeout iErr state.trace).2 }

def init (eSettings : SettingsFlag) : State CTCPClient :=
  { self := new eSettings, trace := [] }

end CTCPClient

end SocketCpp
