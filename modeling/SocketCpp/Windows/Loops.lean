import SocketCpp.Transfer.Loops
import SocketCpp.Windows.Trace

namespace SocketCpp.Windows

open Data

/-! The loop of `Receive` in the Windows build.

`recv` takes its length as an `int` there.  A failure with `WSAENOBUFS` is retried up to
a thousand times: `continue` goes to the condition at the end of the loop. -/

def wsaenobufs : Int := 10055

def maxTries : Nat := 1000

structure ReceiveState where
  tries : Nat
  total : Int
  pData : Option (Buffer UInt8)
  trace : Trace

structure Received extends ReceiveState where
  value : Int

/-- One turn of the loop in `CTCPClient::Receive` and `CTCPServer::Receive`. -/
def recvTurn (sd : Socket) (flags : SettingsFlag) (failure : String) (uSize : Nat)
    (bReadFully : Bool) (state : ReceiveState) (answer : RecvAnswer) :
    ReceiveState ⊕ Received :=
  let called : Trace :=
    .recv sd state.total (wrapInt (window uSize state.total)) answer.result :: state.trace
  let received := { state with pData := answer.store state.total state.pData, trace := called }
  let nRecvd := wrapInt answer.result
  if nRecvd = 0 then .inr { received with value := state.total }
  else if nRecvd < 0 ∧ answer.error = wsaenobufs then
    let tried := { received with tries := state.tries + 1 }
    if state.tries < maxTries then
      let slept := { tried with trace := .sleep 1 :: called }
      if bReadFully ∧ toSizeT state.total < uSize then .inl slept
      else .inr { slept with value := state.total }
    else .inr { tried with trace := called.oLog flags failure, value := state.total }
  else
    let total := wrapInt (state.total + nRecvd)
    if bReadFully ∧ toSizeT total < uSize then .inl { received with total }
    else .inr { received with total, value := total }

def ReceiveState.start (pData : Option (Buffer UInt8)) (trace : Trace) : ReceiveState where
  tries := 0
  total := 0
  pData := pData
  trace := trace

def Received.refused (pData : Option (Buffer UInt8)) (trace : Trace) (value : Int) : Received :=
  { ReceiveState.start pData trace with value }

end SocketCpp.Windows
