import SocketCpp.TCPSSLClient
import SocketCpp.TCPSSLServer

namespace SocketCpp

open Data

/-! The two ends of a secure connection.

`CTCPSSLClient` checks its status in front of the loops and `CTCPSSLServer` checks
nothing; the loops differ in the text of their messages only. -/

inductive SecurePeer where
  | client (self : CTCPSSLClient)
  | server (self : CTCPSSLServer) (clientSocket : SSLSocket)

namespace SecurePeer

def pSSL : SecurePeer → Option Nat
  | .client self => self.sslConnectSocket.pSSL
  | .server _ clientSocket => clientSocket.pSSL

/-- The peer passes the guard in front of its loops. -/
def Ready : SecurePeer → Prop
  | .client self => self.tcpClient.eStatus = .connected
  | .server _ _ => True

def sendTurn : SecurePeer → Nat → SendState → SendAnswer → SendState ⊕ Sent
  | .client self => self.sendTurn
  | .server self clientSocket => self.sendTurn clientSocket

def send : SecurePeer → Option (Buffer UInt8) → Nat → List SendAnswer → Trace → SendState ⊕ Sent
  | .client self => self.send
  | .server self clientSocket => self.send clientSocket

def recvTurn : SecurePeer → Nat → Bool → ReceiveState → RecvAnswer → ReceiveState ⊕ Received
  | .client self => self.recvTurn
  | .server self clientSocket => self.recvTurn clientSocket

def receive : SecurePeer → Option (Buffer UInt8) → Nat → Bool → List RecvAnswer → Trace →
    ReceiveState ⊕ Received
  | .client self => self.receive
  | .server self clientSocket => self.receive clientSocket

variable {peer : SecurePeer} {uSize : Nat}

theorem send_of_ready (ready : peer.Ready) (pData : Option (Buffer UInt8))
    (script : List SendAnswer) (trace : Trace) :
    peer.send pData uSize script trace =
      CallLoop.run (peer.sendTurn uSize) (.start trace) script := by
  cases peer with
  | client self =>
      have connected : self.tcpClient.eStatus = .connected := ready
      simp [send, CTCPSSLClient.send, CTCPSSLClient.sendEntry, connected, CallLoop.enter, sendTurn]
  | server self clientSocket => rfl

theorem receive_of_ready (ready : peer.Ready) (pData : Option (Buffer UInt8))
    (bReadFully : Bool) (script : List RecvAnswer) (trace : Trace) :
    peer.receive pData uSize bReadFully script trace =
      CallLoop.run (peer.recvTurn uSize bReadFully) (.start pData trace) script := by
  cases peer with
  | client self =>
      have connected : self.tcpClient.eStatus = .connected := ready
      simp [receive, CTCPSSLClient.receive, CTCPSSLClient.receiveEntry, connected, CallLoop.enter,
        recvTurn]
  | server self clientSocket => rfl

/-- A failed call is only logged. -/
theorem sslGetError_quiet (trace : Trace) (flags : SettingsFlag) (pSSL : Option Nat) (result : Int)
    (failure : String) :
    Extends Call.Quiet trace (trace.oLogAfter flags (.sslGetError pSSL result) failure) :=
  Trace.oLogAfter_extends (Extends.refl _ trace) flags failure trivial trivial

/-- The turn of either loop, up to what it reports about a failed call. -/
theorem sendTurn_eq (peer : SecurePeer) (uSize : Nat) (state : SendState) (answer : SendAnswer) :
    let trace : Trace := .sslWrite peer.pSSL state.total (wrapInt (window uSize state.total))
      answer.result :: state.trace
    ∃ failed, Extends Call.Quiet trace failed ∧
      peer.sendTurn uSize state answer =
        if wrapInt answer.result ≤ 0 then .inr { state with trace := failed, value := false }
        else
          let total := wrapInt (state.total + wrapInt answer.result)
          if toSizeT total < uSize then .inl { total, trace }
          else .inr { total, trace, value := true } := by
  cases peer with
  | client self => exact ⟨_, sslGetError_quiet _ _ _ _ _, rfl⟩
  | server self clientSocket => exact ⟨_, sslGetError_quiet _ _ _ _ _, rfl⟩

theorem recvTurn_eq (peer : SecurePeer) (uSize : Nat) (bReadFully : Bool) (state : ReceiveState)
    (answer : RecvAnswer) :
    let trace : Trace := .sslRead peer.pSSL state.total (wrapInt (window uSize state.total))
      answer.result :: state.trace
    ∃ failed, Extends Call.Quiet trace failed ∧
      peer.recvTurn uSize bReadFully state answer =
        let pData := answer.store state.total state.pData
        if wrapInt answer.result ≤ 0 then
          .inr { total := state.total, pData, trace := failed, value := state.total }
        else
          let total := wrapInt (state.total + wrapInt answer.result)
          if bReadFully ∧ toSizeT total < uSize then .inl { total, pData, trace }
          else .inr { total, pData, trace, value := total } := by
  cases peer with
  | client self => exact ⟨_, sslGetError_quiet _ _ _ _ _, rfl⟩
  | server self clientSocket => exact ⟨_, sslGetError_quiet _ _ _ _ _, rfl⟩

theorem sendTurn_calls (peer : SecurePeer) (uSize : Nat) (state : SendState)
    (answer : SendAnswer) :
    Extends Call.Quiet
      (.sslWrite peer.pSSL state.total (wrapInt (window uSize state.total)) answer.result ::
        state.trace)
      (sentTrace (peer.sendTurn uSize state answer)) := by
  obtain ⟨failed, quiet, turn⟩ := peer.sendTurn_eq uSize state answer
  rw [turn]
  dsimp only
  split_ifs
  · exact quiet
  · exact Extends.refl _ _
  · exact Extends.refl _ _

theorem recvTurn_calls (peer : SecurePeer) (uSize : Nat) (bReadFully : Bool)
    (state : ReceiveState) (answer : RecvAnswer) :
    Extends Call.Quiet
      (.sslRead peer.pSSL state.total (wrapInt (window uSize state.total)) answer.result ::
        state.trace)
      (receivedTrace (peer.recvTurn uSize bReadFully state answer)) := by
  obtain ⟨failed, quiet, turn⟩ := peer.recvTurn_eq uSize bReadFully state answer
  rw [turn]
  dsimp only
  split_ifs
  · exact quiet
  · exact Extends.refl _ _
  · exact Extends.refl _ _

theorem sendPossible_iff (peer : SecurePeer) (uSize : Nat) (state : SendState)
    (answer : SendAnswer) :
    SendPossible (peer.sendTurn uSize) state answer ↔
      (1 ≤ answer.result ∧ answer.result ≤ wrapInt (window uSize state.total)) ∨
        (-2147483648 ≤ answer.result ∧ answer.result ≤ 0) :=
  (peer.sendTurn_calls uSize state answer).forall_since_iff fun _ => Call.Quiet.possible

theorem receivePossible_iff (peer : SecurePeer) (uSize : Nat) (bReadFully : Bool)
    (state : ReceiveState) (answer : RecvAnswer) :
    ReceivePossible (peer.recvTurn uSize bReadFully) state answer ↔
      (1 ≤ answer.result ∧ answer.result ≤ wrapInt (window uSize state.total)) ∨
        (-2147483648 ≤ answer.result ∧ answer.result ≤ 0) :=
  (peer.recvTurn_calls uSize bReadFully state answer).forall_since_iff
    fun _ => Call.Quiet.possible

end SecurePeer

end SocketCpp
