import SocketCpp.TCPServer

namespace SocketCpp

open Data

/-! The two ends of a plain connection.

`CTCPClient` and `CTCPServer` differ in where their descriptor comes from and in
what they check before the loop; the loops are the same. -/

inductive PlainPeer where
  | client (self : CTCPClient)
  | server (self : CTCPServer) (clientSocket : Socket)

namespace PlainPeer

def fd : PlainPeer → Socket
  | .client self => self.connectSocket
  | .server _ clientSocket => clientSocket

/-- The peer passes the guard in front of its loops. -/
def Ready : PlainPeer → Prop
  | .client self => self.eStatus = .connected
  | .server _ clientSocket => 0 ≤ clientSocket

def sendEntry : PlainPeer → Option (Buffer UInt8) → Nat → Trace → SendState ⊕ Sent
  | .client self => self.sendEntry
  | .server _ clientSocket => CTCPServer.sendEntry clientSocket

def sendTurn : PlainPeer → Nat → SendState → SendAnswer → SendState ⊕ Sent
  | .client self => self.sendTurn
  | .server self clientSocket => self.sendTurn clientSocket

def send : PlainPeer → Option (Buffer UInt8) → Nat → List SendAnswer → Trace → SendState ⊕ Sent
  | .client self => self.send
  | .server self clientSocket => self.send clientSocket

def receiveEntry : PlainPeer → Option (Buffer UInt8) → Nat → Trace → ReceiveState ⊕ Received
  | .client self => self.receiveEntry
  | .server _ clientSocket => CTCPServer.receiveEntry clientSocket

def recvTurn (peer : PlainPeer) :
    Nat → Bool → ReceiveState → RecvAnswer → ReceiveState ⊕ Received :=
  SocketCpp.recvTurn peer.fd

def receive : PlainPeer → Option (Buffer UInt8) → Nat → Bool → List RecvAnswer → Trace →
    ReceiveState ⊕ Received
  | .client self => self.receive
  | .server self clientSocket => self.receive clientSocket

variable {peer : PlainPeer} {uSize : Nat}

theorem send_eq_enter (peer : PlainPeer) (pData : Option (Buffer UInt8)) (uSize : Nat)
    (script : List SendAnswer) (trace : Trace) :
    peer.send pData uSize script trace =
      CallLoop.enter (peer.sendTurn uSize) (peer.sendEntry pData uSize trace) script := by
  cases peer <;> rfl

theorem receive_eq_enter (peer : PlainPeer) (pData : Option (Buffer UInt8)) (uSize : Nat)
    (bReadFully : Bool) (script : List RecvAnswer) (trace : Trace) :
    peer.receive pData uSize bReadFully script trace =
      CallLoop.enter (peer.recvTurn uSize bReadFully) (peer.receiveEntry pData uSize trace)
        script := by
  cases peer <;> rfl

theorem sendEntry_of_ready (ready : peer.Ready) (positive : 0 < uSize) (pData : Buffer UInt8)
    (trace : Trace) : peer.sendEntry (some pData) uSize trace = .inl (.start trace) := by
  cases peer with
  | client self =>
      have connected : self.eStatus = .connected := ready
      simp [sendEntry, CTCPClient.sendEntry, connected, Nat.ne_of_gt positive]
  | server self clientSocket =>
      have valid : ¬ clientSocket < 0 := Int.not_lt.mpr ready
      simp [sendEntry, CTCPServer.sendEntry, valid, Nat.ne_of_gt positive]

theorem send_of_ready (ready : peer.Ready) (positive : 0 < uSize) (pData : Buffer UInt8)
    (script : List SendAnswer) (trace : Trace) :
    peer.send (some pData) uSize script trace =
      CallLoop.run (peer.sendTurn uSize) (.start trace) script := by
  rw [send_eq_enter, sendEntry_of_ready ready positive]
  rfl

theorem receiveEntry_of_ready (ready : peer.Ready) (positive : 0 < uSize) (pData : Buffer UInt8)
    (trace : Trace) :
    peer.receiveEntry (some pData) uSize trace = .inl (.start (some pData) trace) := by
  cases peer with
  | client self =>
      have connected : self.eStatus = .connected := ready
      simp [receiveEntry, CTCPClient.receiveEntry, connected, Nat.ne_of_gt positive]
  | server self clientSocket =>
      have valid : ¬ clientSocket < 0 := Int.not_lt.mpr ready
      simp [receiveEntry, CTCPServer.receiveEntry, valid, Nat.ne_of_gt positive]

theorem receive_of_ready (ready : peer.Ready) (positive : 0 < uSize) (pData : Buffer UInt8)
    (bReadFully : Bool) (script : List RecvAnswer) (trace : Trace) :
    peer.receive (some pData) uSize bReadFully script trace =
      CallLoop.run (peer.recvTurn uSize bReadFully) (.start (some pData) trace) script := by
  rw [receive_eq_enter, receiveEntry_of_ready ready positive]
  rfl

theorem sendTurn_eq (peer : PlainPeer) (uSize : Nat) (state : SendState) (answer : SendAnswer) :
    let trace : Trace :=
      .send peer.fd state.total (window uSize state.total) answer.result :: state.trace
    ∃ failed, Extends Call.Quiet trace failed ∧
      peer.sendTurn uSize state answer =
        if wrapInt answer.result < 0 then .inr { state with trace := failed, value := false }
        else
          let total := wrapInt (state.total + wrapInt answer.result)
          if toSizeT total < uSize then .inl { total, trace }
          else .inr { total, trace, value := true } := by
  intro trace
  have logs (flags : SettingsFlag) (failure : String) :
      Extends Call.Quiet trace (trace.oLog flags failure) :=
    Trace.oLog_extends (Extends.refl _ trace) flags failure trivial
  cases peer with
  | client self => exact ⟨_, logs _ _, rfl⟩
  | server self clientSocket => exact ⟨_, logs _ _, rfl⟩

theorem sendTurn_calls (peer : PlainPeer) (uSize : Nat) (state : SendState)
    (answer : SendAnswer) :
    Extends Call.Quiet
      (.send peer.fd state.total (window uSize state.total) answer.result :: state.trace)
      (sentTrace (peer.sendTurn uSize state answer)) := by
  obtain ⟨failed, quiet, turn⟩ := peer.sendTurn_eq uSize state answer
  rw [turn]
  dsimp only
  split_ifs
  · exact quiet
  · exact Extends.refl _ _
  · exact Extends.refl _ _

theorem recvTurn_calls (peer : PlainPeer) (uSize : Nat) (bReadFully : Bool)
    (state : ReceiveState) (answer : RecvAnswer) :
    Extends Call.Quiet
      (.recv peer.fd state.total (window uSize state.total) answer.result :: state.trace)
      (receivedTrace (peer.recvTurn uSize bReadFully state answer)) := by
  simp only [recvTurn, SocketCpp.recvTurn]
  split_ifs
  · exact Extends.refl _ _
  · exact Extends.refl _ _
  · exact Extends.refl _ _

end PlainPeer

end SocketCpp
