import SocketCpp.Windows.TCPServer

namespace SocketCpp.Windows

open Data

/-! Whether a `Receive` can be told from one whose `recv` never failed with `WSAENOBUFS`.

The retry is a `continue`, which goes to the condition of the loop and not to its head.
The condition lets the loop go on only when the buffer is to be filled. -/

inductive PlainPeer where
  | client (self : CTCPClient)
  | server (self : CTCPServer) (clientSocket : Socket)

namespace PlainPeer

/-- The peer passes the guard in front of its loop. -/
def Ready : PlainPeer → Prop
  | .client self => self.eStatus = .connected
  | .server _ _ => True

def recvTurn : PlainPeer → Nat → Bool → ReceiveState → RecvAnswer → ReceiveState ⊕ Received
  | .client self => self.recvTurn
  | .server self clientSocket => self.recvTurn clientSocket

def receive : PlainPeer → Option (Buffer UInt8) → Nat → Bool → List RecvAnswer → Trace →
    ReceiveState ⊕ Received
  | .client self => self.receive
  | .server self clientSocket => self.receive clientSocket

theorem receive_of_ready {peer : PlainPeer} (ready : peer.Ready) {uSize : Nat}
    (positive : 0 < uSize) (pData : Buffer UInt8) (bReadFully : Bool) (script : List RecvAnswer)
    (trace : Trace) :
    peer.receive (some pData) uSize bReadFully script trace =
      CallLoop.run (peer.recvTurn uSize bReadFully) (.start (some pData) trace) script := by
  cases peer with
  | client self =>
      have connected : self.eStatus = .connected := ready
      simp [receive, CTCPClient.receive, CTCPClient.receiveEntry, connected,
        Nat.ne_of_gt positive, CallLoop.enter, recvTurn]
  | server self clientSocket =>
      simp [receive, CTCPServer.receive, CTCPServer.receiveEntry, Nat.ne_of_gt positive,
        CallLoop.enter, recvTurn]

end PlainPeer

/-- The call failed with `WSAENOBUFS`. -/
def isNoBufs : RecvAnswer → Bool
  | .data _ => false
  | .status result error => decide (result < 0) && decide (error = wsaenobufs)

def withoutNoBufs (script : List RecvAnswer) : List RecvAnswer :=
  script.filter fun answer => !isNoBufs answer

/-- Chunks that fit behind the `filled` bytes in the buffer, closes, and failures with
`WSAENOBUFS`.  What comes after the last read is left open. -/
def Arrives (uSize : Nat) (bReadFully : Bool) : Nat → List RecvAnswer → Prop
  | _, [] => True
  | filled, .data bytes :: rest =>
      bytes ≠ [] ∧ filled + bytes.length ≤ uSize ∧
        (bReadFully ∧ filled + bytes.length < uSize →
          Arrives uSize bReadFully (filled + bytes.length) rest)
  | filled, .status result error :: rest =>
      result = 0 ∨ result = -1 ∧ error = wsaenobufs ∧ Arrives uSize bReadFully filled rest

/-- The value that is returned, if one is, and the buffer. -/
def report : ReceiveState ⊕ Received → Option Int × Option (Buffer UInt8) :=
  Sum.elim (fun state => (none, state.pData)) fun result => (some result.value, result.pData)

/-- What a `Receive` that is to fill its buffer makes of a script without failures. -/
def filling (uSize : Nat) : Nat → Option (Buffer UInt8) → List RecvAnswer →
    Option Int × Option (Buffer UInt8)
  | _, pData, [] => (none, pData)
  | filled, pData, .data bytes :: rest =>
      let pData := (RecvAnswer.data bytes).store filled pData
      if filled + bytes.length < uSize then filling uSize (filled + bytes.length) pData rest
      else (some (filled + bytes.length : Nat), pData)
  | filled, pData, .status _ _ :: _ => (some filled, pData)

/-- What a `Receive` that takes one answer makes of it. -/
def single (pData : Option (Buffer UInt8)) : List RecvAnswer → Option Int × Option (Buffer UInt8)
  | [] => (none, pData)
  | answer :: _ => (some answer.bytes.length, answer.store 0 pData)

/-- The first `recv` fails with `WSAENOBUFS`. -/
def FailsFirst (script : List RecvAnswer) : Prop :=
  ∃ answer ∈ script.head?, isNoBufs answer = true

/-- The first outcome that is no failure is the close of the connection. -/
def ClosesFirst (script : List RecvAnswer) : Prop :=
  ∃ error, (withoutNoBufs script).head? = some (.status 0 error)

theorem withoutNoBufs_cons (answer : RecvAnswer) (rest : List RecvAnswer) :
    withoutNoBufs (answer :: rest) =
      if isNoBufs answer then withoutNoBufs rest else answer :: withoutNoBufs rest := by
  cases answered : isNoBufs answer with
  | true => simp [withoutNoBufs, answered]
  | false => simp [withoutNoBufs, answered]

theorem countP_withoutNoBufs (script : List RecvAnswer) :
    (withoutNoBufs script).countP isNoBufs = 0 := by
  simp [withoutNoBufs, List.countP_eq_zero]

theorem withoutNoBufs_twice (script : List RecvAnswer) :
    withoutNoBufs (withoutNoBufs script) = withoutNoBufs script := by
  simp [withoutNoBufs, List.filter_filter]

theorem Arrives.withoutNoBufs {uSize filled : Nat} {bReadFully : Bool} {script : List RecvAnswer}
    (arrives : Arrives uSize bReadFully filled script) :
    Arrives uSize bReadFully filled (withoutNoBufs script) := by
  induction script generalizing filled with
  | nil => exact arrives
  | cons answer rest ih =>
      cases answer with
      | data bytes =>
          obtain ⟨some, within, later⟩ := arrives
          exact ⟨some, within, fun going => ih (later going)⟩
      | status result error =>
          rcases arrives with rfl | ⟨rfl, rfl, later⟩
          · exact .inl rfl
          · exact ih later

theorem store_status (result error offset : Int) (pData : Option (Buffer UInt8)) :
    (RecvAnswer.status result error).store offset pData = pData := by
  cases pData with
  | none => rfl
  | some buffer => simp [RecvAnswer.store, RecvAnswer.bytes, Buffer.write_nil]

section Turns

variable {sd : Socket} {flags : SettingsFlag} {failure : String} {uSize : Nat} {bReadFully : Bool}
  {state : ReceiveState}

theorem recvTurn_data (fits : uSize ≤ intMax) {filled : Nat} {bytes : List UInt8}
    (total : state.total = filled) (some : bytes ≠ []) (within : filled + bytes.length ≤ uSize) :
    ∃ trace, recvTurn sd flags failure uSize bReadFully state (.data bytes) =
      let next : ReceiveState :=
        { tries := state.tries, total := (filled + bytes.length : Nat)
          pData := (RecvAnswer.data bytes).store filled state.pData, trace }
      if bReadFully ∧ filled + bytes.length < uSize then .inl next
      else .inr { next with value := (filled + bytes.length : Nat) } := by
  have positive := List.length_pos_iff.mpr some
  obtain ⟨received, summed, compared⟩ := counts_nat_within fits within
  have silent : ¬ (bytes.length : Int) = 0 := by omega
  have succeeds : ¬ ((bytes.length : Int) < 0 ∧ (0 : Int) = wsaenobufs) := by omega
  refine ⟨.recv sd filled (wrapInt (window uSize filled)) bytes.length :: state.trace, ?_⟩
  simp only [recvTurn, RecvAnswer.result, RecvAnswer.error, received, silent, succeeds, if_false,
    total, summed, compared]

theorem recvTurn_close (error : Int) :
    ∃ trace, recvTurn sd flags failure uSize bReadFully state (.status 0 error) =
      .inr { state with pData := state.pData, trace, value := state.total } := by
  have silent : wrapInt 0 = 0 := by decide
  refine ⟨.recv sd state.total (wrapInt (window uSize state.total)) 0 :: state.trace, ?_⟩
  simp only [recvTurn, RecvAnswer.result, silent, if_true, store_status]

/-- The retry goes round again only when the buffer is to be filled. -/
theorem recvTurn_noBufs (few : state.tries < maxTries) :
    ∃ trace, recvTurn sd flags failure uSize bReadFully state (.status (-1) wsaenobufs) =
      let next : ReceiveState :=
        { tries := state.tries + 1, total := state.total, pData := state.pData, trace }
      if bReadFully ∧ toSizeT state.total < uSize then .inl next
      else .inr { next with value := state.total } := by
  have failed : wrapInt (-1) = -1 := by decide
  refine ⟨.sleep 1 :: .recv sd state.total (wrapInt (window uSize state.total)) (-1) ::
    state.trace, ?_⟩
  simp [recvTurn, RecvAnswer.result, RecvAnswer.error, failed, few, store_status]

theorem run_fills (fits : uSize ≤ intMax) {script : List RecvAnswer} {filled : Nat}
    (total : state.total = filled) (below : filled < uSize)
    (arrives : Arrives uSize true filled script)
    (few : state.tries + script.countP isNoBufs ≤ maxTries) :
    report (CallLoop.run (recvTurn sd flags failure uSize true) state script) =
      filling uSize filled state.pData (withoutNoBufs script) := by
  induction script generalizing state filled with
  | nil => rfl
  | cons answer rest ih =>
      cases answer with
      | data bytes =>
          obtain ⟨some, within, later⟩ := arrives
          obtain ⟨trace, turn⟩ := @recvTurn_data sd flags failure uSize true state fits filled bytes
            total some within
          have kept : withoutNoBufs (.data bytes :: rest) = .data bytes :: withoutNoBufs rest := rfl
          rw [kept, filling]
          by_cases going : filled + bytes.length < uSize
          · rw [if_pos ⟨rfl, going⟩] at turn
            rw [CallLoop.run_cons_continue _ turn, if_pos going]
            exact ih rfl going (later ⟨rfl, going⟩) few
          · rw [if_neg fun both => going both.2] at turn
            rw [CallLoop.run_cons_return _ turn, if_neg going]
            rfl
      | status result error =>
          rcases arrives with rfl | ⟨rfl, rfl, later⟩
          · obtain ⟨trace, turn⟩ := @recvTurn_close sd flags failure uSize true state error
            rw [CallLoop.run_cons_return _ turn]
            simp [report, withoutNoBufs, isNoBufs, filling, total]
          · have counted : (RecvAnswer.status (-1) wsaenobufs :: rest).countP isNoBufs =
                rest.countP isNoBufs + 1 := List.countP_cons_of_pos rfl
            rw [counted] at few
            obtain ⟨trace, turn⟩ := @recvTurn_noBufs sd flags failure uSize true state (by omega)
            have going : toSizeT state.total < uSize := by
              rw [total, toSizeT_lt_iff (by omega) (by simp only [intMax, sizeMax] at fits ⊢; omega)]
              omega
            rw [if_pos ⟨rfl, going⟩] at turn
            rw [CallLoop.run_cons_continue _ turn]
            have dropped : withoutNoBufs (.status (-1) wsaenobufs :: rest) = withoutNoBufs rest := rfl
            rw [dropped]
            exact ih total below later (by simp only; omega)

theorem run_single (fits : uSize ≤ intMax) {script : List RecvAnswer}
    (start : state.total = 0) (fresh : state.tries < maxTries) (arrives : Arrives uSize false 0 script) :
    report (CallLoop.run (recvTurn sd flags failure uSize false) state script) =
      single state.pData script := by
  have total : state.total = (0 : Nat) := start
  cases script with
  | nil => rfl
  | cons answer rest =>
      cases answer with
      | data bytes =>
          obtain ⟨some, within, -⟩ := arrives
          obtain ⟨trace, turn⟩ := @recvTurn_data sd flags failure uSize false state fits 0 bytes
            total some within
          rw [if_neg fun both => Bool.false_ne_true both.1] at turn
          rw [CallLoop.run_cons_return _ turn]
          simp [report, single, RecvAnswer.bytes]
      | status result error =>
          rcases arrives with rfl | ⟨rfl, rfl, -⟩
          · obtain ⟨trace, turn⟩ := @recvTurn_close sd flags failure uSize false state error
            rw [CallLoop.run_cons_return _ turn]
            simp [report, single, RecvAnswer.bytes, store_status, total]
          · obtain ⟨trace, turn⟩ := @recvTurn_noBufs sd flags failure uSize false state fresh
            rw [if_neg fun both => Bool.false_ne_true both.1] at turn
            rw [CallLoop.run_cons_return _ turn]
            simp [report, single, RecvAnswer.bytes, store_status, total]

end Turns

/-- One answer is the same with and without the failures in front of it when there are
none, or when it is a close, which looks like the end that the failure makes. -/
theorem single_withoutNoBufs_iff {uSize : Nat} {script : List RecvAnswer}
    (arrives : Arrives uSize false 0 script) (pData : Option (Buffer UInt8)) :
    single pData script = single pData (withoutNoBufs script) ↔
      ¬ FailsFirst script ∨ ClosesFirst script := by
  cases script with
  | nil => simp [withoutNoBufs, FailsFirst]
  | cons answer rest =>
      have firm := arrives.withoutNoBufs
      rw [ClosesFirst]
      rw [withoutNoBufs_cons] at firm ⊢
      cases fails : isNoBufs answer with
      | false => simp [FailsFirst, fails, single]
      | true =>
          obtain ⟨result, error, rfl⟩ : ∃ result error, answer = .status result error := by
            cases answer with
            | data => cases fails
            | status result error => exact ⟨result, error, rfl⟩
          simp only [fails, if_true] at firm ⊢
          have first : FailsFirst (.status result error :: rest) := ⟨_, rfl, fails⟩
          cases later : withoutNoBufs rest with
          | nil => simp [single, first]
          | cons next others =>
              rw [later] at firm
              cases next with
              | data bytes =>
                  have some := List.length_pos_iff.mpr firm.1
                  have differs : (0 : Int) ≠ bytes.length := by omega
                  simp [single, first, RecvAnswer.bytes, differs]
              | status value code =>
                  have member : .status value code ∈ withoutNoBufs rest := by
                    rw [later]
                    exact List.mem_cons_self
                  have kept := (List.mem_filter.mp member).2
                  rcases firm with rfl | ⟨rfl, rfl, -⟩
                  · simp [single, RecvAnswer.bytes, store_status]
                  · cases kept

namespace PlainPeer

theorem receive_filled {peer : PlainPeer} (ready : peer.Ready) {uSize : Nat} (positive : 0 < uSize)
    (fits : uSize ≤ intMax) (pData : Buffer UInt8) {script : List RecvAnswer}
    (arrives : Arrives uSize true 0 script) (few : script.countP isNoBufs ≤ maxTries)
    (trace : Trace) :
    report (peer.receive (some pData) uSize true script trace) =
      filling uSize 0 (some pData) (withoutNoBufs script) := by
  have counted : (ReceiveState.start (some pData) trace).tries + script.countP isNoBufs ≤
      maxTries := by
    simpa [ReceiveState.start] using few
  rw [receive_of_ready ready positive]
  cases peer with
  | client self => exact run_fills fits rfl positive arrives counted
  | server self clientSocket => exact run_fills fits rfl positive arrives counted

theorem receive_once {peer : PlainPeer} (ready : peer.Ready) {uSize : Nat} (positive : 0 < uSize)
    (fits : uSize ≤ intMax) (pData : Buffer UInt8) {script : List RecvAnswer}
    (arrives : Arrives uSize false 0 script) (trace : Trace) :
    report (peer.receive (some pData) uSize false script trace) = single (some pData) script := by
  have fresh : (ReceiveState.start (some pData) trace).tries < maxTries := by
    simp [ReceiveState.start, maxTries]
  rw [receive_of_ready ready positive]
  cases peer with
  | client self => exact run_single fits rfl fresh arrives
  | server self clientSocket => exact run_single fits rfl fresh arrives

end PlainPeer

/-- The failures with `WSAENOBUFS` make no difference to a `Receive` exactly when it is to
fill its buffer, or the first `recv` is no such failure, or a close comes next. -/
theorem retry_transparent_iff (peer : PlainPeer) (ready : peer.Ready) {uSize : Nat}
    (positive : 0 < uSize) (fits : uSize ≤ intMax) (bReadFully : Bool) (pData : Buffer UInt8)
    {script : List RecvAnswer} (arrives : Arrives uSize bReadFully 0 script)
    (few : script.countP isNoBufs ≤ maxTries) (trace : Trace) :
    report (peer.receive (some pData) uSize bReadFully script trace) =
        report (peer.receive (some pData) uSize bReadFully (withoutNoBufs script) trace) ↔
      bReadFully = true ∨ ¬ FailsFirst script ∨ ClosesFirst script := by
  cases bReadFully with
  | true =>
      have none : (withoutNoBufs script).countP isNoBufs ≤ maxTries := by
        rw [countP_withoutNoBufs]
        exact Nat.zero_le _
      rw [PlainPeer.receive_filled ready positive fits pData arrives few,
        PlainPeer.receive_filled ready positive fits pData arrives.withoutNoBufs none,
        withoutNoBufs_twice]
      exact iff_of_true rfl (.inl rfl)
  | false =>
      rw [PlainPeer.receive_once ready positive fits pData arrives,
        PlainPeer.receive_once ready positive fits pData arrives.withoutNoBufs,
        single_withoutNoBufs_iff arrives]
      simp

def connectedClient : CTCPClient :=
  { CTCPClient.new .noFlags with eStatus := .connected, connectSocket := 3 }

theorem retry_transparent_iff_between_chunks :
    let script := [RecvAnswer.data [1, 2], .status (-1) wsaenobufs, .data [3, 4]]
    Arrives 4 true 0 script ∧ script.countP isNoBufs ≤ maxTries ∧
      report (connectedClient.receive (some fun _ => 0) 4 true script []) =
        report (connectedClient.receive (some fun _ => 0) 4 true (withoutNoBufs script) []) := by
  intro script
  have arrives : Arrives 4 true 0 script := by simp [script, Arrives]
  have few : script.countP isNoBufs ≤ maxTries := by decide
  exact ⟨arrives, few, (retry_transparent_iff (.client connectedClient) rfl (by decide) (by decide)
    true (fun _ => 0) arrives few []).mpr (.inl rfl)⟩

/-- A `Receive` of what there is, whose first `recv` is short of buffers: both classes
report a closed connection, and the two bytes stay where they are. -/
theorem retry_reports_close :
    let script := [RecvAnswer.status (-1) wsaenobufs, .data [1, 2]]
    let server : CTCPServer :=
      { eSettingsFlags := .noFlags, listenSocket := 3, pResultAddrInfo := none }
    let client (script : List RecvAnswer) :=
      report (connectedClient.receive (some fun _ => 0) 8 false script [])
    let accepted (script : List RecvAnswer) :=
      report (server.receive 4 (some fun _ => 0) 8 false script [])
    Arrives 8 false 0 script ∧ script.countP isNoBufs = 1 ∧
      (client script).1 = some 0 ∧ (client (withoutNoBufs script)).1 = some 2 ∧
      (accepted script).1 = some 0 ∧ (accepted (withoutNoBufs script)).1 = some 2 := by
  intro script server client accepted
  have arrives : Arrives 8 false 0 script := by simp [script, Arrives]
  exact ⟨arrives, by decide, rfl, rfl, rfl, rfl⟩

end SocketCpp.Windows
