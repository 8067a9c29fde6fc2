import SocketCpp.Transfer.Accounting

namespace SocketCpp

open Data

/-! Where the calls of a plain transfer reach in the caller's buffer.

A total that a failed `recv` has made negative is converted to a huge size by the loop
test, so no call is ever made with it. -/

/-- At least one byte of the buffer, and none behind its end. -/
structure InWindow (uSize : Nat) (offset length : Int) : Prop where
  lower : 0 ≤ offset
  below : offset < uSize
  some : 1 ≤ length
  within : offset + length ≤ uSize

/-- A call that transfers bytes is given a buffer and a part of it. -/
def Call.InBuffer (pData : Option (Buffer UInt8)) (uSize : Nat) : Call → Prop
  | .send _ offset length _ | .recv _ offset length _ =>
      pData.isSome ∧ InWindow uSize offset length
  | _ => True

/-- The answers `send` can give to the call made in `state`. -/
def CanSend (uSize : Nat) (state : SendState) (answer : SendAnswer) : Prop :=
  (0 ≤ answer.result ∧ answer.result ≤ window uSize state.total) ∨ answer.result = -1

namespace PlainPeer

variable {peer : PlainPeer} {uSize : Nat} {pData : Option (Buffer UInt8)} {trace : Trace}

theorem given_of_accepted (accepted : ¬ (pData.isNone ∨ uSize = 0)) :
    pData.isSome ∧ 0 < uSize := by
  obtain ⟨given, positive⟩ := not_or.mp accepted
  exact ⟨by simpa [Option.isSome_iff_ne_none] using given, Nat.pos_of_ne_zero positive⟩

/-- A `Send` starts its loop with a buffer that is not empty, or it sends nothing. -/
theorem sendEntry_cases (peer : PlainPeer) (pData : Option (Buffer UInt8)) (uSize : Nat)
    (trace : Trace) :
    (peer.sendEntry pData uSize trace = .inl (.start trace) ∧ pData.isSome ∧ 0 < uSize) ∨
      ∃ refused, peer.sendEntry pData uSize trace = .inr refused ∧
        Extends Call.Logs trace refused.trace := by
  cases peer with
  | client self =>
      simp only [sendEntry, CTCPClient.sendEntry]
      split_ifs with rejected connected
      · exact .inr ⟨_, rfl, Extends.refl _ trace⟩
      · exact .inr ⟨_, rfl, Trace.oLog_calls trace _ _⟩
      · exact .inl ⟨rfl, given_of_accepted rejected⟩
  | server self clientSocket =>
      simp only [sendEntry, CTCPServer.sendEntry]
      split_ifs with rejected
      · exact .inr ⟨_, rfl, Extends.refl _ trace⟩
      · exact .inl ⟨rfl, given_of_accepted (not_or.mp rejected).2⟩

theorem receiveEntry_cases (peer : PlainPeer) (pData : Option (Buffer UInt8)) (uSize : Nat)
    (trace : Trace) :
    (peer.receiveEntry pData uSize trace = .inl (.start pData trace) ∧
        pData.isSome ∧ 0 < uSize) ∨
      ∃ refused, peer.receiveEntry pData uSize trace = .inr refused ∧
        Extends Call.Logs trace refused.trace := by
  cases peer with
  | client self =>
      simp only [receiveEntry, CTCPClient.receiveEntry]
      split_ifs with rejected connected
      · exact .inr ⟨_, rfl, Extends.refl _ trace⟩
      · exact .inr ⟨_, rfl, Trace.oLog_calls trace _ _⟩
      · exact .inl ⟨rfl, given_of_accepted rejected⟩
  | server self clientSocket =>
      simp only [receiveEntry, CTCPServer.receiveEntry]
      split_ifs with rejected
      · exact .inr ⟨_, rfl, Extends.refl _ trace⟩
      · exact .inl ⟨rfl, given_of_accepted (not_or.mp rejected).2⟩

theorem sendTurn_adds {kind : Call → Prop} (peer : PlainPeer) (uSize : Nat) (state : SendState)
    (answer : SendAnswer)
    (call : kind (.send peer.fd state.total (window uSize state.total) answer.result))
    (logs : ∀ message, kind (.oLog message)) :
    Extends kind state.trace (sentTrace (peer.sendTurn uSize state answer)) := by
  cases peer with
  | client self => exact SocketCpp.sendTurn_adds _ uSize _ _ state answer call (logs _)
  | server self clientSocket =>
      exact SocketCpp.sendTurn_adds _ uSize _ _ state answer call (logs _)

end PlainPeer

section

variable {peer : PlainPeer} {uSize : Nat} {bReadFully : Bool} {total : Int}

theorem Inside.inWindow (inside : Inside uSize total) :
    InWindow uSize total (window uSize total) where
  lower := inside.lower
  below := inside.below
  some := by
    have below := inside.below
    rw [inside.window_eq]
    omega
  within := by
    rw [inside.window_eq]
    omega

theorem sendTurn_inside {state next : SendState} {answer : SendAnswer}
    (inside : Inside uSize state.total) (possible : CanSend uSize state answer)
    (turned : peer.sendTurn uSize state answer = .inl next) : Inside uSize next.total := by
  obtain ⟨failed, -, computed⟩ := peer.sendTurn_eq uSize state answer
  rw [turned] at computed
  rcases possible with ⟨lower, upper⟩ | failure
  · rw [inside.window_eq] at upper
    obtain ⟨sent, summed, compared⟩ :=
      @counts_within state.total answer.result uSize inside.fits inside.lower lower (by omega)
    simp only [sent, summed, compared] at computed
    split_ifs at computed with failing going
    cases computed
    exact ⟨inside.fits, Int.add_nonneg inside.lower lower, going⟩
  · have negative : wrapInt answer.result < 0 := by
      rw [failure]
      decide
    simp only [negative, if_true] at computed
    cases computed

theorem recvTurn_inside {state next : ReceiveState} {answer : RecvAnswer}
    (inside : Inside uSize state.total)
    (possible : answer.Possible (window uSize state.total))
    (turned : peer.recvTurn uSize bReadFully state answer = .inl next) :
    Inside uSize next.total := by
  have computed := (recvTurn_of_counting peer.fd bReadFully
    ⟨inside.fits, inside.lower, inside.below⟩ possible).2.2
  rw [PlainPeer.recvTurn] at turned
  rw [turned] at computed
  simp only at computed
  split_ifs at computed with silent going
  cases computed
  exact ⟨inside.fits, going.2.1, going.2.2⟩

variable {pData : Option (Buffer UInt8)}

theorem sendLoop_inBuffer (given : pData.isSome) {state : SendState} {script : List SendAnswer}
    (inside : Inside uSize state.total)
    (possible : CallLoop.Admits (peer.sendTurn uSize) (CanSend uSize) state script) :
    Extends (Call.InBuffer pData uSize) state.trace
      (sentTrace (CallLoop.run (peer.sendTurn uSize) state script)) := by
  have turns : ∀ state answer, Inside uSize state.total → CanSend uSize state answer →
      Extends (Call.InBuffer pData uSize) state.trace
        (sentTrace (peer.sendTurn uSize state answer)) := by
    intro state answer inside _
    exact peer.sendTurn_adds uSize state answer ⟨given, inside.inWindow⟩ fun _ => trivial
  have keeps : ∀ state answer next, Inside uSize state.total → CanSend uSize state answer →
      peer.sendTurn uSize state answer = .inl next → Inside uSize next.total :=
    fun _ _ _ inside possible turned => sendTurn_inside inside possible turned
  exact CallLoop.run_extends_within _ _ turns keeps inside possible

theorem receiveLoop_inBuffer (given : pData.isSome) {state : ReceiveState}
    {script : List RecvAnswer} (inside : Inside uSize state.total)
    (possible : CallLoop.Admits (peer.recvTurn uSize bReadFully)
      (fun state answer => answer.Possible (window uSize state.total)) state script) :
    Extends (Call.InBuffer pData uSize) state.trace
      (receivedTrace (CallLoop.run (peer.recvTurn uSize bReadFully) state script)) := by
  have turns : ∀ state answer, Inside uSize state.total →
      answer.Possible (window uSize state.total) →
      Extends (Call.InBuffer pData uSize) state.trace
        (receivedTrace (peer.recvTurn uSize bReadFully state answer)) := by
    intro state answer inside _
    exact recvTurn_adds uSize peer.fd bReadFully state answer ⟨given, inside.inWindow⟩
  have keeps : ∀ state answer next, Inside uSize state.total →
      answer.Possible (window uSize state.total) →
      peer.recvTurn uSize bReadFully state answer = .inl next → Inside uSize next.total :=
    fun _ _ _ inside possible turned => recvTurn_inside inside possible turned
  exact CallLoop.run_extends_within _ _ turns keeps inside possible

end

/-- Every call of a plain `Send` or `Receive` stays inside the caller's buffer, whatever
the calls before it returned. -/
theorem transfers_inBuffer (peer : PlainPeer) {uSize : Nat} (fits : uSize ≤ intMax)
    (pData : Option (Buffer UInt8)) (trace : Trace) :
    (∀ script,
      (∀ state, peer.sendEntry pData uSize trace = .inl state →
        CallLoop.Admits (peer.sendTurn uSize) (CanSend uSize) state script) →
      Extends (Call.InBuffer pData uSize) trace
        (sentTrace (peer.send pData uSize script trace))) ∧
    (∀ bReadFully script,
      (∀ state, peer.receiveEntry pData uSize trace = .inl state →
        CallLoop.Admits (peer.recvTurn uSize bReadFully)
          (fun state answer => answer.Possible (window uSize state.total)) state script) →
      Extends (Call.InBuffer pData uSize) trace
        (receivedTrace (peer.receive pData uSize bReadFully script trace))) := by
  have logs : ∀ call : Call, call.Logs → call.InBuffer pData uSize := by
    intro call logs
    cases call <;> first | exact logs.elim | trivial
  have first : 0 < uSize → Inside uSize 0 :=
    fun positive => ⟨fits, Int.le_refl 0, Int.natCast_pos.mpr positive⟩
  refine ⟨?_, ?_⟩
  · intro script possible
    rw [peer.send_eq_enter]
    rcases peer.sendEntry_cases pData uSize trace with
      ⟨entered, given, positive⟩ | ⟨refused, entered, logged⟩
    · have possible := possible _ entered
      rw [entered]
      exact sendLoop_inBuffer given (first positive) possible
    · rw [entered]
      exact logged.mono logs
  · intro bReadFully script possible
    rw [peer.receive_eq_enter]
    rcases peer.receiveEntry_cases pData uSize trace with
      ⟨entered, given, positive⟩ | ⟨refused, entered, logged⟩
    · have possible := possible _ entered
      rw [entered]
      exact receiveLoop_inBuffer given (first positive) possible
    · rw [entered]
      exact logged.mono logs

/-- A failure after two bytes moves the offset back, and the next call still has its window
inside the buffer. -/
theorem transfers_inBuffer_timeout :
    let script := [RecvAnswer.data [1, 2], .status (-1) 11, .data [3], .data [4]]
    Extends (Call.InBuffer (some fun _ => 0) 4) []
      (receivedTrace (connectedClient.receive (some fun _ => 0) 4 true script [])) := by
  intro script
  have possible : ∀ state,
      PlainPeer.receiveEntry (.client connectedClient) (some fun _ => 0) 4 [] = .inl state →
      CallLoop.Admits (PlainPeer.recvTurn (.client connectedClient) 4 true)
        (fun state answer => answer.Possible (window 4 state.total)) state script := by
    intro state entered
    cases entered
    exact ⟨⟨by decide, by decide⟩, .inr rfl, ⟨by decide, by decide⟩, ⟨by decide, by decide⟩, trivial⟩
  exact (transfers_inBuffer (.client connectedClient) (show 4 ≤ intMax by decide) _ []).2 true script
    possible

/-- A total that a failure has made negative ends the loop. -/
example : ∃ result, connectedClient.receive (some fun _ => 0) 4 true [.status (-1) 11] [] =
    .inr result ∧ result.total = -1 :=
  ⟨_, rfl, rfl⟩

end SocketCpp
