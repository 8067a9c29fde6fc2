import SocketCpp.Transfer.Accounting

namespace SocketCpp

open Data

/-! Whether a plain `Receive` that is to fill its buffer ever returns.

A failed call goes into the accumulator as `-1`, and the loop goes on as long as the
accumulator is inside the buffer.  So failures can take back what arrives, and the loop
can stay in its calls for ever. -/

/-- With the answer at this place a close arrives, or more calls have failed than bytes
have arrived, or the bytes are ahead of the failures by the size of the buffer. -/
def StopsAt (uSize : Nat) (script : Nat → RecvAnswer) (count : Nat) : Prop :=
  (script count).result = 0 ∨
    (delivered (CallLoop.answered script (count + 1))).length <
      failures (CallLoop.answered script (count + 1)) ∨
    uSize + failures (CallLoop.answered script (count + 1)) ≤
      (delivered (CallLoop.answered script (count + 1))).length

section

variable {fd : Socket} {uSize : Nat} {state : ReceiveState}

theorem recvTurn_returns_iff (counting : Counting uSize state) {answer : RecvAnswer}
    (possible : answer.Possible (window uSize state.total)) :
    (∃ result, recvTurn fd uSize true state answer = .inr result) ↔
      answer.result = 0 ∨ state.total + answer.result < 0 ∨ uSize ≤ state.total + answer.result := by
  have computed := (recvTurn_of_counting fd true counting possible).2.2
  rw [computed]
  by_cases silent : answer.result = 0
  · simp [silent]
  · by_cases going : 0 ≤ state.total + answer.result ∧ state.total + answer.result < uSize
    · simp only [silent, if_false, going, and_self, if_true, reduceCtorEq, exists_false, false_or,
        false_iff]
      omega
    · simp only [silent, if_false, going, and_false, false_or]
      exact iff_of_true ⟨_, rfl⟩ (by omega)

theorem recvLoop_returns_iff {script : Nat → RecvAnswer} (start : Accounted uSize [] state)
    (admits : ∀ count, CallLoop.Admits (recvTurn fd uSize true)
      (fun state answer => answer.Possible (window uSize state.total)) state
      (CallLoop.answered script count)) :
    (∃ count result, CallLoop.run (recvTurn fd uSize true) state
        (CallLoop.answered script count) = .inr result) ↔
      ∃ count, StopsAt uSize script count := by
  apply CallLoop.returns_iff
  intro count next waiting
  have accounted := (accounted_run start (admits count)).1 next waiting
  have later := admits (count + 1)
  rw [CallLoop.answered_succ, CallLoop.admits_append] at later
  obtain ⟨possible, -⟩ := later.2 next waiting
  have total := accounted.total_append possible
  rw [recvTurn_returns_iff accounted.counting possible, total, StopsAt, CallLoop.answered_succ]
  omega

end

/-- A plain `Receive` that is to fill its buffer returns exactly when at some point of the
script the connection is closed, the failures outnumber the bytes, or the bytes are ahead
of the failures by the size of the buffer. -/
theorem receive_returns_iff (peer : PlainPeer) (ready : peer.Ready) {uSize : Nat}
    (positive : 0 < uSize) (fits : uSize ≤ intMax) (pData : Buffer UInt8) (trace : Trace)
    (script : Nat → RecvAnswer)
    (admits : ∀ count, CallLoop.Admits (peer.recvTurn uSize true)
      (fun state answer => answer.Possible (window uSize state.total))
      (.start (some pData) trace) (CallLoop.answered script count)) :
    (∃ count result, peer.receive (some pData) uSize true (CallLoop.answered script count) trace =
        .inr result) ↔
      ∃ count, StopsAt uSize script count := by
  simp only [PlainPeer.receive_of_ready ready positive]
  exact recvLoop_returns_iff (accounted_start positive fits pData trace) admits

theorem receive_returns_iff_closed :
    let closed (_ : Nat) := RecvAnswer.status 0 0
    (∃ count result, connectedClient.receive (some fun _ => 0) 8 true
        (CallLoop.answered closed count) [] = .inr result) ↔ ∃ count, StopsAt 8 closed count := by
  intro closed
  refine receive_returns_iff (.client connectedClient) rfl (by decide) (by decide) (fun _ => 0) []
    closed fun count => ?_
  cases count with
  | zero => trivial
  | succ count =>
      rw [CallLoop.answered, List.range_succ_eq_map, List.map_cons]
      exact ⟨.inl rfl, trivial⟩

/-- A byte and a timeout in turn. -/
def drip (index : Nat) : RecvAnswer :=
  if index % 2 = 0 then .data [0] else .status (-1) 11

theorem drip_turn (fd : Socket) {state : ReceiveState} {count : Nat}
    (total : state.total = (count % 2 : Nat)) :
    (drip count).Possible (window 8 state.total) ∧
      ∃ next, recvTurn fd 8 true state (drip count) = .inl next ∧
        next.total = ((count + 1) % 2 : Nat) := by
  rcases Nat.mod_two_eq_zero_or_one count with even | odd
  · have next : (count + 1) % 2 = 1 := by omega
    rw [even] at total
    simp only [drip, even, next, if_true]
    refine ⟨⟨by simp, by rw [total]; decide⟩, ⟨1, (RecvAnswer.data [0]).store 0 state.pData,
      .recv fd 0 8 1 :: state.trace⟩, ?_, rfl⟩
    simp only [recvTurn, total]
    rfl
  · have next : (count + 1) % 2 = 0 := by omega
    rw [odd] at total
    simp only [drip, odd, next, if_false, Nat.one_ne_zero]
    refine ⟨.inr rfl, ⟨0, (RecvAnswer.status (-1) 11).store 1 state.pData,
      .recv fd 1 7 (-1) :: state.trace⟩, ?_, rfl⟩
    simp only [recvTurn, total]
    rfl

theorem drip_waits (peer : PlainPeer) (ready : peer.Ready) (count : Nat) :
    CallLoop.Admits (peer.recvTurn 8 true) (fun state answer => answer.Possible (window 8 state.total))
        (.start (some fun _ => 0) []) (CallLoop.answered drip count) ∧
      ∃ next, peer.receive (some fun _ => 0) 8 true (CallLoop.answered drip count) [] = .inl next ∧
        next.total = (count % 2 : Nat) := by
  rw [PlainPeer.receive_of_ready ready (by decide)]
  induction count with
  | zero => exact ⟨trivial, _, rfl, rfl⟩
  | succ count ih =>
      obtain ⟨admits, waiting, run, total⟩ := ih
      obtain ⟨possible, next, turn, moved⟩ := drip_turn peer.fd total
      rw [CallLoop.answered_succ, CallLoop.admits_append, CallLoop.run_append, run]
      refine ⟨⟨admits, fun other same => ?_⟩, next, CallLoop.run_cons_continue _ turn, moved⟩
      cases same
      exact ⟨possible, by rw [PlainPeer.recvTurn, turn]; trivial⟩

/-- A peer that sends a byte now and then, against a receive timeout: neither `Receive`
ever returns. -/
theorem receive_never_returns :
    let server := CTCPServer.new "80" .noFlags
    let possible (state : ReceiveState) (answer : RecvAnswer) :=
      answer.Possible (window 8 state.total)
    (∀ count, CallLoop.Admits (connectedClient.recvTurn 8 true) possible
        (.start (some fun _ => 0) []) (CallLoop.answered drip count)) ∧
      (∀ count, CallLoop.Admits (recvTurn 4 8 true) possible
        (.start (some fun _ => 0) []) (CallLoop.answered drip count)) ∧
      (¬ ∃ count result, connectedClient.receive (some fun _ => 0) 8 true
        (CallLoop.answered drip count) [] = .inr result) ∧
      ¬ ∃ count result, server.receive 4 (some fun _ => 0) 8 true
        (CallLoop.answered drip count) [] = .inr result := by
  intro server possible
  have client (count : Nat) := drip_waits (.client connectedClient) rfl count
  have accepted (count : Nat) := drip_waits (.server server 4) (show (0 : Socket) ≤ 4 by decide) count
  refine ⟨fun count => (client count).1, fun count => (accepted count).1, ?_, ?_⟩
  · rintro ⟨count, result, returned⟩
    obtain ⟨next, waiting, -⟩ := (client count).2
    cases returned.symm.trans waiting
  · rintro ⟨count, result, returned⟩
    obtain ⟨next, waiting, -⟩ := (accepted count).2
    cases returned.symm.trans waiting

end SocketCpp
