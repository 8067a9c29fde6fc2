import Mathlib.Algebra.GroupWithZero.Nat
import SocketCpp.Transfer.Delivery

namespace SocketCpp

open Data

/-! What the calls of an end do to its connection.

Bytes get on the connection and off it by the recorded calls alone: the handle a call is made
on, the part of the memory that it is given and its result say which they are. -/

/-- The connection takes some of the bytes that the call is made with. -/
def Call.Accepted : Call → Prop
  | .send _ _ length result | .sslWrite _ _ length result => 1 ≤ result ∧ result ≤ length
  | _ => True

/-- The call gets the next bytes that are on their way, and no more than it asks for. -/
def Call.Delivered (queue bytes : List UInt8) : Call → Prop
  | .recv _ _ length result | .sslRead _ _ length result =>
      1 ≤ result ∧ result ≤ length ∧ result ≤ queue.length ∧ bytes = queue.take result.toNat
  | _ => True

/-- The call fails in one of the ways that the system and OpenSSL have. -/
def Call.Failed : Call → Prop
  | .send _ _ _ result => -2147483648 ≤ result ∧ result < 0
  | .recv _ _ _ result => result = -1
  | .sslWrite _ _ _ result | .sslRead _ _ _ result => -2147483648 ≤ result ∧ result ≤ 0
  | _ => True

/-- A failure of `recv` behind data: the loop adds the -1 to what it has received. -/
def Call.forgets : Call → Bool
  | .recv _ offset _ result => 0 < offset ∧ result < 0
  | _ => false

section Quiet

variable {call : Call} (quiet : call.Quiet)

include quiet

theorem Call.Quiet.accepted : call.Accepted := by
  cases call <;> trivial

theorem Call.Quiet.delivered (queue bytes : List UInt8) : call.Delivered queue bytes := by
  cases call <;> trivial

theorem Call.Quiet.failed : call.Failed := by
  cases call <;> trivial

theorem Call.Quiet.not_forgets : call.forgets = false := by
  cases call <;> first | rfl | exact quiet.elim

end Quiet

/-- The failures behind data among the calls of one turn. -/
theorem countP_forgets {call : Call} {before after : Trace}
    (quiet : Extends Call.Quiet (call :: before) after) :
    ∃ added, after = added ++ before ∧ added.countP Call.forgets = call.forgets.toNat := by
  obtain ⟨later, rfl, quiets⟩ := quiet
  have nothing : later.countP Call.forgets = 0 :=
    List.countP_eq_zero.mpr fun other member => by simp [(quiets other member).not_forgets]
  refine ⟨later ++ [call], by simp, ?_⟩
  rw [List.countP_append, nothing, Nat.zero_add, List.countP_singleton]
  cases call.forgets <;> rfl

namespace Endpoint

/-- The call is made on the connection of this end. -/
def uses : Endpoint → Call → Bool
  | .plain peer, .send fd _ _ _ | .plain peer, .recv fd _ _ _ => fd = peer.fd
  | .secure peer, .sslWrite pSSL _ _ _ | .secure peer, .sslRead pSSL _ _ _ => pSSL = peer.pSSL
  | _, _ => false

/-- The bytes that a call puts on the connection, read from the memory that it is given. -/
def puts (endpoint : Endpoint) (pData : Buffer UInt8) (call : Call) : List UInt8 :=
  if endpoint.uses call then call.accepted pData else []

/-- How many bytes a call takes off the connection. -/
def takes (endpoint : Endpoint) (call : Call) : Nat :=
  if endpoint.uses call then (call.readResult.getD 0).toNat else 0

/-- What all calls of a turn put on the connection, the first one first. -/
def putBy (endpoint : Endpoint) (pData : Buffer UInt8) (calls : Trace) : List UInt8 :=
  calls.reverse.flatMap (endpoint.puts pData)

def takenBy (endpoint : Endpoint) (calls : Trace) : Nat :=
  (calls.map endpoint.takes).sum

def recvTurn : Endpoint → Nat → Bool → ReceiveState → RecvAnswer → ReceiveState ⊕ Received
  | .plain peer => peer.recvTurn
  | .secure peer => peer.recvTurn

/-- The call that asks for bytes with `total` of them received before. -/
def readCall (endpoint : Endpoint) (uSize : Nat) (total : Int) (result : Int) : Call :=
  match endpoint with
  | .plain peer => .recv peer.fd total (window uSize total) result
  | .secure peer => .sslRead peer.pSSL total (wrapInt (window uSize total)) result

variable {endpoint : Endpoint} {uSize : Nat} {pData : Buffer UInt8}

theorem recvTurn_calls (endpoint : Endpoint) (uSize : Nat) (bReadFully : Bool)
    (state : ReceiveState) (answer : RecvAnswer) :
    Extends Call.Quiet (endpoint.readCall uSize state.total answer.result :: state.trace)
      (receivedTrace (endpoint.recvTurn uSize bReadFully state answer)) := by
  cases endpoint with
  | plain peer => exact peer.recvTurn_calls uSize bReadFully state answer
  | secure peer => exact peer.recvTurn_calls uSize bReadFully state answer

theorem puts_call (endpoint : Endpoint) (uSize : Nat) (total result : Int) :
    endpoint.puts pData (endpoint.call uSize total result) = pData.read total result.toNat := by
  cases endpoint <;> simp [puts, uses, call, Call.accepted]

theorem takes_readCall (endpoint : Endpoint) (uSize : Nat) (total result : Int) :
    endpoint.takes (endpoint.readCall uSize total result) = result.toNat := by
  cases endpoint <;> simp [takes, uses, readCall, Call.readResult]

theorem puts_of_quiet {call : Call} (quiet : call.Quiet) : endpoint.puts pData call = [] := by
  rw [puts, Call.accepted_of_quiet quiet.not_isSend, ite_self]

theorem takes_of_quiet {call : Call} (quiet : call.Quiet) : endpoint.takes call = 0 := by
  rw [takes, quiet.readResult_eq, Option.getD_none, Int.toNat_zero, ite_self]

/-- A turn of a `Send` puts on the connection what its call has been given and has accepted. -/
theorem putBy_sendCalls (endpoint : Endpoint) (uSize : Nat) (state : SendState)
    (answer : SendAnswer) :
    endpoint.putBy pData (sendCalls (endpoint.sendTurn uSize) state answer) =
      pData.read state.total answer.result.toNat := by
  obtain ⟨later, added, quiets⟩ := (endpoint.sendTurn_calls uSize state answer).since_eq
  have nothing : later.reverse.flatMap (endpoint.puts pData) = [] :=
    List.flatMap_eq_nil_iff.mpr fun call member =>
      puts_of_quiet (quiets call (List.mem_reverse.mp member))
  have calls : sendCalls (endpoint.sendTurn uSize) state answer =
      later ++ [endpoint.call uSize state.total answer.result] := added
  rw [putBy, calls, List.reverse_append, List.reverse_singleton, List.flatMap_append, nothing,
    List.append_nil, List.flatMap_singleton, puts_call]

theorem takenBy_receiveCalls (endpoint : Endpoint) (uSize : Nat) (bReadFully : Bool)
    (state : ReceiveState) (answer : RecvAnswer) :
    endpoint.takenBy (receiveCalls (endpoint.recvTurn uSize bReadFully) state answer) =
      answer.result.toNat := by
  obtain ⟨later, added, quiets⟩ := (endpoint.recvTurn_calls uSize bReadFully state answer).since_eq
  have nothing : (later.map endpoint.takes).sum = 0 := by
    apply List.sum_eq_zero
    rintro count member
    obtain ⟨call, added, rfl⟩ := List.mem_map.mp member
    exact takes_of_quiet (quiets call added)
  have calls : receiveCalls (endpoint.recvTurn uSize bReadFully) state answer =
      later ++ [endpoint.readCall uSize state.total answer.result] := added
  rw [takenBy, calls, List.map_append, List.sum_append, nothing, Nat.zero_add, List.map_singleton,
    List.sum_singleton, takes_readCall]

/-- A call within the size accepts some of the bytes that are left. -/
theorem accepted_iff {state : SendState} {answer : SendAnswer}
    (inside : Inside uSize state.total) :
    (∀ call ∈ sendCalls (endpoint.sendTurn uSize) state answer, call.Accepted) ↔
      1 ≤ answer.result ∧ state.total + answer.result ≤ uSize := by
  have length := inside.window_eq
  have fits := inside.fits
  have lower := inside.lower
  have asked : wrapInt (window uSize state.total) = uSize - state.total := by
    rw [length]
    exact wrapInt_eq_self (by omega) (by omega)
  refine ((endpoint.sendTurn_calls uSize state answer).forall_since_iff
    fun _ => Call.Quiet.accepted).trans ?_
  cases endpoint with
  | plain peer =>
      simp only [call, Call.Accepted, length]
      omega
  | secure peer =>
      simp only [call, Call.Accepted, asked]
      omega

theorem failed_iff {state : SendState} {answer : SendAnswer} :
    (∀ call ∈ sendCalls (endpoint.sendTurn uSize) state answer, call.Failed) ↔
      endpoint.Fails answer.result ∧ -2147483648 ≤ answer.result := by
  refine ((endpoint.sendTurn_calls uSize state answer).forall_since_iff
    fun _ => Call.Quiet.failed).trans ?_
  cases endpoint <;> exact and_comm

theorem readFailed_iff {bReadFully : Bool} {state : ReceiveState} {answer : RecvAnswer} :
    (∀ call ∈ receiveCalls (endpoint.recvTurn uSize bReadFully) state answer, call.Failed) ↔
      (endpoint.readCall uSize state.total answer.result).Failed :=
  (endpoint.recvTurn_calls uSize bReadFully state answer).forall_since_iff
    fun _ => Call.Quiet.failed

theorem readCall_nonpos {total result : Int}
    (failed : (endpoint.readCall uSize total result).Failed) : result ≤ 0 := by
  cases endpoint with
  | plain peer =>
      obtain rfl : result = -1 := failed
      decide
  | secure peer => exact failed.2

theorem readCall_remembers {total result : Int} (nonneg : 0 ≤ result) :
    (endpoint.readCall uSize total result).forgets = false := by
  cases endpoint with
  | plain peer =>
      have succeeds : ¬ result < 0 := Int.not_lt.mpr nonneg
      simp [readCall, Call.forgets, succeeds]
  | secure peer => rfl

/-- A call within the size gets the next bytes, at most as many as are left to receive. -/
theorem delivered_iff {bReadFully : Bool} {state : ReceiveState} {answer : RecvAnswer}
    {queue : List UInt8} (inside : Inside uSize state.total) :
    (∀ call ∈ receiveCalls (endpoint.recvTurn uSize bReadFully) state answer,
      call.Delivered queue answer.bytes) ↔
      ∃ count : Nat, 1 ≤ count ∧ state.total + count ≤ uSize ∧ count ≤ queue.length ∧
        answer = .data (queue.take count) := by
  have length := inside.window_eq
  have fits := inside.fits
  have lower := inside.lower
  have asked : wrapInt (window uSize state.total) = uSize - state.total := by
    rw [length]
    exact wrapInt_eq_self (by omega) (by omega)
  have called : (∀ call ∈ receiveCalls (endpoint.recvTurn uSize bReadFully) state answer,
      call.Delivered queue answer.bytes) ↔ 1 ≤ answer.result ∧
        answer.result ≤ uSize - state.total ∧ answer.result ≤ queue.length ∧
        answer.bytes = queue.take answer.result.toNat := by
    refine ((endpoint.recvTurn_calls uSize bReadFully state answer).forall_since_iff
      fun _ quiet => quiet.delivered queue answer.bytes).trans ?_
    cases endpoint with
    | plain peer => simp only [readCall, Call.Delivered, length]
    | secure peer => simp only [readCall, Call.Delivered, asked]
  rw [called]
  constructor
  · rintro ⟨some, within, available, taken⟩
    cases answer with
    | data bytes =>
        simp only [RecvAnswer.result, RecvAnswer.bytes, Int.toNat_natCast] at *
        exact ⟨bytes.length, by omega, by omega, by omega, congrArg _ taken⟩
    | status result error =>
        have taken := congrArg List.length taken
        simp only [RecvAnswer.result, RecvAnswer.bytes, List.length_nil, List.length_take] at *
        omega
  · rintro ⟨count, some, within, available, rfl⟩
    simp only [RecvAnswer.result, RecvAnswer.bytes, List.length_take, Nat.min_eq_left available,
      Int.toNat_natCast, and_true]
    omega

end Endpoint

end SocketCpp
