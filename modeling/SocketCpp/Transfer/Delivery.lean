import SocketCpp.Transfer.Accounting
import SocketCpp.Transfer.Ending
import SocketCpp.Transfer.Peer
import SocketCpp.Transfer.SecurePeer

namespace SocketCpp

open Data

/-! What a `Send` of any of the four classes delivers of its payload. -/

/-- An end of a connection that sends, with the call it sends by. -/
inductive Endpoint where
  | plain (peer : PlainPeer)
  | secure (peer : SecurePeer)

namespace Endpoint

def Ready : Endpoint → Prop
  | .plain peer => peer.Ready
  | .secure peer => peer.Ready

def sendTurn : Endpoint → Nat → SendState → SendAnswer → SendState ⊕ Sent
  | .plain peer => peer.sendTurn
  | .secure peer => peer.sendTurn

def send : Endpoint → Option (Buffer UInt8) → Nat → List SendAnswer → Trace → SendState ⊕ Sent
  | .plain peer => peer.send
  | .secure peer => peer.send

/-- The call made with `total` bytes accepted before. -/
def call (endpoint : Endpoint) (uSize : Nat) (total : Int) (result : Int) : Call :=
  match endpoint with
  | .plain peer => .send peer.fd total (window uSize total) result
  | .secure peer => .sslWrite peer.pSSL total (wrapInt (window uSize total)) result

def Fails : Endpoint → Int → Prop
  | .plain _, result => result < 0
  | .secure _, result => result ≤ 0

end Endpoint

def Call.failsToSend : Call → Prop
  | .send _ _ _ result => result < 0
  | .sslWrite _ _ _ result => result ≤ 0
  | _ => False

/-- The bytes of the payload that a call has accepted. -/
def Call.accepted (pData : Buffer UInt8) : Call → List UInt8
  | .send _ offset _ result | .sslWrite _ offset _ result => pData.read offset result.toNat
  | _ => []

def acceptedBytes (pData : Buffer UInt8) : Trace → List UInt8
  | [] => []
  | call :: earlier => acceptedBytes pData earlier ++ call.accepted pData

def returned : SendState ⊕ Sent → Option Bool :=
  Sum.elim (fun _ => none) fun result => some result.value

/-- After the call the accepted bytes are a prefix of the payload. -/
def DeliversPrefix (pData : Buffer UInt8) (uSize : Nat) (call : Call) (earlier : Trace) : Prop :=
  acceptedBytes pData (call :: earlier) <+: pData.read 0 uSize

/-- Nothing is sent after a failure. -/
def FollowsNoFailure (call : Call) (earlier : Trace) : Prop :=
  call.isSend → ∀ before ∈ earlier, ¬ before.failsToSend

/-- What the calls of a `Send` have delivered, and what it has returned so far. -/
structure Delivers (pData : Buffer UInt8) (uSize : Nat) (calls : Trace) (value : Option Bool) :
    Prop where
  prefixes : Each (DeliversPrefix pData uSize) calls
  succeeds : value = some true ↔ acceptedBytes pData calls = pData.read 0 uSize
  fails : value = some false ↔ ∃ call ∈ calls, call.failsToSend
  last : Each FollowsNoFailure calls
  bounded : calls.countP Call.isSend ≤ uSize

section Calls

variable {call : Call} {pData : Buffer UInt8} {calls later : Trace}

theorem Call.accepted_of_quiet (quiet : call.isSend = false) : call.accepted pData = [] := by
  cases call <;> first | rfl | cases quiet

variable (extended : Extends (fun call : Call => call.isSend = false) calls later)

include extended

theorem acceptedBytes_of_quiet : acceptedBytes pData later = acceptedBytes pData calls :=
  extended.view_eq (acceptedBytes pData) fun call earlier quiet => by
    rw [acceptedBytes, Call.accepted_of_quiet quiet, List.append_nil]

theorem countP_isSend_of_quiet : later.countP Call.isSend = calls.countP Call.isSend :=
  extended.view_eq (List.countP Call.isSend) fun call earlier quiet => by
    simp [quiet]

end Calls

/-- The state of the loop in front of a call: `total` bytes are accepted. -/
structure Progress (pData : Buffer UInt8) (uSize : Nat) (calls : Trace) (total : Nat) : Prop where
  accepted : acceptedBytes pData calls = pData.read 0 total
  prefixes : Each (DeliversPrefix pData uSize) calls
  clean : ∀ call ∈ calls, ¬ call.failsToSend
  last : Each FollowsNoFailure calls
  counted : calls.countP Call.isSend ≤ total

theorem Data.Buffer.read_prefix {α : Type} (buffer : Buffer α) {first second : Nat}
    (within : first ≤ second) : buffer.read 0 first <+: buffer.read 0 second := by
  obtain ⟨rest, rfl⟩ := Nat.exists_eq_add_of_le within
  rw [Buffer.read_add]
  exact List.prefix_append _ _

section Loops

variable {endpoint : Endpoint} {uSize total : Nat} {pData : Buffer UInt8} {calls trace : Trace}
  {state : SendState} {answer : SendAnswer}

theorem Endpoint.call_isSend (endpoint : Endpoint) (uSize : Nat) (total result : Int) :
    (endpoint.call uSize total result).isSend = true := by
  cases endpoint <;> rfl

theorem Endpoint.call_failsToSend (endpoint : Endpoint) (uSize : Nat) (total result : Int) :
    (endpoint.call uSize total result).failsToSend ↔ endpoint.Fails result := by
  cases endpoint <;> exact Iff.rfl

theorem Endpoint.call_accepted (endpoint : Endpoint) (uSize : Nat) (total result : Int) :
    (endpoint.call uSize total result).accepted pData = pData.read total result.toNat := by
  cases endpoint <;> rfl

theorem Endpoint.Fails.nonpos {result : Int} (fails : endpoint.Fails result) : result ≤ 0 := by
  cases endpoint with
  | plain peer => exact Int.le_of_lt fails
  | secure peer => exact fails

theorem Endpoint.not_fails_of_pos {result : Int} (positive : 1 ≤ result) :
    ¬ endpoint.Fails result := by
  intro fails
  have nonpos := fails.nonpos
  omega

theorem Endpoint.sendTurn_calls (endpoint : Endpoint) (uSize : Nat) (state : SendState)
    (answer : SendAnswer) :
    Extends Call.Quiet (endpoint.call uSize state.total answer.result :: state.trace)
      (sentTrace (endpoint.sendTurn uSize state answer)) := by
  cases endpoint with
  | plain peer => exact peer.sendTurn_calls uSize state answer
  | secure peer => exact peer.sendTurn_calls uSize state answer

/-- The call of a turn takes some of what is left, or it fails. -/
theorem Endpoint.sendPossible_iff (endpoint : Endpoint) (uSize : Nat) (state : SendState)
    (answer : SendAnswer) :
    SendPossible (endpoint.sendTurn uSize) state answer ↔
      (endpoint.call uSize state.total answer.result).Possible :=
  (endpoint.sendTurn_calls uSize state answer).forall_since_iff fun _ => Call.Quiet.possible

theorem Endpoint.possible_cases (inside : Inside uSize state.total)
    (possible : SendPossible (endpoint.sendTurn uSize) state answer) :
    (1 ≤ answer.result ∧ state.total + answer.result ≤ uSize) ∨
      (endpoint.Fails answer.result ∧ -2147483648 ≤ answer.result) := by
  have length := inside.window_eq
  have fits := inside.fits
  have lower := inside.lower
  rw [endpoint.sendPossible_iff] at possible
  cases endpoint with
  | plain peer =>
      rcases possible with ⟨some, within⟩ | ⟨lowest, fails⟩
      · exact .inl ⟨some, by omega⟩
      · exact .inr ⟨fails, lowest⟩
  | secure peer =>
      have asked : wrapInt (window uSize state.total) = uSize - state.total := by
        rw [length]
        exact wrapInt_eq_self (by omega) (by omega)
      rcases possible with ⟨some, within⟩ | ⟨lowest, fails⟩
      · exact .inl ⟨some, by omega⟩
      · exact .inr ⟨fails, lowest⟩

theorem Endpoint.send_of_ready (ready : endpoint.Ready) (positive : 0 < uSize)
    (pData : Buffer UInt8) (script : List SendAnswer) (trace : Trace) :
    endpoint.send (some pData) uSize script trace =
      CallLoop.run (endpoint.sendTurn uSize) (.start trace) script := by
  cases endpoint with
  | plain peer => exact PlainPeer.send_of_ready ready positive pData script trace
  | secure peer => exact SecurePeer.send_of_ready ready (some pData) script trace

theorem Endpoint.sendTurn_accepts (fits : uSize ≤ intMax) (reached : state.total = total)
    (some : 1 ≤ answer.result) (within : total + answer.result ≤ uSize) :
    endpoint.sendTurn uSize state answer =
      if total + answer.result < uSize then
        .inl {
          total := total + answer.result
          trace := endpoint.call uSize total answer.result :: state.trace }
      else
        .inr {
          total := total + answer.result
          trace := endpoint.call uSize total answer.result :: state.trace
          value := true } := by
  obtain ⟨sent, summed, compared⟩ := counts_within fits (Int.natCast_nonneg total)
    (Int.le_trans Int.one_nonneg some) within
  cases endpoint with
  | plain peer =>
      obtain ⟨failed, -, turned⟩ := peer.sendTurn_eq uSize state answer
      have succeeded : ¬ answer.result < 0 := by omega
      simp only [reached, sent, summed, compared, succeeded, if_false] at turned
      exact turned
  | secure peer =>
      obtain ⟨failed, -, turned⟩ := peer.sendTurn_eq uSize state answer
      have succeeded : ¬ answer.result ≤ 0 := by omega
      simp only [reached, sent, summed, compared, succeeded, if_false] at turned
      exact turned

theorem Endpoint.sendTurn_fails (reached : state.total = total)
    (fails : endpoint.Fails answer.result) (lower : -2147483648 ≤ answer.result) :
    ∃ failed, Extends (fun call : Call => call.isSend = false)
        (endpoint.call uSize total answer.result :: state.trace) failed ∧
      endpoint.sendTurn uSize state answer =
        .inr { state with trace := failed, value := false } := by
  have nonpos := fails.nonpos
  have sent : wrapInt answer.result = answer.result :=
    wrapInt_eq_self lower (by simp only [intMax]; omega)
  cases endpoint with
  | plain peer =>
      obtain ⟨failed, quiet, turned⟩ := peer.sendTurn_eq uSize state answer
      rw [sent, if_pos (show answer.result < 0 from fails)] at turned
      rw [reached] at quiet
      exact ⟨failed, quiet.mono fun _ => Call.Quiet.not_isSend, turned⟩
  | secure peer =>
      obtain ⟨failed, quiet, turned⟩ := peer.sendTurn_eq uSize state answer
      rw [sent, if_pos (show answer.result ≤ 0 from fails)] at turned
      rw [reached] at quiet
      exact ⟨failed, quiet.mono fun _ => Call.Quiet.not_isSend, turned⟩

theorem Progress.step (progress : Progress pData uSize calls total) {result : Int}
    (some : 1 ≤ result) (within : total + result ≤ uSize) :
    Progress pData uSize (endpoint.call uSize total result :: calls) (total + result.toNat) := by
  have accepted : acceptedBytes pData (endpoint.call uSize total result :: calls) =
      pData.read 0 (total + result.toNat) := by
    rw [acceptedBytes, progress.accepted, endpoint.call_accepted, Buffer.read_add, Int.zero_add]
  constructor
  · exact accepted
  · refine ⟨?_, progress.prefixes⟩
    rw [DeliversPrefix, accepted]
    exact pData.read_prefix (by omega)
  · refine List.forall_mem_cons.mpr ⟨?_, progress.clean⟩
    rw [endpoint.call_failsToSend]
    exact Endpoint.not_fails_of_pos some
  · exact ⟨fun _ => progress.clean, progress.last⟩
  · rw [List.countP_cons_of_pos (endpoint.call_isSend ..)]
    have counted := progress.counted
    omega

theorem Progress.waiting (progress : Progress pData uSize calls total) (below : total < uSize) :
    Delivers pData uSize calls none where
  prefixes := progress.prefixes
  succeeds := by
    refine iff_of_false nofun ?_
    intro complete
    have length := congrArg List.length (progress.accepted.symm.trans complete)
    simp only [Buffer.read_length] at length
    omega
  fails := iff_of_false nofun fun ⟨call, member, failed⟩ => progress.clean call member failed
  last := progress.last
  bounded := Nat.le_trans progress.counted (Nat.le_of_lt below)

theorem Progress.complete (progress : Progress pData uSize calls uSize) :
    Delivers pData uSize calls (some true) where
  prefixes := progress.prefixes
  succeeds := iff_of_true rfl progress.accepted
  fails := iff_of_false nofun fun ⟨call, member, failed⟩ => progress.clean call member failed
  last := progress.last
  bounded := progress.counted

theorem Progress.failed (progress : Progress pData uSize calls total) (below : total < uSize)
    {result : Int} {later : Trace} (fails : endpoint.Fails result)
    (quiet : Extends (fun call : Call => call.isSend = false)
      (endpoint.call uSize total result :: calls) later) :
    Delivers pData uSize later (some false) := by
  have nothing : result.toNat = 0 := Int.toNat_of_nonpos fails.nonpos
  have accepted : acceptedBytes pData (endpoint.call uSize total result :: calls) =
      pData.read 0 total := by
    rw [acceptedBytes, progress.accepted, endpoint.call_accepted, nothing, Buffer.read_zero,
      List.append_nil]
  constructor
  · refine quiet.each ⟨?_, progress.prefixes⟩ ?_
    · rw [DeliversPrefix, accepted]
      exact pData.read_prefix (Nat.le_of_lt below)
    · intro call earlier silent before
      rw [DeliversPrefix, acceptedBytes, Call.accepted_of_quiet silent, List.append_nil,
        acceptedBytes_of_quiet before, accepted]
      exact pData.read_prefix (Nat.le_of_lt below)
  · refine iff_of_false nofun ?_
    rw [acceptedBytes_of_quiet quiet, accepted]
    intro complete
    have length := congrArg List.length complete
    simp only [Buffer.read_length] at length
    omega
  · refine iff_of_true rfl ⟨endpoint.call uSize total result, ?_, ?_⟩
    · obtain ⟨logs, same, -⟩ := quiet
      rw [same]
      exact List.mem_append_right logs List.mem_cons_self
    · exact (endpoint.call_failsToSend ..).mpr fails
  · refine quiet.each ⟨fun _ => progress.clean, progress.last⟩ ?_
    intro call earlier silent _ sends
    rw [silent] at sends
    cases sends
  · rw [countP_isSend_of_quiet quiet, List.countP_cons_of_pos (endpoint.call_isSend ..)]
    have counted := progress.counted
    omega

theorem Endpoint.run_delivers (fits : uSize ≤ intMax) {script : List SendAnswer}
    (traced : state.trace = calls ++ trace) (reached : state.total = total) (below : total < uSize)
    (progress : Progress pData uSize calls total)
    (admits : CallLoop.Admits (endpoint.sendTurn uSize) (SendPossible (endpoint.sendTurn uSize))
      state script) :
    ∃ made, sentTrace (CallLoop.run (endpoint.sendTurn uSize) state script) = made ++ trace ∧
      Delivers pData uSize made
        (returned (CallLoop.run (endpoint.sendTurn uSize) state script)) ∧
      (returned (CallLoop.run (endpoint.sendTurn uSize) state script) = none →
        total + script.length < uSize) := by
  induction script generalizing state calls total with
  | nil => exact ⟨calls, traced, progress.waiting below, fun _ => below⟩
  | cons answer rest ih =>
      obtain ⟨possible, later⟩ := admits
      have inside : Inside uSize state.total := ⟨fits, by omega, by omega⟩
      rcases Endpoint.possible_cases inside possible with ⟨some, within⟩ | ⟨fails, lower⟩
      · have moved : total + answer.result ≤ uSize := reached ▸ within
        have turned := endpoint.sendTurn_accepts fits reached some moved
        have stepped : Progress pData uSize (endpoint.call uSize total answer.result :: calls)
            (total + answer.result.toNat) := progress.step some moved
        have advanced : (total : Int) + answer.result = (total + answer.result.toNat : Nat) := by
          omega
        rw [traced, ← List.cons_append] at turned
        split at turned
        · next going =>
            simp only [turned] at later
            rw [CallLoop.run_cons_continue _ turned]
            obtain ⟨made, traced, delivers, waits⟩ := ih rfl advanced (by omega) stepped later
            refine ⟨made, traced, delivers, fun waiting => ?_⟩
            have grown := waits waiting
            rw [List.length_cons]
            omega
        · next stopped =>
            have whole : total + answer.result.toNat = uSize := by omega
            rw [whole] at stepped
            rw [CallLoop.run_cons_return _ turned]
            exact ⟨_, rfl, stepped.complete, nofun⟩
      · obtain ⟨failed, quiet, turned⟩ := endpoint.sendTurn_fails reached fails lower
        rw [CallLoop.run_cons_return _ turned]
        obtain ⟨logs, rfl, silent⟩ := quiet
        refine ⟨logs ++ endpoint.call uSize total answer.result :: calls, ?_, ?_, nofun⟩
        · simp [sentTrace, traced]
        · exact progress.failed below fails ⟨logs, rfl, silent⟩

end Loops

/-- Every `Send` delivers a prefix of its payload after every call, and reports exactly
whether it is the whole.  It has returned after as many calls as the payload has
bytes. -/
theorem send_delivers (endpoint : Endpoint) (ready : endpoint.Ready) {uSize : Nat}
    (positive : 0 < uSize) (fits : uSize ≤ intMax) (pData : Buffer UInt8)
    (script : List SendAnswer) (trace : Trace)
    (admits : CallLoop.Admits (endpoint.sendTurn uSize) (SendPossible (endpoint.sendTurn uSize))
      (.start trace) script) :
    ∃ calls, sentTrace (endpoint.send (some pData) uSize script trace) = calls ++ trace ∧
      Delivers pData uSize calls
        (returned (endpoint.send (some pData) uSize script trace)) ∧
      (returned (endpoint.send (some pData) uSize script trace) = none →
        script.length < uSize) := by
  have start : Progress pData uSize [] 0 :=
    { accepted := rfl
      prefixes := trivial
      clean := nofun
      last := trivial
      counted := Nat.le_refl 0 }
  rw [Endpoint.send_of_ready ready positive]
  obtain ⟨calls, traced, delivers, waits⟩ := Endpoint.run_delivers fits
    (show (SendState.start trace).trace = [] ++ trace from rfl)
    (show (SendState.start trace).total = (0 : Nat) from rfl) positive start admits
  refine ⟨calls, traced, delivers, fun waiting => ?_⟩
  have length := waits waiting
  omega

/-- A payload that is accepted in two pieces, on a plain and on a secure connection. -/
theorem send_delivers_two_pieces :
    let script := [SendAnswer.mk 3 0, .mk 1 0]
    let plain := Endpoint.plain (.client connectedClient)
    let secure := Endpoint.secure (.client connectedSSLClient)
    (∃ calls, sentTrace (plain.send (some fun _ => 7) 4 script []) = calls ++ [] ∧
      Delivers (fun _ => 7) 4 calls (some true)) ∧
    ∃ calls, sentTrace (secure.send (some fun _ => 7) 4 script []) = calls ++ [] ∧
      Delivers (fun _ => 7) 4 calls (some true) := by
  intro script plain secure
  have admits (endpoint : Endpoint) (state : SendState) (answer : SendAnswer)
      (possible : (endpoint.call 4 state.total answer.result).Possible) :
      SendPossible (endpoint.sendTurn 4) state answer :=
    (endpoint.sendPossible_iff 4 state answer).mpr possible
  have plainAdmits : CallLoop.Admits (plain.sendTurn 4) (SendPossible (plain.sendTurn 4))
      (.start []) script :=
    ⟨admits plain _ _ (.inl (by decide)), admits plain _ _ (.inl (by decide)), trivial⟩
  have secureAdmits : CallLoop.Admits (secure.sendTurn 4) (SendPossible (secure.sendTurn 4))
      (.start []) script :=
    ⟨admits secure _ _ (.inl (by decide)), admits secure _ _ (.inl (by decide)), trivial⟩
  obtain ⟨calls, traced, delivers, -⟩ := send_delivers plain rfl (by decide) (by decide)
    (fun _ => 7) script [] plainAdmits
  obtain ⟨secureCalls, secureTraced, secureDelivers, -⟩ := send_delivers secure rfl (by decide)
    (by decide) (fun _ => 7) script [] secureAdmits
  exact ⟨⟨calls, traced, delivers⟩, secureCalls, secureTraced, secureDelivers⟩

end SocketCpp
