import SocketCpp.Transfer.Ending

namespace SocketCpp

open Data

/-! What a secure `Receive` reports about the bytes it took.

Nothing is added to the total for a call that fails, so here the total is the number
of bytes delivered in front of every call, and the buffer holds just them. -/

/-- The answers `SSL_read` can give to the call made in `state`. -/
def CanRead (uSize : Nat) (state : ReceiveState) : RecvAnswer → Prop
  | .data bytes => bytes ≠ [] ∧ bytes.length ≤ wrapInt (window uSize state.total)
  | .status result _ => -2147483648 ≤ result ∧ result ≤ 0

/-- What the reads in a trace returned, oldest first. -/
def readResults (trace : Trace) : List Int :=
  (trace.filterMap Call.readResult).reverse

/-- `calls` continues `trace`, with the reads that gave the answers taken. -/
def ReadsAfter (trace : Trace) (taken : List RecvAnswer) (calls : Trace) : Prop :=
  ∃ added, calls = added ++ trace ∧ readResults added = taken.map RecvAnswer.result

def receivedData : ReceiveState ⊕ Received → Option (Buffer UInt8) :=
  Sum.elim ReceiveState.pData fun result => result.pData

/-- `outcome` accounts for the answers taken, in memory and in its report. -/
structure ReadsAccounted (uSize : Nat) (bReadFully : Bool) (pData : Buffer UInt8) (trace : Trace)
    (taken : List RecvAnswer) (outcome : ReceiveState ⊕ Received) : Prop where
  calls : ReadsAfter trace taken (receivedTrace outcome)
  lastFails : ∀ answer ∈ taken.dropLast, 0 < answer.result
  atMost : taken.length ≤ uSize
  stored : ∃ buffer, receivedData outcome = some buffer ∧
    buffer.read 0 (delivered taken).length = delivered taken ∧
    ∀ index : Int, index < 0 ∨ (delivered taken).length ≤ index → buffer index = pData index
  value : ∀ result, outcome = .inr result → result.value = (delivered taken).length
  short : bReadFully → ∀ result, outcome = .inr result → result.value < uSize →
    ∃ answer ∈ taken, answer.result ≤ 0
  returns : ∀ state, outcome = .inl state → taken.length < uSize

section

variable {uSize : Nat} {bReadFully : Bool} {pData : Buffer UInt8} {trace : Trace}
  {taken : List RecvAnswer} {state : ReceiveState} {answer : RecvAnswer}

/-- What holds in front of every `SSL_read`, given the answers taken before it. -/
structure Filling (uSize : Nat) (pData : Buffer UInt8) (trace : Trace) (taken : List RecvAnswer)
    (state : ReceiveState) : Prop where
  fits : uSize ≤ intMax
  total : state.total = (delivered taken).length
  below : (delivered taken).length < uSize
  stored : state.pData = some (pData.write 0 (delivered taken))
  calls : ReadsAfter trace taken state.trace
  clean : ∀ answer ∈ taken, answer.bytes ≠ []

theorem length_le_delivered (clean : ∀ answer ∈ taken, answer.bytes ≠ []) :
    taken.length ≤ (delivered taken).length := by
  induction taken with
  | nil => exact Nat.le_refl 0
  | cons answer rest ih =>
      obtain ⟨first, later⟩ := List.forall_mem_cons.mp clean
      have some : 0 < answer.bytes.length := List.length_pos_iff.mpr first
      have counted := ih later
      simp only [delivered_cons, List.length_cons, List.length_append]
      omega

theorem RecvAnswer.result_pos (some : answer.bytes ≠ []) : 0 < answer.result := by
  cases answer with
  | data bytes => exact Int.natCast_pos.mpr (List.length_pos_iff.mpr some)
  | status result error => exact absurd rfl some

theorem written (pData : Buffer UInt8) (bytes : List UInt8) :
    (pData.write 0 bytes).read 0 bytes.length = bytes ∧
      ∀ index : Int, index < 0 ∨ bytes.length ≤ index → pData.write 0 bytes index = pData index := by
  refine ⟨Buffer.read_write_self pData 0 bytes, ?_⟩
  intro index outside
  rw [← Int.zero_add (bytes.length : Int)] at outside
  exact Buffer.write_outside pData outside

/-- An answer either delivers bytes that there is room for, or fails. -/
theorem Filling.cases (filling : Filling uSize pData trace taken state)
    (possible : CanRead uSize state answer) :
    (answer.bytes ≠ [] ∧ wrapInt answer.result = answer.bytes.length ∧
      (delivered taken).length + answer.bytes.length ≤ uSize) ∨
    (answer.bytes = [] ∧ answer.result ≤ 0 ∧ wrapInt answer.result ≤ 0) := by
  have fits := filling.fits
  have below := filling.below
  have total := filling.total
  have inside : Inside uSize state.total := ⟨fits, by omega, by omega⟩
  have asked : wrapInt (window uSize state.total) = uSize - state.total := by
    rw [inside.window_eq]
    exact wrapInt_eq_self (by omega) (by omega)
  cases answer with
  | data bytes =>
      obtain ⟨some, within⟩ := possible
      simp only [RecvAnswer.bytes, RecvAnswer.result]
      exact .inl ⟨some, wrapInt_eq_self (by omega) (by omega), by omega⟩
  | status result error =>
      obtain ⟨lower, upper⟩ := possible
      have same : wrapInt result = result := wrapInt_eq_self lower (by omega)
      refine .inr ⟨rfl, upper, ?_⟩
      rw [RecvAnswer.result, same]
      exact upper

/-- The call of a turn is the next one in the trace. -/
theorem Filling.calls_append (filling : Filling uSize pData trace taken state)
    {pSSL : Option Nat} {after : Trace}
    (extended : Extends Call.Quiet (.sslRead pSSL state.total (wrapInt (window uSize state.total))
      answer.result :: state.trace) after) :
    ReadsAfter trace (taken ++ [answer]) after := by
  obtain ⟨added, same, results⟩ := filling.calls
  obtain ⟨later, rfl, silent⟩ := extended
  refine ⟨later ++ .sslRead pSSL state.total (wrapInt (window uSize state.total)) answer.result ::
    added, by simp [same], ?_⟩
  have none : later.filterMap Call.readResult = [] :=
    List.filterMap_eq_nil_iff.mpr fun call member => (silent call member).readResult_eq
  rw [readResults] at results ⊢
  rw [List.filterMap_append, none, List.nil_append, List.filterMap_cons]
  simp only [Call.readResult, List.reverse_cons, results, List.map_append, List.map_cons,
    List.map_nil]

theorem Filling.store (filling : Filling uSize pData trace taken state) (answer : RecvAnswer) :
    answer.store state.total state.pData =
      some (pData.write 0 (delivered (taken ++ [answer]))) := by
  have placed := Buffer.write_append pData 0 (delivered taken) answer.bytes
  rw [Int.zero_add] at placed
  simp only [RecvAnswer.store, filling.stored, filling.total, Option.map_some, placed,
    delivered_append, delivered_cons, delivered_nil, List.append_nil]

theorem Filling.clean_append (filling : Filling uSize pData trace taken state)
    (some : answer.bytes ≠ []) : ∀ other ∈ taken ++ [answer], other.bytes ≠ [] := by
  rw [List.forall_mem_append]
  exact ⟨filling.clean, by simpa using some⟩

theorem Filling.accounted (filling : Filling uSize pData trace taken state) :
    ReadsAccounted uSize bReadFully pData trace taken (.inl state) where
  calls := filling.calls
  lastFails := fun other member =>
    RecvAnswer.result_pos (filling.clean other (List.mem_of_mem_dropLast member))
  atMost := Nat.le_trans (length_le_delivered filling.clean) (Nat.le_of_lt filling.below)
  stored := ⟨_, filling.stored, written pData _⟩
  value := by simp
  short := by simp
  returns := fun _ _ => Nat.lt_of_le_of_lt (length_le_delivered filling.clean) filling.below

variable {peer : SecurePeer}

/-- One turn: the bytes go behind what the buffer holds, or the call has failed. -/
theorem Filling.recvTurn_cases (filling : Filling uSize pData trace taken state)
    (possible : CanRead uSize state answer) :
    let stored := some (pData.write 0 (delivered (taken ++ [answer])))
    (answer.bytes ≠ [] ∧
      ∃ calls, ReadsAfter trace (taken ++ [answer]) calls ∧
        peer.recvTurn uSize bReadFully state answer =
          let total : Int := (delivered (taken ++ [answer])).length
          if bReadFully ∧ (delivered (taken ++ [answer])).length < uSize then
            .inl { total, pData := stored, trace := calls }
          else .inr { total, pData := stored, trace := calls, value := total }) ∨
    (answer.result ≤ 0 ∧ state.total = (delivered (taken ++ [answer])).length ∧
      ∃ calls, ReadsAfter trace (taken ++ [answer]) calls ∧
        peer.recvTurn uSize bReadFully state answer =
          .inr { total := state.total, pData := stored, trace := calls, value := state.total }) := by
  obtain ⟨failed, logged, computed⟩ := peer.recvTurn_eq uSize bReadFully state answer
  have total := filling.total
  have grown : (delivered (taken ++ [answer])).length =
      (delivered taken).length + answer.bytes.length := by simp
  rw [filling.store] at computed
  rcases filling.cases possible with ⟨some, received, room⟩ | ⟨none, fails, refused⟩
  · obtain ⟨-, summed, compared⟩ := counts_nat_within filling.fits room
    have positive : ¬ (answer.bytes.length : Int) ≤ 0 := by
      have positive := List.length_pos_iff.mpr some
      omega
    simp only [received, positive, if_false, total, summed, compared] at computed
    rw [← grown] at computed
    refine .inl ⟨some, _, ?_, computed⟩
    rw [← total]
    exact filling.calls_append (Extends.refl _ _)
  · rw [none, List.length_nil] at grown
    simp only [refused, if_true] at computed
    exact .inr ⟨fails, by omega, failed, filling.calls_append logged, computed⟩

theorem Filling.turn {next : ReceiveState} (filling : Filling uSize pData trace taken state)
    (possible : CanRead uSize state answer)
    (turned : peer.recvTurn uSize bReadFully state answer = .inl next) :
    Filling uSize pData trace (taken ++ [answer]) next := by
  rcases filling.recvTurn_cases possible with
    ⟨some, after, calls, computed⟩ | ⟨-, -, after, -, computed⟩
  · rw [turned] at computed
    simp only at computed
    split_ifs at computed with going
    cases computed
    exact {
      fits := filling.fits
      total := rfl
      below := going.2
      stored := rfl
      calls
      clean := filling.clean_append some }
  · rw [turned] at computed
    cases computed

theorem Filling.returned {result : Received} (filling : Filling uSize pData trace taken state)
    (possible : CanRead uSize state answer)
    (turned : peer.recvTurn uSize bReadFully state answer = .inr result) :
    ReadsAccounted uSize bReadFully pData trace (taken ++ [answer]) (.inr result) := by
  have before : ∀ other ∈ (taken ++ [answer]).dropLast, 0 < other.result := by
    rw [List.dropLast_concat]
    exact fun other member => RecvAnswer.result_pos (filling.clean other member)
  have counted := length_le_delivered filling.clean
  have below := filling.below
  have atMost : (taken ++ [answer]).length ≤ uSize := by
    rw [List.length_append, List.length_singleton]
    omega
  rcases filling.recvTurn_cases possible with
    ⟨-, after, calls, computed⟩ | ⟨fails, total, after, calls, computed⟩
  · rw [turned] at computed
    simp only at computed
    split_ifs at computed with going
    cases computed
    exact {
      calls
      lastFails := before
      atMost
      stored := ⟨_, rfl, written pData _⟩
      value := by
        intro result same
        cases same
        rfl
      short := by
        intro fully result same less
        cases same
        exact absurd ⟨fully, Int.ofNat_lt.mp less⟩ going
      returns := by simp }
  · rw [turned] at computed
    cases computed
    exact {
      calls
      lastFails := before
      atMost
      stored := ⟨_, rfl, written pData _⟩
      value := by
        intro result same
        cases same
        exact total
      short := fun _ _ _ _ => ⟨answer, by simp, fails⟩
      returns := by simp }

end

/-- Whatever the reads of a secure `Receive` return, it accounts for every byte. -/
theorem receive_reads_accounted (peer : SecurePeer) (ready : peer.Ready) {uSize : Nat}
    (positive : 0 < uSize) (fits : uSize ≤ intMax) (bReadFully : Bool) (pData : Buffer UInt8)
    (trace : Trace) {script : List RecvAnswer}
    (possible : CallLoop.Admits (peer.recvTurn uSize bReadFully) (CanRead uSize)
      (.start (some pData) trace) script) :
    ReadsAccounted uSize bReadFully pData trace
      (CallLoop.consumed (peer.recvTurn uSize bReadFully) (.start (some pData) trace) script)
      (peer.receive (some pData) uSize bReadFully script trace) := by
  rw [SecurePeer.receive_of_ready ready]
  have start : Filling uSize pData trace [] (.start (some pData) trace) := {
    fits
    total := rfl
    below := positive
    stored := by rw [delivered_nil, Buffer.write_nil]; rfl
    calls := ⟨[], rfl, rfl⟩
    clean := by simp }
  have turns : ∀ taken state answer next, Filling uSize pData trace taken state →
      CanRead uSize state answer → peer.recvTurn uSize bReadFully state answer = .inl next →
      Filling uSize pData trace (taken ++ [answer]) next :=
    fun _ _ _ _ filling possible turned => filling.turn possible turned
  have returns : ∀ taken state answer result, Filling uSize pData trace taken state →
      CanRead uSize state answer → peer.recvTurn uSize bReadFully state answer = .inr result →
      ReadsAccounted uSize bReadFully pData trace (taken ++ [answer]) (.inr result) :=
    fun _ _ _ _ filling possible turned => filling.returned possible turned
  let post (taken : List RecvAnswer) (result : Received) :=
    ReadsAccounted uSize bReadFully pData trace taken (.inr result)
  obtain ⟨waits, ends⟩ :=
    @CallLoop.run_rule _ _ _ _ _ _ post turns returns _ _ _ start possible
  cases ran : CallLoop.run (peer.recvTurn uSize bReadFully) (.start (some pData) trace) script with
  | inl next =>
      rw [CallLoop.consumed_of_waiting ran]
      exact (waits next ran).accounted
  | inr result => exact ends result ran

theorem receive_reads_accounted_timeout :
    let script := [RecvAnswer.data [1, 2], .status (-1) 2, .data [3]]
    let step := connectedSSLClient.recvTurn 4 true
    let start := ReceiveState.start (some fun _ => 0) []
    CallLoop.Admits step (CanRead 4) start script ∧
      ReadsAccounted 4 true (fun _ => 0) [] (CallLoop.consumed step start script)
        (connectedSSLClient.receive (some fun _ => 0) 4 true script []) := by
  intro script step start
  have possible : CallLoop.Admits step (CanRead 4) start script :=
    ⟨⟨by decide, by decide⟩, ⟨by decide, by decide⟩, trivial⟩
  exact ⟨possible, receive_reads_accounted (.client connectedSSLClient) rfl (by decide) (by decide)
    true (fun _ => 0) [] possible⟩

end SocketCpp
