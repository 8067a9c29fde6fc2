import SocketCpp.Transfer.Peer

namespace SocketCpp

open Data

/-! What a plain `Receive` reports about the bytes it took.

The accumulator is the number of bytes delivered less the number of calls that
failed: a failure goes into it as `-1`.  So the report is right exactly when no
call fails while the buffer is partly filled. -/

/-- The answers `recv` can give when asked for `length` bytes. -/
def RecvAnswer.Possible (length : Nat) : RecvAnswer → Prop
  | .data bytes => bytes ≠ [] ∧ bytes.length ≤ length
  | .status result _ => result = 0 ∨ result = -1

def delivered (answers : List RecvAnswer) : List UInt8 :=
  answers.flatMap RecvAnswer.bytes

def failures (answers : List RecvAnswer) : Nat :=
  answers.countP fun answer => answer.result < 0

/-- A call fails while the buffer holds `filled` bytes, more than none, and the
loop is still going. -/
def FailsPartWay (uSize : Nat) (bReadFully : Bool) : Nat → List RecvAnswer → Prop
  | _, [] => False
  | filled, .data bytes :: rest =>
      bReadFully ∧ filled + bytes.length < uSize ∧
        FailsPartWay uSize bReadFully (filled + bytes.length) rest
  | filled, .status result _ :: _ => result < 0 ∧ 0 < filled

@[simp] theorem delivered_nil : delivered [] = [] := rfl

@[simp] theorem delivered_cons (answer : RecvAnswer) (rest : List RecvAnswer) :
    delivered (answer :: rest) = answer.bytes ++ delivered rest := by
  simp [delivered]

@[simp] theorem delivered_append (first second : List RecvAnswer) :
    delivered (first ++ second) = delivered first ++ delivered second := by
  simp [delivered]

@[simp] theorem failures_nil : failures [] = 0 := rfl

theorem failures_cons (answer : RecvAnswer) (rest : List RecvAnswer) :
    failures (answer :: rest) = failures rest + if answer.result < 0 then 1 else 0 := by
  simp [failures, List.countP_cons]

@[simp] theorem failures_append (first second : List RecvAnswer) :
    failures (first ++ second) = failures first + failures second := by
  simp [failures]

theorem RecvAnswer.Possible.result_eq {length : Nat} {answer : RecvAnswer}
    (possible : answer.Possible length) :
    answer.result = answer.bytes.length - (if answer.result < 0 then 1 else 0 : Nat) ∧
      answer.bytes.length ≤ length := by
  cases answer with
  | data bytes =>
      have nonnegative : ¬ (bytes.length : Int) < 0 := by omega
      simp only [result, RecvAnswer.bytes, nonnegative, if_false]
      exact ⟨by omega, possible.2⟩
  | status result error =>
      rcases possible with rfl | rfl
      · simp [RecvAnswer.result, RecvAnswer.bytes]
      · simp [RecvAnswer.result, RecvAnswer.bytes]

section

variable {fd : Socket} {uSize : Nat} {bReadFully : Bool} {state : ReceiveState}
  {answer : RecvAnswer}

/-- The bounds within which every turn of a loop with a size an `int` can count
takes place. -/
structure Counting (uSize : Nat) (state : ReceiveState) : Prop where
  fits : uSize ≤ intMax
  lower : 0 ≤ state.total
  upper : state.total < uSize

theorem Counting.inside (counting : Counting uSize state) : Inside uSize state.total :=
  ⟨counting.fits, counting.lower, counting.upper⟩

theorem recvTurn_of_counting (fd : Socket) (bReadFully : Bool) (counting : Counting uSize state)
    (possible : answer.Possible (window uSize state.total)) :
    -1 ≤ state.total + answer.result ∧ state.total + answer.result ≤ uSize ∧
      recvTurn fd uSize bReadFully state answer =
        let trace : Trace :=
          .recv fd state.total (window uSize state.total) answer.result :: state.trace
        let pData := answer.store state.total state.pData
        let total := state.total + answer.result
        if answer.result = 0 then .inr { total := state.total, pData, trace, value := state.total }
        else if bReadFully ∧ 0 ≤ total ∧ total < uSize then .inl { total, pData, trace }
        else .inr { total, pData, trace, value := total } := by
  have lower := counting.lower
  have upper := counting.upper
  have fits := counting.fits
  have length := counting.inside.window_eq
  obtain ⟨moved, within⟩ := possible.result_eq
  have failed : (if answer.result < 0 then 1 else 0 : Nat) ≤ 1 := by split <;> omega
  have bounds : -1 ≤ state.total + answer.result ∧ state.total + answer.result ≤ uSize := by
    omega
  refine ⟨bounds.1, bounds.2, ?_⟩
  simp only [intMax] at fits
  have received : wrapInt answer.result = answer.result :=
    wrapInt_eq_self (by omega) (by simp only [intMax]; omega)
  have summed : wrapInt (state.total + answer.result) = state.total + answer.result :=
    wrapInt_eq_self (by omega) (by simp only [intMax]; omega)
  have compared : toSizeT (state.total + answer.result) < uSize ↔
      0 ≤ state.total + answer.result ∧ state.total + answer.result < uSize :=
    toSizeT_lt_small_iff (by omega) (by simp only [intMax]; omega) (by simp only [intMax]; omega)
  simp only [recvTurn, Call.store, received, summed, compared]

/-- What holds in front of every `recv`, given the answers taken before it. -/
structure Accounted (uSize : Nat) (taken : List RecvAnswer) (state : ReceiveState) : Prop where
  counting : Counting uSize state
  total : state.total = (delivered taken).length - failures taken
  stored : ∃ buffer, state.pData = some buffer ∧
    (failures taken = 0 → buffer.read 0 (delivered taken).length = delivered taken)

structure Reported (taken : List RecvAnswer) (result : Received) : Prop where
  value : result.value = (delivered taken).length - failures taken
  stored : ∃ buffer, result.pData = some buffer ∧
    (failures taken = 0 → buffer.read 0 (delivered taken).length = delivered taken)

/-- The data of a turn goes right behind what the buffer holds, unless an
earlier call has failed. -/
theorem Accounted.store {taken : List RecvAnswer} (accounted : Accounted uSize taken state)
    (answer : RecvAnswer) :
    ∃ buffer, answer.store state.total state.pData = some buffer ∧
      (failures (taken ++ [answer]) = 0 →
        buffer.read 0 (delivered (taken ++ [answer])).length = delivered (taken ++ [answer])) := by
  obtain ⟨buffer, isBuffer, filled⟩ := accounted.stored
  refine ⟨buffer.write state.total answer.bytes, by simp [RecvAnswer.store, isBuffer], ?_⟩
  intro clean
  have before : failures taken = 0 := by
    rw [failures_append] at clean
    omega
  have offset : state.total = ((delivered taken).length : Nat) := by
    have total := accounted.total
    omega
  simp only [delivered_append, delivered_cons, delivered_nil, List.append_nil,
    List.length_append]
  rw [offset, Buffer.read_write_append, filled before]

theorem Accounted.total_append {taken : List RecvAnswer} (accounted : Accounted uSize taken state)
    (possible : answer.Possible (window uSize state.total)) :
    state.total + answer.result =
      (delivered (taken ++ [answer])).length - failures (taken ++ [answer]) := by
  have total := accounted.total
  have moved := possible.result_eq.1
  simp only [delivered_append, delivered_cons, delivered_nil, List.append_nil, failures_append,
    failures_cons, failures_nil, List.length_append]
  omega

theorem Accounted.turn {taken : List RecvAnswer} {next : ReceiveState}
    (accounted : Accounted uSize taken state)
    (possible : answer.Possible (window uSize state.total))
    (turned : recvTurn fd uSize bReadFully state answer = .inl next) :
    Accounted uSize (taken ++ [answer]) next := by
  have computed := (recvTurn_of_counting fd bReadFully accounted.counting possible).2.2
  rw [turned] at computed
  simp only at computed
  split_ifs at computed with silent going
  · cases computed
    exact {
      counting := ⟨accounted.counting.fits, going.2.1, going.2.2⟩
      total := accounted.total_append possible
      stored := accounted.store answer }

theorem Accounted.returned {taken : List RecvAnswer} {result : Received}
    (accounted : Accounted uSize taken state)
    (possible : answer.Possible (window uSize state.total))
    (turned : recvTurn fd uSize bReadFully state answer = .inr result) :
    Reported (taken ++ [answer]) result := by
  have computed := (recvTurn_of_counting fd bReadFully accounted.counting possible).2.2
  have total := accounted.total_append possible
  rw [turned] at computed
  simp only at computed
  split_ifs at computed with silent going
  · cases computed
    rw [silent, Int.add_zero] at total
    exact { value := total, stored := accounted.store answer }
  · cases computed
    exact { value := total, stored := accounted.store answer }

theorem recvTurn_data (fd : Socket) (bReadFully : Bool) {filled : Nat} {bytes : List UInt8}
    (counting : Counting uSize state) (total : state.total = filled)
    (possible : (RecvAnswer.data bytes).Possible (window uSize state.total)) :
    (bReadFully ∧ filled + bytes.length < uSize ∧
      ∃ next, recvTurn fd uSize bReadFully state (.data bytes) = .inl next ∧
        next.total = (filled + bytes.length : Nat)) ∨
    (¬ (bReadFully ∧ filled + bytes.length < uSize) ∧
      ∃ result, recvTurn fd uSize bReadFully state (.data bytes) = .inr result) := by
  obtain ⟨lower, upper, computed⟩ := recvTurn_of_counting fd bReadFully counting possible
  have some : 0 < bytes.length := List.length_pos_iff.mpr possible.1
  have silent : ¬ (RecvAnswer.data bytes).result = 0 := by
    simp only [RecvAnswer.result]
    omega
  have advanced : state.total + (RecvAnswer.data bytes).result =
      (filled + bytes.length : Nat) := by
    simp only [RecvAnswer.result, total]
    omega
  simp only [silent, if_false, advanced] at computed
  by_cases going : bReadFully ∧ filled + bytes.length < uSize
  · have inside : bReadFully ∧ (0 : Int) ≤ (filled + bytes.length : Nat) ∧
        ((filled + bytes.length : Nat) : Int) < uSize := ⟨going.1, by omega, by omega⟩
    rw [if_pos inside] at computed
    exact .inl ⟨going.1, going.2, _, computed, rfl⟩
  · have outside : ¬ (bReadFully ∧ (0 : Int) ≤ (filled + bytes.length : Nat) ∧
        ((filled + bytes.length : Nat) : Int) < uSize) := by
      rintro ⟨fully, _, below⟩
      exact going ⟨fully, by omega⟩
    rw [if_neg outside] at computed
    exact .inr ⟨going, _, computed⟩

/-- Which scripts make a loop meet a failure with a partly filled buffer: read
off the answers it really took. -/
theorem failsPartWay_iff {filled : Nat} {script : List RecvAnswer} {result : Received}
    (counting : Counting uSize state) (total : state.total = filled)
    (admits : CallLoop.Admits (recvTurn fd uSize bReadFully)
      (fun state answer => answer.Possible (window uSize state.total)) state script)
    (returned : CallLoop.run (recvTurn fd uSize bReadFully) state script = .inr result) :
    FailsPartWay uSize bReadFully filled script ↔
      0 < failures (CallLoop.consumed (recvTurn fd uSize bReadFully) state script) ∧
        0 < filled +
          (delivered (CallLoop.consumed (recvTurn fd uSize bReadFully) state script)).length := by
  induction script generalizing state filled with
  | nil => simp [CallLoop.run] at returned
  | cons answer rest ih =>
      obtain ⟨possible, later⟩ := admits
      cases answer with
      | data bytes =>
          have succeeded : ¬ (RecvAnswer.data bytes).result < 0 := by
            simp only [RecvAnswer.result]
            omega
          rcases recvTurn_data fd bReadFully counting total possible with
            ⟨fully, room, next, turned, advanced⟩ | ⟨stopped, ended, turned⟩
          · simp only [turned] at later
            rw [CallLoop.run_cons_continue _ turned] at returned
            have continued := ih ⟨counting.fits, by omega, by omega⟩ advanced later returned
            simp only [CallLoop.consumed, turned, delivered_cons, failures_cons, succeeded,
              if_false, List.length_append, RecvAnswer.bytes, Nat.add_zero]
            rw [FailsPartWay, continued, ← Nat.add_assoc]
            exact ⟨fun meets => meets.2.2, fun meets => ⟨fully, room, meets⟩⟩
          · simp only [CallLoop.consumed, turned, failures_cons, failures_nil, succeeded, if_false,
              Nat.add_zero, Nat.lt_irrefl, false_and, iff_false]
            exact fun meets => stopped ⟨meets.1, meets.2.1⟩
      | status code error =>
          rcases possible with rfl | rfl
          · have ended : recvTurn fd uSize bReadFully state (.status 0 error) = .inr _ := rfl
            simp [CallLoop.consumed, ended, FailsPartWay, failures_cons, RecvAnswer.result]
          · by_cases empty : filled = 0
            · have computed := (recvTurn_of_counting fd bReadFully counting
                (show (RecvAnswer.status (-1) error).Possible _ from .inr rfl)).2.2
              have outside :
                  ¬ (bReadFully ∧ 0 ≤ state.total + -1 ∧ state.total + -1 < uSize) := by omega
              simp only [RecvAnswer.result, outside, if_false] at computed
              simp [CallLoop.consumed, computed, FailsPartWay, empty, RecvAnswer.bytes]
            · have some : 0 < filled := Nat.pos_of_ne_zero empty
              have negative : (RecvAnswer.status (-1) error).result < 0 := by
                simp [RecvAnswer.result]
              refine iff_of_true ⟨negative, some⟩ ⟨?_, Nat.add_pos_left some _⟩
              simp only [CallLoop.consumed, failures_cons, negative, if_true]
              exact Nat.succ_pos _

theorem accounted_start (positive : 0 < uSize) (fits : uSize ≤ intMax) (pData : Buffer UInt8)
    (trace : Trace) : Accounted uSize [] (.start (some pData) trace) where
  counting := ⟨fits, Int.le_refl 0, Int.ofNat_lt.mpr positive⟩
  total := rfl
  stored := ⟨pData, rfl, fun _ => rfl⟩

/-- While the loop waits its state is accounted for by the answers taken, and what it
returns reports them. -/
theorem accounted_run {script : List RecvAnswer} (start : Accounted uSize [] state)
    (admits : CallLoop.Admits (recvTurn fd uSize bReadFully)
      (fun state answer => answer.Possible (window uSize state.total)) state script) :
    (∀ next, CallLoop.run (recvTurn fd uSize bReadFully) state script = .inl next →
      Accounted uSize script next) ∧
    (∀ result, CallLoop.run (recvTurn fd uSize bReadFully) state script = .inr result →
      Reported (CallLoop.consumed (recvTurn fd uSize bReadFully) state script) result) := by
  have turns : ∀ taken state answer next, Accounted uSize taken state →
      RecvAnswer.Possible (window uSize state.total) answer →
      recvTurn fd uSize bReadFully state answer = .inl next →
      Accounted uSize (taken ++ [answer]) next :=
    fun _ _ _ _ accounted possible turned => accounted.turn possible turned
  have returns : ∀ taken state answer result, Accounted uSize taken state →
      RecvAnswer.Possible (window uSize state.total) answer →
      recvTurn fd uSize bReadFully state answer = .inr result →
      Reported (taken ++ [answer]) result :=
    fun _ _ _ _ accounted possible turned => accounted.returned possible turned
  exact CallLoop.run_rule turns returns start admits

end

/-- The report of a plain `Receive` accounts for every byte it took exactly when
no call fails while its buffer is partly filled. -/
theorem receive_accounts_iff (peer : PlainPeer) (ready : peer.Ready) {uSize : Nat}
    (positive : 0 < uSize) (fits : uSize ≤ intMax) {bReadFully : Bool} {pData : Buffer UInt8}
    {trace : Trace} {script taken : List RecvAnswer} {result : Received}
    (admits : CallLoop.Admits (peer.recvTurn uSize bReadFully)
      (fun state answer => answer.Possible (window uSize state.total))
      (.start (some pData) trace) script)
    (returned : peer.receive (some pData) uSize bReadFully script trace = .inr result)
    (calls : taken = CallLoop.consumed (peer.recvTurn uSize bReadFully)
      (.start (some pData) trace) script) :
    (delivered taken ≠ [] →
      result.value = (delivered taken).length ∧
        ∃ buffer, result.pData = some buffer ∧
          buffer.read 0 (delivered taken).length = delivered taken) ↔
      ¬ FailsPartWay uSize bReadFully 0 script := by
  rw [PlainPeer.receive_of_ready ready positive] at returned
  have start := accounted_start positive fits pData trace
  have reported := (accounted_run start admits).2 result returned
  have meets := failsPartWay_iff start.counting (show (0 : Int) = (0 : Nat) from rfl) admits returned
  rw [PlainPeer.recvTurn] at calls
  rw [← calls] at reported meets
  rw [meets]
  constructor
  · rintro accounts ⟨failed, some⟩
    have value := reported.value
    have nonempty : delivered taken ≠ [] := List.length_pos_iff.mp (by omega)
    have exact := (accounts nonempty).1
    omega
  · intro clean nonempty
    have some : 0 < (delivered taken).length := List.length_pos_iff.mpr nonempty
    have none : failures taken = 0 := by omega
    obtain ⟨buffer, isBuffer, filled⟩ := reported.stored
    have value := reported.value
    exact ⟨by omega, buffer, isBuffer, filled none⟩

def connectedClient : CTCPClient :=
  { CTCPClient.new .noFlags with eStatus := .connected, connectSocket := 3 }

/-- A timeout between two chunks: the second chunk overwrites the last byte of
the first, and five delivered bytes are reported as four. -/
theorem receive_timeout_loses_byte :
    let step := PlainPeer.recvTurn (.client connectedClient) 4 true
    let script := [RecvAnswer.data [1, 2], .status (-1) 11, .data [3, 4, 5]]
    let state := ReceiveState.start (some fun _ => 0) []
    CallLoop.Admits step (fun state answer => answer.Possible (window 4 state.total)) state
        script ∧
      delivered (CallLoop.consumed step state script) = [1, 2, 3, 4, 5] ∧
      ∃ result, connectedClient.receive (some fun _ => 0) 4 true script [] = .inr result ∧
        result.value = 4 ∧
        ∃ buffer, result.pData = some buffer ∧ buffer.read 0 4 = [1, 3, 4, 5] := by
  intro step script state
  have admits : CallLoop.Admits step (fun state answer => answer.Possible (window 4 state.total))
      state script :=
    ⟨⟨by decide, by decide⟩, .inr rfl, ⟨by decide, by decide⟩, trivial⟩
  exact ⟨admits, rfl, _, rfl, rfl, _, rfl, rfl⟩

theorem receive_accounts_iff_chunks :
    ∃ result, connectedClient.receive (some fun _ => 0) 4 true
        [.data [1, 2], .data [3, 4]] [] = .inr result ∧
      ((([1, 2, 3, 4] : List UInt8) ≠ [] → result.value = 4 ∧
        ∃ buffer, result.pData = some buffer ∧ buffer.read 0 4 = [1, 2, 3, 4]) ↔
        ¬ FailsPartWay 4 true 0 [.data [1, 2], .data [3, 4]]) := by
  have admits : CallLoop.Admits (PlainPeer.recvTurn (.client connectedClient) 4 true)
      (fun state answer => answer.Possible (window 4 state.total))
      (.start (some fun _ => 0) []) [.data [1, 2], .data [3, 4]] :=
    ⟨⟨by decide, by decide⟩, ⟨by decide, by decide⟩, trivial⟩
  exact ⟨_, rfl, receive_accounts_iff (.client connectedClient) rfl (by decide) (by decide)
    admits rfl rfl⟩

end SocketCpp
