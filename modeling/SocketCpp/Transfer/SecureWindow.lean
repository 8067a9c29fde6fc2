import SocketCpp.Transfer.Bounds
import SocketCpp.Transfer.Ending

namespace SocketCpp

open Data

/-! The lengths that the secure classes give to OpenSSL.

What is left of the buffer is a `size_t`, and the length parameter of `SSL_write` and
`SSL_read` is an `int`: only the low 32 bits of the size arrive, as a signed number. -/

def lowWord (uSize : Nat) : Nat :=
  uSize % 4294967296

/-- A call to OpenSSL is given at least one byte of the buffer, and at most what is left
of it. -/
def Call.Windowed (uSize : Nat) : Call → Prop
  | .sslWrite _ offset length _ | .sslRead _ offset length _ => InWindow uSize offset length
  | _ => True

/-- The bytes moved before the first call that fails. -/
def exchanged : List Int → Int
  | [] => 0
  | result :: rest => if 0 < result then result + exchanged rest else 0

/-- When all lengths are right: the low word of the size is a positive `int`, and it is all of
the size, or the transfer ends with one call, or less than it has been moved. -/
def LengthsFit (uSize : Nat) (once : Bool) (results : List Int) : Prop :=
  1 ≤ lowWord uSize ∧ lowWord uSize ≤ intMax ∧
    (uSize ≤ intMax ∨ once ∨ exchanged results < lowWord uSize)

theorem length_eq {uSize : Nat} {total : Int} (fits : uSize ≤ sizeMax)
    (small : lowWord uSize ≤ intMax) (lower : 0 ≤ total) (upper : total ≤ lowWord uSize) :
    wrapInt (window uSize total) = lowWord uSize - total := by
  have split := Nat.div_add_mod uSize 4294967296
  unfold lowWord intMax at *
  rw [window_within lower (by omega) fits]
  unfold wrapInt
  split <;> omega

theorem inWindow_iff {uSize : Nat} {total : Int} (fits : uSize ≤ sizeMax)
    (small : lowWord uSize ≤ intMax) (lower : 0 ≤ total) (upper : total ≤ lowWord uSize) :
    InWindow uSize total (wrapInt (window uSize total)) ↔ total < lowWord uSize := by
  have within : lowWord uSize ≤ uSize := Nat.mod_le uSize 4294967296
  rw [length_eq fits small lower upper]
  constructor
  · intro inside
    have some := inside.some
    omega
  · intro less
    exact ⟨lower, by omega, by omega, by omega⟩

theorem inWindow_first_iff {uSize : Nat} (fits : uSize ≤ sizeMax) :
    InWindow uSize 0 (wrapInt (window uSize 0)) ↔
      1 ≤ lowWord uSize ∧ lowWord uSize ≤ intMax := by
  by_cases small : lowWord uSize ≤ intMax
  · rw [inWindow_iff fits small (Int.le_refl 0) (Int.natCast_nonneg _)]
    omega
  · refine iff_of_false ?_ (fun both => small both.2)
    intro inside
    have some := inside.some
    have length := window_within (Int.le_refl 0) (Int.natCast_nonneg uSize) fits
    have split := Nat.div_add_mod uSize 4294967296
    unfold lowWord intMax at small
    rw [length] at some
    unfold wrapInt at some
    split at some <;> omega

theorem Call.Quiet.windowed {call : Call} (quiet : call.Quiet) (uSize : Nat) :
    call.Windowed uSize := by
  cases call <;> trivial

theorem exchanged_nonneg (results : List Int) : 0 ≤ exchanged results := by
  induction results with
  | nil => exact Int.le_refl 0
  | cons result rest ih =>
      rw [exchanged]
      split <;> omega

/-- A loop over an `int` total that makes one call to OpenSSL in every turn. -/
structure SecureLoop (σ ω ρ : Type) where
  step : σ → ω → σ ⊕ ρ
  total : σ → Int
  calls : σ → Trace
  final : ρ → Trace
  result : ω → Int

namespace SecureLoop

variable {σ ω ρ : Type} (loop : SecureLoop σ ω ρ)

def called : σ ⊕ ρ → Trace :=
  Sum.elim loop.calls loop.final

/-- The answer is one that the call made in `state` can get. -/
def Possible (state : σ) (answer : ω) : Prop :=
  ∀ call ∈ CallLoop.calls loop.calls loop.final loop.step state answer, call.Possible

/-- All calls have a window, the one that the loop is waiting in included. -/
def Windowed (uSize : Nat) (before : Trace) (standing : σ ⊕ ρ) : Prop :=
  CallLoop.Every loop.calls loop.final (Call.Windowed uSize) loop.step before standing

/-- Every turn asks for the rest of `uSize` bytes.  A call that fails ends the loop, and
the others do when `again` is not set or the bytes are complete. -/
structure Asks (uSize : Nat) (again : Bool) : Prop where
  called : ∀ state answer, ∃ call : Call,
    (call.Windowed uSize ↔
      InWindow uSize (loop.total state) (wrapInt (window uSize (loop.total state)))) ∧
    Extends Call.Quiet (call :: loop.calls state) (loop.called (loop.step state answer))
  possible : ∀ state answer, loop.Possible state answer →
    (1 ≤ loop.result answer ∧ loop.result answer ≤ wrapInt (window uSize (loop.total state))) ∨
      (-2147483648 ≤ loop.result answer ∧ loop.result answer ≤ 0)
  fails : ∀ state answer, wrapInt (loop.result answer) ≤ 0 →
    ∃ final, loop.step state answer = .inr final
  goes : ∀ state answer, 0 < wrapInt (loop.result answer) → again = true →
    toSizeT (wrapInt (loop.total state + wrapInt (loop.result answer))) < uSize →
    ∃ next, loop.step state answer = .inl next ∧
      loop.total next = wrapInt (loop.total state + wrapInt (loop.result answer))
  stops : ∀ state answer, 0 < wrapInt (loop.result answer) →
    ¬ (again = true ∧
      toSizeT (wrapInt (loop.total state + wrapInt (loop.result answer))) < uSize) →
    ∃ final, loop.step state answer = .inr final

variable {loop} {uSize : Nat} {again : Bool} {state : σ} {answer : ω} {rest : List ω}

theorem Asks.grows (asks : loop.Asks uSize again) (state : σ) (answer : ω) :
    Extends (fun _ => True) (loop.calls state) (loop.called (loop.step state answer)) := by
  obtain ⟨call, -, quiet⟩ := asks.called state answer
  exact (Extends.cons_iff.mpr trivial).trans (quiet.mono fun _ _ => trivial)

/-- All calls of a turn have a window exactly when the one to OpenSSL has. -/
theorem Asks.windowed_iff (asks : loop.Asks uSize again) (state : σ) (answer : ω) :
    Extends (Call.Windowed uSize) (loop.calls state) (loop.called (loop.step state answer)) ↔
      InWindow uSize (loop.total state) (wrapInt (window uSize (loop.total state))) := by
  obtain ⟨call, windowed, quiet⟩ := asks.called state answer
  have first : Extends (fun _ => True) (loop.calls state) (call :: loop.calls state) :=
    Extends.cons_iff.mpr trivial
  rw [first.trans_iff quiet, Extends.cons_iff, windowed]
  exact and_iff_left (quiet.mono fun _ quiet => quiet.windowed uSize)

/-- A loop that has not been answered yet is waiting in its first call. -/
theorem windowed_nil (asks : loop.Asks uSize again) [Nonempty ω] :
    loop.Windowed uSize (loop.calls state) (CallLoop.run loop.step state []) ↔
      InWindow uSize (loop.total state) (wrapInt (window uSize (loop.total state))) := by
  have turn (answer : ω) :
      (∀ call ∈ CallLoop.calls loop.calls loop.final loop.step state answer,
        call.Windowed uSize) ↔
      InWindow uSize (loop.total state) (wrapInt (window uSize (loop.total state))) := by
    rw [← asks.windowed_iff state answer, (asks.grows state answer).iff_since]
    rfl
  constructor
  · rintro ⟨-, waits⟩
    obtain ⟨answer⟩ := ‹Nonempty ω›
    exact (turn answer).mp (waits answer)
  · exact fun inside => ⟨Extends.refl _ _, fun answer => (turn answer).mpr inside⟩

theorem windowed_cons_return (asks : loop.Asks uSize again) {final : ρ}
    (turn : loop.step state answer = .inr final) :
    loop.Windowed uSize (loop.calls state) (CallLoop.run loop.step state (answer :: rest)) ↔
      InWindow uSize (loop.total state) (wrapInt (window uSize (loop.total state))) := by
  rw [CallLoop.run_cons_return _ turn, ← asks.windowed_iff state answer, turn]
  exact and_iff_left fun _ _ => nofun

theorem windowed_cons_continue (asks : loop.Asks uSize again) {next : σ}
    (turn : loop.step state answer = .inl next) :
    loop.Windowed uSize (loop.calls state) (CallLoop.run loop.step state (answer :: rest)) ↔
      InWindow uSize (loop.total state) (wrapInt (window uSize (loop.total state))) ∧
        loop.Windowed uSize (loop.calls next) (CallLoop.run loop.step next rest) := by
  have first := asks.grows state answer
  have windowed := asks.windowed_iff state answer
  have later : Extends (fun _ => True) (loop.calls next)
      (loop.called (CallLoop.run loop.step next rest)) :=
    CallLoop.run_extends loop.calls loop.final asks.grows next rest
  rw [turn] at first windowed
  rw [CallLoop.run_cons_continue _ turn, ← windowed, Windowed, Windowed, CallLoop.Every,
    CallLoop.Every, ← and_assoc]
  exact and_congr_left fun _ => first.trans_iff later

theorem inWindow_of_windowed (asks : loop.Asks uSize again) [Nonempty ω] {script : List ω}
    (windowed : loop.Windowed uSize (loop.calls state) (CallLoop.run loop.step state script)) :
    InWindow uSize (loop.total state) (wrapInt (window uSize (loop.total state))) := by
  cases script with
  | nil => exact (windowed_nil asks).mp windowed
  | cons answer rest =>
      cases turn : loop.step state answer with
      | inl next => exact ((windowed_cons_continue asks turn).mp windowed).1
      | inr final => exact (windowed_cons_return asks turn).mp windowed

/-- A call that moves bytes moves no more than is left of the low word, so the sum is
exact. -/
theorem moves_within (asks : loop.Asks uSize again) (fits : uSize ≤ sizeMax)
    (small : lowWord uSize ≤ intMax) (lower : 0 ≤ loop.total state)
    (upper : loop.total state ≤ lowWord uSize) (some : 1 ≤ loop.result answer)
    (atMost : loop.result answer ≤ wrapInt (window uSize (loop.total state))) :
    loop.total state + loop.result answer ≤ lowWord uSize ∧
      ((∃ next, loop.step state answer = .inl next ∧ again = true ∧
          loop.total next = loop.total state + loop.result answer ∧
          loop.total state + loop.result answer < uSize) ∨
        ∃ final, loop.step state answer = .inr final ∧
          (again = false ∨ uSize ≤ loop.total state + loop.result answer)) := by
  rw [length_eq fits small lower upper] at atMost
  have moved : wrapInt (loop.result answer) = loop.result answer :=
    wrapInt_eq_self (by omega) (by omega)
  have summed : wrapInt (loop.total state + loop.result answer) =
      loop.total state + loop.result answer := wrapInt_eq_self (by omega) (by omega)
  have compared := @toSizeT_lt_iff (loop.total state + loop.result answer) uSize (by omega)
    (by simp only [intMax, sizeMax] at small ⊢; omega)
  have goes := asks.goes state answer (by omega)
  have stops := asks.stops state answer (by omega)
  rw [moved, summed, compared] at goes stops
  refine ⟨by omega, ?_⟩
  by_cases going : again = true ∧ loop.total state + loop.result answer < uSize
  · obtain ⟨next, turn, total⟩ := goes going.1 going.2
    exact .inl ⟨next, turn, going.1, total, going.2⟩
  · obtain ⟨final, turn⟩ := stops going
    refine .inr ⟨final, turn, ?_⟩
    cases again with
    | false => exact .inl rfl
    | true => exact .inr (Int.not_lt.mp fun below => going ⟨rfl, below⟩)

theorem windowed_iff (asks : loop.Asks uSize again) (fits : uSize ≤ sizeMax)
    (small : lowWord uSize ≤ intMax) [Nonempty ω] {script : List ω}
    (lower : 0 ≤ loop.total state) (upper : loop.total state ≤ lowWord uSize)
    (possible : CallLoop.Admits loop.step loop.Possible state script) :
    loop.Windowed uSize (loop.calls state) (CallLoop.run loop.step state script) ↔
      loop.total state < lowWord uSize ∧
        (uSize ≤ intMax ∨ again = false ∨
          loop.total state + exchanged (script.map loop.result) < lowWord uSize) := by
  induction script generalizing state with
  | nil =>
      rw [windowed_nil asks, inWindow_iff fits small lower upper, List.map_nil, exchanged,
        Int.add_zero]
      exact (and_iff_left_of_imp fun less => .inr (.inr less)).symm
  | cons answer rest ih =>
      have asked := inWindow_iff fits small lower upper
      have whole : uSize ≤ intMax → lowWord uSize = uSize := fun fits =>
        Nat.mod_eq_of_lt (Nat.lt_of_le_of_lt fits (by decide))
      obtain ⟨range, later⟩ := possible
      simp only [List.map_cons, exchanged]
      rcases asks.possible state answer range with ⟨some, atMost⟩ | ⟨lowest, failed⟩
      · obtain ⟨sum, turned⟩ := moves_within asks fits small lower upper some atMost
        rw [if_pos (by omega)]
        rcases turned with ⟨next, turn, going, total, below⟩ | ⟨final, turn, stopped⟩
        · simp only [turn] at later
          have rests := exchanged_nonneg (rest.map loop.result)
          rw [windowed_cons_continue asks turn, asked, ih (by omega) (by omega) later, total, going]
          simp only [Bool.true_eq_false, false_or]
          omega
        · rw [windowed_cons_return asks turn, asked]
          rcases stopped with once | complete
          · simp [once]
          · have whole : uSize ≤ intMax := by omega
            simp [whole]
      · have refused : wrapInt (loop.result answer) ≤ 0 := by
          rw [wrapInt_eq_self lowest (by omega)]
          exact failed
        obtain ⟨final, turn⟩ := asks.fails state answer refused
        rw [windowed_cons_return asks turn, asked, if_neg (Int.not_lt.mpr failed), Int.add_zero]
        exact (and_iff_left_of_imp fun less => .inr (.inr less)).symm

/-- From the start of a loop the lengths are right exactly when they fit. -/
theorem start_windowed_iff (asks : loop.Asks uSize again) (fits : uSize ≤ sizeMax)
    (start : loop.total state = 0) [Nonempty ω] {script : List ω}
    (possible : CallLoop.Admits loop.step loop.Possible state script) :
    loop.Windowed uSize (loop.calls state) (CallLoop.run loop.step state script) ↔
      LengthsFit uSize (!again) (script.map loop.result) := by
  by_cases first : 1 ≤ lowWord uSize ∧ lowWord uSize ≤ intMax
  · have ran := windowed_iff asks fits first.2 (by omega) (by omega) possible
    have positive : (0 : Int) < lowWord uSize := by omega
    rw [ran, start, Int.zero_add, LengthsFit, Bool.not_eq_true']
    simp only [first.1, first.2, positive, true_and]
  · refine iff_of_false ?_ fun fit => first ⟨fit.1, fit.2.1⟩
    intro windowed
    have inside := inWindow_of_windowed asks windowed
    rw [start, inWindow_first_iff fits] at inside
    exact first inside

end SecureLoop

namespace SecurePeer

def sendLoop (peer : SecurePeer) (uSize : Nat) : SecureLoop SendState SendAnswer Sent where
  step := peer.sendTurn uSize
  total := SendState.total
  calls := SendState.trace
  final := fun result => result.trace
  result := SendAnswer.result

def receiveLoop (peer : SecurePeer) (uSize : Nat) (bReadFully : Bool) :
    SecureLoop ReceiveState RecvAnswer Received where
  step := peer.recvTurn uSize bReadFully
  total := ReceiveState.total
  calls := ReceiveState.trace
  final := fun result => result.trace
  result := RecvAnswer.result

theorem sendLoop_asks (peer : SecurePeer) (uSize : Nat) :
    (peer.sendLoop uSize).Asks uSize true where
  called := by
    intro state answer
    exact ⟨_, Iff.rfl, peer.sendTurn_calls uSize state answer⟩
  possible := fun state answer => (peer.sendPossible_iff uSize state answer).mp
  fails := by
    intro state answer refused
    obtain ⟨failed, -, turn⟩ := peer.sendTurn_eq uSize state answer
    exact ⟨_, turn.trans (if_pos refused)⟩
  goes := by
    intro state answer moved _ below
    obtain ⟨failed, -, turn⟩ := peer.sendTurn_eq uSize state answer
    have accepted : ¬ wrapInt answer.result ≤ 0 := Int.not_le.mpr moved
    rw [if_neg accepted] at turn
    exact ⟨_, turn.trans (if_pos below), rfl⟩
  stops := by
    intro state answer moved complete
    obtain ⟨failed, -, turn⟩ := peer.sendTurn_eq uSize state answer
    have accepted : ¬ wrapInt answer.result ≤ 0 := Int.not_le.mpr moved
    rw [if_neg accepted] at turn
    exact ⟨_, turn.trans (if_neg fun below => complete ⟨rfl, below⟩)⟩

theorem receiveLoop_asks (peer : SecurePeer) (uSize : Nat) (bReadFully : Bool) :
    (peer.receiveLoop uSize bReadFully).Asks uSize bReadFully where
  called := by
    intro state answer
    exact ⟨_, Iff.rfl, peer.recvTurn_calls uSize bReadFully state answer⟩
  possible := fun state answer => (peer.receivePossible_iff uSize bReadFully state answer).mp
  fails := by
    intro state answer refused
    obtain ⟨failed, -, turn⟩ := peer.recvTurn_eq uSize bReadFully state answer
    exact ⟨_, turn.trans (if_pos refused)⟩
  goes := by
    intro state answer moved fully below
    obtain ⟨failed, -, turn⟩ := peer.recvTurn_eq uSize bReadFully state answer
    have accepted : ¬ wrapInt answer.result ≤ 0 := Int.not_le.mpr moved
    simp only [accepted, if_false] at turn
    exact ⟨_, turn.trans (if_pos ⟨fully, below⟩), rfl⟩
  stops := by
    intro state answer moved complete
    obtain ⟨failed, -, turn⟩ := peer.recvTurn_eq uSize bReadFully state answer
    have accepted : ¬ wrapInt answer.result ≤ 0 := Int.not_le.mpr moved
    simp only [accepted, if_false] at turn
    exact ⟨_, turn.trans (if_neg complete)⟩

end SecurePeer

/-- The lengths that a secure transfer gives to OpenSSL are right exactly when they fit. -/
theorem secure_lengths_iff (peer : SecurePeer) (ready : peer.Ready) {uSize : Nat}
    (fits : uSize ≤ sizeMax) (pData : Option (Buffer UInt8)) (trace : Trace) :
    (∀ script,
      CallLoop.Admits (peer.sendTurn uSize) (SendPossible (peer.sendTurn uSize)) (.start trace)
        script →
      (SendsOnly (Call.Windowed uSize) (peer.sendTurn uSize) trace
          (peer.send pData uSize script trace) ↔
        LengthsFit uSize false (script.map SendAnswer.result))) ∧
    (∀ bReadFully script,
      CallLoop.Admits (peer.recvTurn uSize bReadFully)
        (ReceivePossible (peer.recvTurn uSize bReadFully)) (.start pData trace) script →
      (ReceivesOnly (Call.Windowed uSize) (peer.recvTurn uSize bReadFully) trace
          (peer.receive pData uSize bReadFully script trace) ↔
        LengthsFit uSize (!bReadFully) (script.map RecvAnswer.result))) := by
  refine ⟨?_, ?_⟩
  · intro script possible
    rw [SecurePeer.send_of_ready ready]
    exact @SecureLoop.start_windowed_iff _ _ _ (peer.sendLoop uSize) _ _ (.start trace)
      (peer.sendLoop_asks uSize) fits rfl _ _ possible
  · intro bReadFully script possible
    rw [SecurePeer.receive_of_ready ready]
    exact @SecureLoop.start_windowed_iff _ _ _ (peer.receiveLoop uSize bReadFully) _ _
      (.start pData trace) (peer.receiveLoop_asks uSize bReadFully) fits rfl _ _ possible

/-- A `Send` that is still waiting in its second call, and a `Receive` that failed in its. -/
theorem secure_lengths_iff_two_calls :
    (SendsOnly (Call.Windowed 4) (connectedSSLClient.sendTurn 4) []
        (connectedSSLClient.send (some fun _ => 0) 4 [⟨3, 0⟩] []) ↔
      LengthsFit 4 false [3]) ∧
    (ReceivesOnly (Call.Windowed 4) (connectedSSLClient.recvTurn 4 true) []
        (connectedSSLClient.receive (some fun _ => 0) 4 true [.data [1, 2], .status (-1) 2] []) ↔
      LengthsFit 4 false [2, -1]) := by
  have lengths := secure_lengths_iff (.client connectedSSLClient) rfl (show 4 ≤ sizeMax by decide)
    (some fun _ => 0) []
  let peer : SecurePeer := .client connectedSSLClient
  have sends : CallLoop.Admits (peer.sendTurn 4) (SendPossible (peer.sendTurn 4)) (.start [])
      [⟨3, 0⟩] :=
    ⟨(peer.sendPossible_iff ..).mpr (.inl (by decide)), trivial⟩
  have receives : CallLoop.Admits (peer.recvTurn 4 true) (ReceivePossible (peer.recvTurn 4 true))
      (.start (some fun _ => 0) []) [.data [1, 2], .status (-1) 2] :=
    ⟨(peer.receivePossible_iff ..).mpr (.inl (by decide)),
      (peer.receivePossible_iff ..).mpr (.inr (by decide)), trivial⟩
  exact ⟨lengths.1 _ sends, lengths.2 true _ receives⟩

/-- An empty string is sent with a length of 0, and three billion bytes are received with
a negative one. -/
theorem secure_lengths_wrong :
    let server := CTCPSSLServer.new "443" secureSettings
    let sent := sentTrace (connectedSSLClient.send (some fun _ => 0) 0 [⟨-1, 6⟩] [])
    let sentByServer := sentTrace (server.send sessionSocket (some fun _ => 0) 0 [⟨-1, 6⟩] [])
    let received := receivedTrace (connectedSSLClient.receive (some fun _ => 0) 3000000000 true
      [.status (-1) 1] [])
    let receivedByServer := receivedTrace (server.receive sessionSocket (some fun _ => 0) 3000000000
      true [.status (-1) 1] [])
    sent = [.sslWrite (some 2) 0 0 (-1)] ∧ sentByServer = sent ∧
      ¬ Extends (Call.Windowed 0) [] sent ∧
      received = [.sslRead (some 2) 0 (-1294967296) (-1)] ∧ receivedByServer = received ∧
      ¬ Extends (Call.Windowed 3000000000) [] received := by
  intro server sent sentByServer received receivedByServer
  have sentEmpty : sent = [.sslWrite (some 2) 0 0 (-1)] := by decide
  have receivedLarge : received = [.sslRead (some 2) 0 (-1294967296) (-1)] := by decide
  refine ⟨sentEmpty, by decide, ?_, receivedLarge, by decide, ?_⟩
  · rw [sentEmpty, Extends.cons_iff]
    intro windowed
    exact absurd windowed.some (by decide)
  · rw [receivedLarge, Extends.cons_iff]
    intro windowed
    exact absurd windowed.some (by decide)

end SocketCpp
