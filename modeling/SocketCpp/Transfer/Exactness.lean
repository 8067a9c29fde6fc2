import Mathlib.Algebra.Ring.Int.Defs
import SocketCpp.Transfer.Accounting

namespace SocketCpp

open Data

/-! How far the `int` total of a plain transfer can be trusted.

Sizes come as `size_t`, and the total is an `int`.  A transfer counts exactly as
long as it has moved no more than `INT_MAX` bytes, and goes wrong in the turn that
passes it; only a size above `INT_MAX` lets it get there. -/

/-- The most that one call of `send` or `recv` moves. -/
def maxTransfer : Nat := 0x7ffff000

/-- A loop that keeps an `int` total, seen through the numbers it keeps and the lengths that
the calls of a turn are given. -/
structure Counter (σ ω ρ : Type) where
  step : σ → ω → σ ⊕ ρ
  total : σ → Int
  lengths : σ → ω → List Int
  final : ρ → Int
  amount : ω → Int
  success : ρ → Prop

namespace Counter

variable {σ ω ρ : Type} (counter : Counter σ ω ρ)

def moved (answers : List ω) : Int :=
  (answers.map counter.amount).sum

/-- The call made in `state` moves some of the bytes that it is called with. -/
def Moves (state : σ) (answer : ω) : Prop :=
  1 ≤ counter.amount answer ∧
    (∀ length ∈ counter.lengths state answer, counter.amount answer ≤ length) ∧
    counter.amount answer ≤ maxTransfer

/-- A function that transfers `uSize` bytes counts exactly along a script: in front of every
call, which is given what is left, and when it returns.  `already` bytes were moved before
the script. -/
structure Exact (uSize : Nat) (already : Int) (call : List ω → σ ⊕ ρ) (script : List ω) :
    Prop where
  counts : ∀ taken state, taken <+: script → call taken = .inl state →
    counter.total state = already + counter.moved taken ∧
      ∀ answer, counter.lengths state answer = [(uSize : Int) - (already + counter.moved taken)]
  ends : ∀ taken answer state result, taken ++ [answer] <+: script →
    call taken = .inl state → call (taken ++ [answer]) = .inr result →
    counter.final result = already + counter.moved (taken ++ [answer]) ∧
      (counter.success result → already + counter.moved (taken ++ [answer]) = uSize)

/-- The call of each turn is given what the total leaves of the size. -/
def Asks (uSize : Nat) : Prop :=
  ∀ state answer, counter.lengths state answer = [(window uSize (counter.total state) : Int)]

def Adds (uSize : Nat) : Prop :=
  ∀ state answer, 0 < counter.amount answer → counter.amount answer ≤ maxTransfer →
    (∃ next, counter.step state answer = .inl next ∧
      counter.total next = wrapInt (counter.total state + counter.amount answer) ∧
      toSizeT (counter.total next) < uSize) ∨
    (∃ result, counter.step state answer = .inr result ∧
      counter.final result = wrapInt (counter.total state + counter.amount answer) ∧
      ¬ toSizeT (counter.final result) < uSize)

variable {counter} {uSize : Nat} {state : σ} {already : Int} {answer : ω} {rest : List ω}

@[simp] theorem moved_nil : counter.moved [] = 0 := rfl

@[simp] theorem moved_cons :
    counter.moved (answer :: rest) = counter.amount answer + counter.moved rest := by
  simp [moved]

theorem moved_nonneg (positive : ∀ answer ∈ rest, 0 < counter.amount answer) :
    0 ≤ counter.moved rest := by
  induction rest with
  | nil => exact Int.le_refl 0
  | cons answer rest ih =>
      have first := positive answer (by simp)
      have later := ih fun other member => positive other (by simp [member])
      rw [moved_cons]
      omega

theorem exact_cons_continue {next : σ} (turn : counter.step state answer = .inl next)
    (total : counter.total state = already)
    (length : ∀ answer, counter.lengths state answer = [(uSize : Int) - already]) :
    counter.Exact uSize already (CallLoop.run counter.step state) (answer :: rest) ↔
      counter.Exact uSize (already + counter.amount answer) (CallLoop.run counter.step next)
        rest := by
  constructor
  · intro exact
    refine ⟨?_, ?_⟩
    · intro taken later isPrefix waiting
      have counted := exact.counts (answer :: taken) later
        (List.cons_prefix_cons.mpr ⟨rfl, isPrefix⟩)
        (by rw [CallLoop.run_cons_continue _ turn]; exact waiting)
      rw [moved_cons, ← Int.add_assoc] at counted
      exact counted
    · intro taken last later result isPrefix waiting returned
      have ended := exact.ends (answer :: taken) last later result
        (List.cons_prefix_cons.mpr ⟨rfl, isPrefix⟩)
        (by rw [CallLoop.run_cons_continue _ turn]; exact waiting)
        (by rw [List.cons_append, CallLoop.run_cons_continue _ turn]; exact returned)
      rw [List.cons_append, moved_cons, ← Int.add_assoc] at ended
      exact ended
  · intro exact
    refine ⟨?_, ?_⟩
    · intro taken later isPrefix waiting
      cases taken with
      | nil =>
          cases waiting
          simpa using ⟨total, length⟩
      | cons first taken =>
          obtain ⟨rfl, inside⟩ := List.cons_prefix_cons.mp isPrefix
          rw [CallLoop.run_cons_continue _ turn] at waiting
          have counted := exact.counts taken later inside waiting
          rw [moved_cons, ← Int.add_assoc]
          exact counted
    · intro taken last later result isPrefix waiting returned
      cases taken with
      | nil =>
          obtain ⟨rfl, _⟩ := List.cons_prefix_cons.mp isPrefix
          rw [List.nil_append, CallLoop.run_cons_continue _ turn] at returned
          cases returned
      | cons first taken =>
          obtain ⟨rfl, inside⟩ := List.cons_prefix_cons.mp isPrefix
          rw [CallLoop.run_cons_continue _ turn] at waiting
          rw [List.cons_append, CallLoop.run_cons_continue _ turn] at returned
          have ended := exact.ends taken last later result inside waiting returned
          rw [List.cons_append, moved_cons, ← Int.add_assoc]
          exact ended

theorem exact_cons_return {result : ρ} (turn : counter.step state answer = .inr result)
    (total : counter.total state = already)
    (length : ∀ answer, counter.lengths state answer = [(uSize : Int) - already]) :
    counter.Exact uSize already (CallLoop.run counter.step state) (answer :: rest) ↔
      counter.final result = already + counter.amount answer ∧
        (counter.success result → already + counter.amount answer = uSize) := by
  have returned : CallLoop.run counter.step state [answer] = .inr result :=
    CallLoop.run_cons_return [] turn
  constructor
  · intro exact
    have ended := exact.ends [] answer state result (by simp) rfl returned
    simpa using ended
  · intro ended
    refine ⟨?_, ?_⟩
    · intro taken later isPrefix waiting
      cases taken with
      | nil =>
          cases waiting
          simpa using ⟨total, length⟩
      | cons first taken =>
          obtain ⟨rfl, _⟩ := List.cons_prefix_cons.mp isPrefix
          rw [CallLoop.run_cons_return _ turn] at waiting
          cases waiting
    · intro taken last later outcome isPrefix waiting outcomes
      cases taken with
      | nil =>
          obtain ⟨rfl, _⟩ := List.cons_prefix_cons.mp isPrefix
          rw [List.nil_append, returned] at outcomes
          cases outcomes
          simpa using ended
      | cons first taken =>
          obtain ⟨rfl, _⟩ := List.cons_prefix_cons.mp isPrefix
          rw [CallLoop.run_cons_return _ turn] at waiting
          cases waiting

theorem wrapInt_ne_of_passes (small : already ≤ intMax)
    (atMost : counter.amount answer ≤ maxTransfer)
    (passes : (intMax : Int) < already + counter.amount answer) :
    wrapInt (already + counter.amount answer) ≠ already + counter.amount answer := by
  have bounded : already + counter.amount answer < 4294967296 := by
    simp only [intMax, maxTransfer] at small atMost
    omega
  rw [wrapInt_overflow passes bounded]
  omega

theorem exact_nil (total : counter.total state = already)
    (length : ∀ answer, counter.lengths state answer = [(uSize : Int) - already]) :
    counter.Exact uSize already (CallLoop.run counter.step state) [] := by
  refine ⟨?_, ?_⟩
  · intro taken later isPrefix waiting
    obtain rfl := List.prefix_nil.mp isPrefix
    cases waiting
    simpa using ⟨total, length⟩
  · intro taken last later result isPrefix
    have none := List.prefix_nil.mp isPrefix
    simp at none

theorem not_exact_of_passes (adds : counter.Adds uSize) (total : counter.total state = already)
    (length : ∀ answer, counter.lengths state answer = [(uSize : Int) - already])
    (small : already ≤ intMax) (some : 0 < counter.amount answer)
    (atMost : counter.amount answer ≤ maxTransfer)
    (passes : (intMax : Int) < already + counter.amount answer) :
    ¬ counter.Exact uSize already (CallLoop.run counter.step state) (answer :: rest) := by
  have wrong := wrapInt_ne_of_passes small atMost passes
  intro exact
  rcases adds state answer some atMost with ⟨next, turn, sum, _⟩ | ⟨result, turn, sum, _⟩
  · rw [exact_cons_continue turn total length] at exact
    have counted := (exact.counts [] next (by simp) rfl).1
    rw [moved_nil, Int.add_zero, sum, total] at counted
    exact wrong counted
  · rw [exact_cons_return turn total length, sum, total] at exact
    exact wrong exact.1

theorem exact_iff (asks : counter.Asks uSize) (adds : counter.Adds uSize)
    (fits : uSize ≤ sizeMax) {script : List ω}
    (total : counter.total state = already) (lower : 0 ≤ already) (small : already ≤ intMax)
    (below : already < uSize) (positive : ∀ answer ∈ script, 0 < counter.amount answer)
    (moves : CallLoop.Admits counter.step counter.Moves state script) :
    counter.Exact uSize already (CallLoop.run counter.step state) script ↔
      uSize ≤ intMax ∨ already + counter.moved script ≤ intMax := by
  induction script generalizing state already with
  | nil =>
      have length (answer : ω) : counter.lengths state answer = [(uSize : Int) - already] := by
        rw [asks, total, window_within lower (Int.le_of_lt below) fits]
      exact iff_of_true (exact_nil total length) (.inr (by simpa using small))
  | cons answer rest ih =>
      obtain ⟨⟨some, within, atMost⟩, later⟩ := moves
      have length (answer : ω) : counter.lengths state answer = [(uSize : Int) - already] := by
        rw [asks, total, window_within lower (Int.le_of_lt below) fits]
      have asked : counter.amount answer ≤ uSize - already :=
        within _ (by rw [length]; exact List.mem_singleton_self _)
      have rests := moved_nonneg fun other member =>
        positive other (List.mem_cons_of_mem answer member)
      by_cases passes : (intMax : Int) < already + counter.amount answer
      · refine iff_of_false (not_exact_of_passes adds total length small some atMost passes) ?_
        rw [moved_cons]
        omega
      · have sum_eq : wrapInt (already + counter.amount answer) = already + counter.amount answer :=
          wrapInt_eq_self (by omega) (by omega)
        have turned := adds state answer some atMost
        rw [total, sum_eq] at turned
        have compare := @toSizeT_lt_iff (already + counter.amount answer) uSize (by omega)
          (by simp only [intMax, sizeMax] at passes ⊢; omega)
        rcases turned with ⟨next, turn, sum, going⟩ | ⟨result, turn, sum, stopped⟩
        · rw [sum, compare] at going
          simp only [turn] at later
          rw [exact_cons_continue turn total length, ih sum (by omega) (by omega) going
            (fun other member => positive other (List.mem_cons_of_mem answer member)) later,
            moved_cons, Int.add_assoc]
        · rw [sum, compare] at stopped
          rw [exact_cons_return turn total length, sum]
          exact ⟨fun _ => .inl (by omega), fun _ => ⟨rfl, fun _ => by omega⟩⟩

end Counter

namespace PlainPeer

def sendCounter (peer : PlainPeer) (uSize : Nat) : Counter SendState SendAnswer Sent where
  step := peer.sendTurn uSize
  total := SendState.total
  lengths := fun state answer =>
    (sendCalls (peer.sendTurn uSize) state answer).filterMap Call.requested
  final := fun result => result.total
  amount := SendAnswer.result
  success := fun result => result.value = true

def receiveCounter (peer : PlainPeer) (uSize : Nat) : Counter ReceiveState RecvAnswer Received where
  step := peer.recvTurn uSize true
  total := ReceiveState.total
  lengths := fun state answer =>
    (receiveCalls (peer.recvTurn uSize true) state answer).filterMap Call.requested
  final := fun result => result.total
  amount := RecvAnswer.result
  success := fun result => result.value = uSize

theorem wrapInt_amount {amount : Int} (some : 0 < amount) (atMost : amount ≤ maxTransfer) :
    wrapInt amount = amount :=
  wrapInt_eq_self (by omega) (by simp only [maxTransfer, intMax] at atMost ⊢; omega)

theorem sendCounter_asks (peer : PlainPeer) (uSize : Nat) :
    (peer.sendCounter uSize).Asks uSize :=
  fun state answer => requested_of_quiet (peer.sendTurn_calls uSize state answer) rfl

theorem receiveCounter_asks (peer : PlainPeer) (uSize : Nat) :
    (peer.receiveCounter uSize).Asks uSize :=
  fun state answer => requested_of_quiet (peer.recvTurn_calls uSize true state answer) rfl

theorem sendCounter_adds (peer : PlainPeer) (uSize : Nat) :
    (peer.sendCounter uSize).Adds uSize := by
  intro state answer some atMost
  have sent : wrapInt answer.result = answer.result := wrapInt_amount some atMost
  have succeeded : ¬ answer.result < 0 := Int.not_lt.mpr (Int.le_of_lt some)
  obtain ⟨failed, -, turn⟩ := peer.sendTurn_eq uSize state answer
  simp only [sent, succeeded, if_false] at turn
  simp only [sendCounter]
  by_cases going : toSizeT (wrapInt (state.total + answer.result)) < uSize
  · rw [if_pos going] at turn
    exact .inl ⟨_, turn, rfl, going⟩
  · rw [if_neg going] at turn
    exact .inr ⟨_, turn, rfl, going⟩

theorem receiveCounter_adds (peer : PlainPeer) (uSize : Nat) :
    (peer.receiveCounter uSize).Adds uSize := by
  intro state answer some atMost
  have received : wrapInt answer.result = answer.result := wrapInt_amount some atMost
  have delivers : ¬ answer.result = 0 := Int.ne_of_gt some
  simp only [receiveCounter, recvTurn, SocketCpp.recvTurn, received, delivers, if_false, true_and]
  by_cases going : toSizeT (wrapInt (state.total + answer.result)) < uSize
  · rw [if_pos going]
    exact .inl ⟨_, rfl, rfl, going⟩
  · rw [if_neg going]
    exact .inr ⟨_, rfl, rfl, going⟩

end PlainPeer

/-- A plain transfer counts exactly when its size, or all that the calls move, is
at most `INT_MAX`. -/
theorem transfers_exact_iff (peer : PlainPeer) (ready : peer.Ready) {uSize : Nat}
    (positive : 0 < uSize) (fits : uSize ≤ sizeMax) (pData : Buffer UInt8) (trace : Trace) :
    (∀ script, (∀ answer ∈ script, 0 < answer.result) →
      CallLoop.Admits (peer.sendTurn uSize) (peer.sendCounter uSize).Moves
        (.start trace) script →
      ((peer.sendCounter uSize).Exact uSize 0
          (fun answers => peer.send (some pData) uSize answers trace) script ↔
        uSize ≤ intMax ∨ (peer.sendCounter uSize).moved script ≤ intMax)) ∧
    (∀ script, (∀ answer ∈ script, 0 < answer.result) →
      CallLoop.Admits (peer.recvTurn uSize true) (peer.receiveCounter uSize).Moves
        (.start (some pData) trace) script →
      ((peer.receiveCounter uSize).Exact uSize 0
          (fun answers => peer.receive (some pData) uSize true answers trace) script ↔
        uSize ≤ intMax ∨ (peer.receiveCounter uSize).moved script ≤ intMax)) := by
  have below : (0 : Int) < uSize := Int.ofNat_lt.mpr positive
  refine ⟨?_, ?_⟩
  · intro script answers moves
    have exact := Counter.exact_iff (peer.sendCounter_asks uSize) (peer.sendCounter_adds uSize) fits
      (show (peer.sendCounter uSize).total (.start trace) = 0 from rfl) (Int.le_refl 0)
      (by decide) below answers moves
    rw [Int.zero_add] at exact
    simp only [PlainPeer.send_of_ready ready positive]
    exact exact
  · intro script answers moves
    have exact := Counter.exact_iff (peer.receiveCounter_asks uSize)
      (peer.receiveCounter_adds uSize) fits
      (show (peer.receiveCounter uSize).total (.start (some pData) trace) = 0 from rfl)
      (Int.le_refl 0) (by decide) below answers moves
    rw [Int.zero_add] at exact
    simp only [PlainPeer.receive_of_ready ready positive]
    exact exact

theorem transfers_exact_iff_small :
    (PlainPeer.sendCounter (.client connectedClient) 4).Exact 4 0
        (fun answers => connectedClient.send (some fun _ => 0) 4 answers []) [⟨3, 0⟩, ⟨1, 0⟩] ↔
      4 ≤ intMax ∨ (PlainPeer.sendCounter (.client connectedClient) 4).moved [⟨3, 0⟩, ⟨1, 0⟩] ≤
        intMax := by
  have exact := transfers_exact_iff (.client connectedClient) rfl (show 0 < 4 by decide)
    (by decide) (fun _ => 0) []
  have moves : CallLoop.Admits (PlainPeer.sendTurn (.client connectedClient) 4)
      (PlainPeer.sendCounter (.client connectedClient) 4).Moves (.start [])
      [⟨3, 0⟩, ⟨1, 0⟩] :=
    ⟨⟨by decide, by decide, by decide⟩, ⟨by decide, by decide, by decide⟩, trivial⟩
  exact exact.1 [⟨3, 0⟩, ⟨1, 0⟩] (by decide) moves

/-- A size above `INT_MAX`: the total turns negative, which is a large size, and
`Send` reports success with a third of the payload left. -/
theorem send_reports_success_early :
    let counter := PlainPeer.sendCounter (.client connectedClient) 3000000000
    let script := [SendAnswer.mk 2147479552 0, .mk 10000 0]
    CallLoop.Admits counter.step counter.Moves (.start []) script ∧
      counter.moved script = 2147489552 ∧
      ∃ result, connectedClient.send (some fun _ => 0) 3000000000 script [] = .inr result ∧
        result.value = true ∧ result.total = -2147477744 := by
  intro counter script
  have moves : CallLoop.Admits counter.step counter.Moves (.start []) script :=
    ⟨⟨by decide, by decide, by decide⟩, ⟨by decide, by decide, by decide⟩, trivial⟩
  exact ⟨moves, rfl, _, rfl, rfl, rfl⟩

end SocketCpp
