import Mathlib.Data.List.Basic
import SocketCpp.Data.History

namespace SocketCpp.Data

/-! Loops that make one outside call in every turn.

A turn takes the answer of the call and either goes round again with a new state
or returns.  The answers come from a script; a script that ends while the loop is
still running leaves it waiting in its next call. -/

namespace CallLoop

variable {σ ω ρ : Type} {step : σ → ω → σ ⊕ ρ}

/-- Where the loop stands when the script is used up: waiting, or returned. -/
def run (step : σ → ω → σ ⊕ ρ) : σ → List ω → σ ⊕ ρ
  | state, [] => .inl state
  | state, answer :: rest =>
      match step state answer with
      | .inl next => run step next rest
      | .inr result => .inr result

def enter (step : σ → ω → σ ⊕ ρ) (entry : σ ⊕ ρ) (script : List ω) : σ ⊕ ρ :=
  match entry with
  | .inl state => run step state script
  | .inr result => .inr result

def consumed (step : σ → ω → σ ⊕ ρ) : σ → List ω → List ω
  | _, [] => []
  | state, answer :: rest =>
      answer :: match step state answer with
        | .inl next => consumed step next rest
        | .inr _ => []

/-- Every answer the loop asks for is one the callee can give in that state. -/
def Admits (step : σ → ω → σ ⊕ ρ) (answers : σ → ω → Prop) : σ → List ω → Prop
  | _, [] => True
  | state, answer :: rest =>
      answers state answer ∧
        match step state answer with
        | .inl next => Admits step answers next rest
        | .inr _ => True

section Calls

variable {ε : Type} (view : σ → List ε) (final : ρ → List ε)

/-- The calls of one turn, once they are answered. -/
def calls (step : σ → ω → σ ⊕ ρ) (state : σ) (answer : ω) : List ε :=
  since (view state) (Sum.elim view final (step state answer))

/-- What a loop is waiting in: the calls of its next turn, as they will stand in the history
with this answer. -/
def pending (step : σ → ω → σ ⊕ ρ) (standing : σ ⊕ ρ) (answer : ω) : List ε :=
  match standing with
  | .inl state => calls view final step state answer
  | .inr _ => []

/-- Every call that a loop has made since `before` is of this kind, and so is the one that it
is waiting in, whatever it will return. -/
def Every (kind : ε → Prop) (step : σ → ω → σ ⊕ ρ) (before : List ε) (standing : σ ⊕ ρ) : Prop :=
  Extends kind before (Sum.elim view final standing) ∧
    ∀ answer, ∀ call ∈ pending view final step standing answer, kind call

end Calls

theorem run_cons_continue {state next : σ} {answer : ω} (rest : List ω)
    (turn : step state answer = .inl next) :
    run step state (answer :: rest) = run step next rest := by
  simp only [run, turn]

theorem run_cons_return {state : σ} {result : ρ} {answer : ω} (rest : List ω)
    (turn : step state answer = .inr result) :
    run step state (answer :: rest) = .inr result := by
  simp only [run, turn]

/-- A loop that still runs has taken the whole script. -/
theorem consumed_of_waiting {state next : σ} {script : List ω}
    (waiting : run step state script = .inl next) : consumed step state script = script := by
  induction script generalizing state with
  | nil => rfl
  | cons answer rest ih =>
      cases turn : step state answer with
      | inl middle =>
          rw [run_cons_continue _ turn] at waiting
          simp only [consumed, turn, ih waiting]
      | inr result =>
          rw [run_cons_return _ turn] at waiting
          cases waiting

theorem admits_of_forall {answers : σ → ω → Prop} (all : ∀ state answer, answers state answer)
    (state : σ) (script : List ω) : Admits step answers state script := by
  induction script generalizing state with
  | nil => trivial
  | cons answer rest ih =>
      refine ⟨all state answer, ?_⟩
      cases step state answer with
      | inl next => exact ih next
      | inr result => trivial

/-- The frame rule for turns that need an invariant of the state, and answers that can
be given in it. -/
theorem run_extends_within {answers : σ → ω → Prop} {invariant : σ → Prop} {ε : Type}
    {kind : ε → Prop} (view : σ → List ε) (final : ρ → List ε)
    (turns : ∀ state answer, invariant state → answers state answer →
      Extends kind (view state) (Sum.elim view final (step state answer)))
    (keeps : ∀ state answer next, invariant state → answers state answer →
      step state answer = .inl next → invariant next)
    {state : σ} {script : List ω} (start : invariant state)
    (admits : Admits step answers state script) :
    Extends kind (view state) (Sum.elim view final (run step state script)) := by
  induction script generalizing state with
  | nil => exact Extends.refl kind (view state)
  | cons answer rest ih =>
      obtain ⟨possible, later⟩ := admits
      have turned := turns state answer start possible
      cases turn : step state answer with
      | inl next =>
          simp only [turn] at later
          rw [run_cons_continue _ turn]
          rw [turn] at turned
          exact turned.trans (ih (keeps state answer next start possible turn) later)
      | inr result =>
          rw [run_cons_return _ turn]
          rwa [turn] at turned

/-- A loop whose turns only add `kind` events to a history adds only those. -/
theorem run_extends {ε : Type} {kind : ε → Prop} (view : σ → List ε) (final : ρ → List ε)
    (turns : ∀ state answer,
      Extends kind (view state) (Sum.elim view final (step state answer)))
    (state : σ) (script : List ω) :
    Extends kind (view state) (Sum.elim view final (run step state script)) := by
  have admits : Admits step (fun _ _ => True) state script :=
    admits_of_forall (fun _ _ => trivial) state script
  have keeps : ∀ state answer next, True → True → step state answer = .inl next → True :=
    fun _ _ _ _ _ _ => trivial
  exact run_extends_within view final (fun state answer _ _ => turns state answer) keeps trivial
    admits

/-- The rule for a loop: an invariant over the answers taken so far, which one
turn keeps or leaves with the postcondition. -/
theorem run_rule {answers : σ → ω → Prop} {invariant : List ω → σ → Prop}
    {post : List ω → ρ → Prop}
    (turns : ∀ taken state answer next, invariant taken state → answers state answer →
      step state answer = .inl next → invariant (taken ++ [answer]) next)
    (returns : ∀ taken state answer result, invariant taken state → answers state answer →
      step state answer = .inr result → post (taken ++ [answer]) result)
    {taken : List ω} {state : σ} {script : List ω}
    (start : invariant taken state) (admits : Admits step answers state script) :
    (∀ next, run step state script = .inl next → invariant (taken ++ script) next) ∧
      (∀ result, run step state script = .inr result →
        post (taken ++ consumed step state script) result) := by
  induction script generalizing taken state with
  | nil =>
      refine ⟨?_, by simp [run]⟩
      intro next waiting
      cases waiting
      simpa using start
  | cons answer rest ih =>
      obtain ⟨possible, later⟩ := admits
      cases turn : step state answer with
      | inl middle =>
          rw [run_cons_continue _ turn]
          simp only [consumed, turn] at later ⊢
          have continued := ih (turns taken state answer middle start possible turn) later
          simpa only [List.append_assoc, List.singleton_append] using continued
      | inr result =>
          rw [run_cons_return _ turn]
          simp only [consumed, turn]
          refine ⟨by simp, ?_⟩
          intro returned same
          cases same
          exact returns taken state answer result start possible turn

/-- A script in two parts: the second is for what the first leaves running. -/
theorem run_append (state : σ) (first second : List ω) :
    run step state (first ++ second) = enter step (run step state first) second := by
  induction first generalizing state with
  | nil => rfl
  | cons answer rest ih =>
      rw [List.cons_append]
      cases turn : step state answer with
      | inl next =>
          rw [run_cons_continue _ turn, run_cons_continue _ turn]
          exact ih next
      | inr result =>
          rw [run_cons_return _ turn, run_cons_return _ turn]
          rfl

theorem admits_append {answers : σ → ω → Prop} {state : σ} {first second : List ω} :
    Admits step answers state (first ++ second) ↔
      Admits step answers state first ∧
        ∀ next, run step state first = .inl next → Admits step answers next second := by
  induction first generalizing state with
  | nil => simp [Admits, run]
  | cons answer rest ih =>
      simp only [List.cons_append, Admits, and_assoc]
      cases turn : step state answer with
      | inl middle =>
          rw [run_cons_continue _ turn]
          exact and_congr_right fun _ => ih
      | inr result => simp [run_cons_return _ turn]

/-! One loop seen through a function of its states. -/

section View

variable {τ π : Type} {other : τ → ω → τ ⊕ π} {view : σ → τ} {final : ρ → π}

theorem run_map (commutes : ∀ state answer,
      other (view state) answer = Sum.map view final (step state answer))
    (state : σ) (script : List ω) :
    run other (view state) script = Sum.map view final (run step state script) := by
  induction script generalizing state with
  | nil => rfl
  | cons answer rest ih =>
      have turned := commutes state answer
      cases turn : step state answer with
      | inl next =>
          rw [turn] at turned
          rw [run_cons_continue _ turn, run_cons_continue _ turned, ih]
      | inr result =>
          rw [turn] at turned
          rw [run_cons_return _ turn, run_cons_return _ turned]
          rfl

theorem enter_map (commutes : ∀ state answer,
      other (view state) answer = Sum.map view final (step state answer))
    (entry : σ ⊕ ρ) (script : List ω) :
    enter other (Sum.map view final entry) script = Sum.map view final (enter step entry script) := by
  cases entry with
  | inl state => exact run_map commutes state script
  | inr result => rfl

end View

/-! Two loops on one script. -/

theorem run_related {τ π : Type} {other : τ → ω → τ ⊕ π} {related : σ → τ → Prop}
    {results : ρ → π → Prop} {possible : ω → Prop}
    (turns : ∀ state seen answer, related state seen → possible answer →
      Sum.LiftRel related results (step state answer) (other seen answer))
    {state : σ} {seen : τ} {script : List ω} (start : related state seen)
    (all : ∀ answer ∈ script, possible answer) :
    Sum.LiftRel related results (run step state script) (run other seen script) := by
  induction script generalizing state seen with
  | nil => exact .inl start
  | cons answer rest ih =>
      have turned := turns state seen answer start (all answer List.mem_cons_self)
      have later := fun other member => all other (List.mem_cons_of_mem answer member)
      cases turn : step state answer with
      | inl next =>
          rw [turn] at turned
          cases seenTurn : other seen answer with
          | inl seenNext =>
              rw [seenTurn] at turned
              rw [run_cons_continue _ turn, run_cons_continue _ seenTurn]
              exact ih (Sum.liftRel_inl_inl.mp turned) later
          | inr seenResult =>
              rw [seenTurn] at turned
              cases turned
      | inr result =>
          rw [turn] at turned
          cases seenTurn : other seen answer with
          | inl seenNext =>
              rw [seenTurn] at turned
              cases turned
          | inr seenResult =>
              rw [seenTurn] at turned
              rw [run_cons_return _ turn, run_cons_return _ seenTurn]
              exact turned

/-! Scripts without an end. -/

/-- The first `count` answers of an infinite script. -/
def answered (script : Nat → ω) (count : Nat) : List ω :=
  (List.range count).map script

theorem answered_succ (script : Nat → ω) (count : Nat) :
    answered script (count + 1) = answered script count ++ [script count] := by
  simp [answered, List.range_succ]

/-- A loop returns from an infinite script exactly when one of the turns that it
reaches returns. -/
theorem returns_iff {state : σ} {script : Nat → ω} {ends : Nat → Prop}
    (turns : ∀ count next, run step state (answered script count) = .inl next →
      (ends count ↔ ∃ result, step next (script count) = .inr result)) :
    (∃ count result, run step state (answered script count) = .inr result) ↔
      ∃ count, ends count := by
  constructor
  · rintro ⟨count, result, returned⟩
    induction count generalizing result with
    | zero => cases returned
    | succ count ih =>
        cases before : run step state (answered script count) with
        | inr earlier => exact ih earlier before
        | inl next =>
            rw [answered_succ, run_append, before] at returned
            cases turn : step next (script count) with
            | inl later =>
                rw [enter, run_cons_continue _ turn] at returned
                cases returned
            | inr last => exact ⟨count, (turns count next before).mpr ⟨last, turn⟩⟩
  · rintro ⟨count, last⟩
    cases before : run step state (answered script count) with
    | inr result => exact ⟨count, result, before⟩
    | inl next =>
        obtain ⟨result, turn⟩ := (turns count next before).mp last
        refine ⟨count + 1, result, ?_⟩
        rw [answered_succ, run_append, before, enter, run_cons_return _ turn]

end CallLoop

end SocketCpp.Data
