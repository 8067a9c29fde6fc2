import Mathlib.Data.List.Basic

namespace SocketCpp.Data

/-! Runs of a system that is stepped by operations.

`Always` speaks about every state of a run, its first and its last included, and
`Steps` about every operation together with the state it is applied in. -/

namespace Runs

variable {σ ω : Type} {step : σ → ω → σ}

def Always (step : σ → ω → σ) (good : σ → Prop) : σ → List ω → Prop
  | state, [] => good state
  | state, operation :: rest => good state ∧ Always step good (step state operation) rest

def Steps (step : σ → ω → σ) (allowed : σ → ω → Prop) : σ → List ω → Prop
  | _, [] => True
  | state, operation :: rest =>
      allowed state operation ∧ Steps step allowed (step state operation) rest

theorem always_iff_split {good : σ → Prop} {state : σ} {operations : List ω} :
    Always step good state operations ↔
      ∀ done rest, operations = done ++ rest → good (done.foldl step state) := by
  induction operations generalizing state with
  | nil =>
      constructor
      · intro good done rest split
        obtain ⟨rfl, _⟩ := List.append_eq_nil_iff.mp split.symm
        exact good
      · exact fun always => always [] [] rfl
  | cons operation operations ih =>
      constructor
      · rintro ⟨now, later⟩ done rest split
        cases done with
        | nil => exact now
        | cons first done => cases split; exact ih.mp later done rest rfl
      · intro always
        refine ⟨always [] _ rfl, ih.mpr ?_⟩
        intro done rest split
        exact always (operation :: done) rest (by rw [split]; rfl)

theorem Always.mono {good weaker : σ → Prop} {state : σ} {operations : List ω}
    (always : Always step good state operations) (weaken : ∀ state, good state → weaker state) :
    Always step weaker state operations := by
  induction operations generalizing state with
  | nil => exact weaken state always
  | cons operation operations ih => exact ⟨weaken state always.1, ih always.2⟩

theorem Always.last {good : σ → Prop} {state : σ} {operations : List ω}
    (always : Always step good state operations) : good (operations.foldl step state) :=
  always_iff_split.mp always operations [] (by simp)

theorem steps_of_forall {allowed : σ → ω → Prop} {operations : List ω}
    (all : ∀ state, ∀ operation ∈ operations, allowed state operation) (state : σ) :
    Steps step allowed state operations := by
  induction operations generalizing state with
  | nil => trivial
  | cons operation operations ih =>
      exact ⟨all state operation List.mem_cons_self,
        ih (fun state other member => all state other (List.mem_cons_of_mem _ member)) _⟩

/-- An operation may be refused if it is the last one. -/
theorem steps_dropLast_cons {allowed : σ → ω → Prop} {state : σ} {operation : ω}
    {rest : List ω} :
    Steps step allowed state (operation :: rest).dropLast ↔
      (¬ allowed state operation → rest = []) ∧
        Steps step allowed (step state operation) rest.dropLast := by
  cases rest with
  | nil => exact iff_of_true trivial ⟨fun _ => rfl, trivial⟩
  | cons next rest =>
      rw [List.dropLast_cons_of_ne_nil (List.cons_ne_nil next rest)]
      simp [Steps]

/-- The invariant rule, for runs whose operations are all allowed. -/
theorem always_of_invariant {invariant : σ → Prop} {allowed : σ → ω → Prop}
    (keeps : ∀ state operation, invariant state → allowed state operation →
      invariant (step state operation))
    {state : σ} {operations : List ω} (start : invariant state)
    (steps : Steps step allowed state operations) : Always step invariant state operations := by
  induction operations generalizing state with
  | nil => exact start
  | cons operation operations ih =>
      exact ⟨start, ih (keeps state operation start steps.1) steps.2⟩

/-- In a run whose operations are all allowed, each of them has what an allowed
operation has in a state of the invariant. -/
theorem steps_of_invariant {invariant : σ → Prop} {allowed wanted : σ → ω → Prop}
    (keeps : ∀ state operation, invariant state → allowed state operation →
      invariant (step state operation))
    (gives : ∀ state operation, invariant state → allowed state operation →
      wanted state operation)
    {state : σ} {operations : List ω} (start : invariant state)
    (steps : Steps step allowed state operations) : Steps step wanted state operations := by
  induction operations generalizing state with
  | nil => trivial
  | cons operation operations ih =>
      exact ⟨gives state operation start steps.1, ih (keeps state operation start steps.1) steps.2⟩

theorem always_of_inductive {invariant : σ → Prop}
    (keeps : ∀ state operation, invariant state → invariant (step state operation))
    {state : σ} (start : invariant state) (operations : List ω) :
    Always step invariant state operations := by
  induction operations generalizing state with
  | nil => exact start
  | cons operation operations ih => exact ⟨start, ih (keeps state operation start)⟩

theorem foldl_of_inductive {invariant : σ → Prop}
    (keeps : ∀ state operation, invariant state → invariant (step state operation))
    {state : σ} (start : invariant state) (operations : List ω) :
    invariant (operations.foldl step state) :=
  (always_of_inductive keeps start operations).last

/-- The exact condition for a run to stay good: the allowed operations keep an
invariant that is good, and an operation that is not allowed ends the good. -/
theorem always_iff_steps {invariant good : σ → Prop} {allowed : σ → ω → Prop}
    (implies : ∀ state, invariant state → good state)
    (keeps : ∀ state operation, invariant state → allowed state operation →
      invariant (step state operation))
    (breaks : ∀ state operation, invariant state → ¬ allowed state operation →
      ¬ good (step state operation))
    {state : σ} {operations : List ω} (start : invariant state) :
    Always step good state operations ↔ Steps step allowed state operations := by
  constructor
  · intro always
    induction operations generalizing state with
    | nil => trivial
    | cons operation operations ih =>
        have now : allowed state operation := by
          by_contra refused
          exact breaks state operation start refused
            (always_iff_split.mp always.2 [] operations rfl)
        exact ⟨now, ih (keeps state operation start now) always.2⟩
  · intro steps
    exact (always_of_invariant keeps start steps).mono implies

/-- The same for runs whose operations all meet an assumption. -/
theorem always_iff_steps_of {invariant good : σ → Prop} {assumed allowed : σ → ω → Prop}
    (implies : ∀ state, invariant state → good state)
    (keeps : ∀ state operation, invariant state → assumed state operation →
      allowed state operation → invariant (step state operation))
    (breaks : ∀ state operation, invariant state → assumed state operation →
      ¬ allowed state operation → ¬ good (step state operation))
    {state : σ} {operations : List ω} (start : invariant state)
    (given : Steps step assumed state operations) :
    Always step good state operations ↔ Steps step allowed state operations := by
  induction operations generalizing state with
  | nil => exact iff_of_true (implies state start) trivial
  | cons operation operations ih =>
      constructor
      · rintro ⟨-, later⟩
        have now : allowed state operation := by
          by_contra refused
          exact breaks state operation start given.1 refused
            (always_iff_split.mp later [] operations rfl)
        exact ⟨now, (ih (keeps state operation start given.1 now) given.2).mp later⟩
      · rintro ⟨now, later⟩
        have next := keeps state operation start given.1 now
        exact ⟨implies state start, (ih next given.2).mpr later⟩

theorem steps_and {first second : σ → ω → Prop} {state : σ} {operations : List ω}
    (steps : Steps step first state operations) (others : Steps step second state operations) :
    Steps step (fun state operation => first state operation ∧ second state operation) state
      operations := by
  induction operations generalizing state with
  | nil => trivial
  | cons operation operations ih => exact ⟨⟨steps.1, others.1⟩, ih steps.2 others.2⟩

/-- A run that meets an operation that is not allowed is doomed from then on. -/
theorem doomed_of_not_steps {invariant doomed : σ → Prop} {allowed : σ → ω → Prop}
    (keeps : ∀ state operation, invariant state → allowed state operation →
      invariant (step state operation))
    (breaks : ∀ state operation, invariant state → ¬ allowed state operation →
      doomed (step state operation))
    (stays : ∀ state operation, doomed state → doomed (step state operation))
    {state : σ} {operations : List ω} (start : invariant state)
    (refused : ¬ Steps step allowed state operations) : doomed (operations.foldl step state) := by
  induction operations generalizing state with
  | nil => exact absurd trivial refused
  | cons operation operations ih =>
      by_cases now : allowed state operation
      · exact ih (keeps state operation start now) fun later => refused ⟨now, later⟩
      · exact foldl_of_inductive stays (breaks state operation start now) operations

section Replies

variable {τ ρ : Type} {reply : σ → ω → ρ} {other : τ → ω → τ} {otherReply : τ → ω → ρ}
  {view : σ → τ}

def replies (step : σ → ω → σ) (reply : σ → ω → ρ) : σ → List ω → List ρ
  | _, [] => []
  | state, operation :: rest => reply state operation :: replies step reply (step state operation) rest

theorem replies_map
    (commutes : ∀ state operation, other (view state) operation = view (step state operation))
    (agrees : ∀ state operation, otherReply (view state) operation = reply state operation)
    (state : σ) (operations : List ω) :
    replies other otherReply (view state) operations = replies step reply state operations := by
  induction operations generalizing state with
  | nil => rfl
  | cons operation operations ih => rw [replies, replies, agrees, commutes, ih]

/-- Two systems return the same as long as every operation is one on which they agree. -/
theorem replies_eq_iff {υ : Type} {ask : ω → υ} {other : τ → υ → τ} {otherReply : τ → υ → ρ}
    {related : σ → τ → Prop} {possible : ω → Prop} {alike : σ → ω → Prop}
    (agrees : ∀ state seen operation, related state seen → possible operation →
      (reply state operation = otherReply seen (ask operation) ↔ alike state operation))
    (keeps : ∀ state seen operation, related state seen → possible operation →
      alike state operation → related (step state operation) (other seen (ask operation)))
    {state : σ} {seen : τ} {operations : List ω} (start : related state seen)
    (all : ∀ operation ∈ operations, possible operation) :
    replies step reply state operations = replies other otherReply seen (operations.map ask) ↔
      Steps step alike state operations := by
  induction operations generalizing state seen with
  | nil => exact iff_of_true rfl trivial
  | cons operation operations ih =>
      have now := all operation List.mem_cons_self
      have later := fun other member => all other (List.mem_cons_of_mem operation member)
      rw [replies, List.map_cons, replies, List.cons.injEq,
        agrees state seen operation start now]
      exact and_congr_right fun same => ih (keeps state seen operation start now same) later

theorem steps_map {allowed : σ → ω → Prop} {permitted : τ → ω → Prop}
    (commutes : ∀ state operation, other (view state) operation = view (step state operation))
    (permits : ∀ state operation, allowed state operation → permitted (view state) operation)
    {state : σ} {operations : List ω} (steps : Steps step allowed state operations) :
    Steps other permitted (view state) operations := by
  induction operations generalizing state with
  | nil => trivial
  | cons operation operations ih =>
      refine ⟨permits state operation steps.1, ?_⟩
      rw [commutes]
      exact ih steps.2

end Replies

/-! One system on top of another: each of its steps is a run of the one below. -/

section Layers

variable {τ π : Type} {lower : σ → ω → List π} {other : τ → π → τ} {below : σ → τ}

/-- What a run asks of the system below. -/
def lowered (step : σ → ω → σ) (lower : σ → ω → List π) : σ → List ω → List π
  | _, [] => []
  | state, operation :: rest =>
      lower state operation ++ lowered step lower (step state operation) rest

/-- What does not depend on the state is asked for operation by operation. -/
theorem lowered_eq_flatMap (lower : ω → List π) (state : σ) (operations : List ω) :
    lowered step (fun _ operation => lower operation) state operations =
      operations.flatMap lower := by
  induction operations generalizing state with
  | nil => rfl
  | cons operation operations ih => rw [lowered, ih, List.flatMap_cons]

theorem below_foldl
    (steps : ∀ state operation,
      below (step state operation) = (lower state operation).foldl other (below state))
    (state : σ) (operations : List ω) :
    below (operations.foldl step state) =
      (lowered step lower state operations).foldl other (below state) := by
  induction operations generalizing state with
  | nil => rfl
  | cons operation operations ih =>
      rw [List.foldl_cons, lowered, List.foldl_append, ← steps, ih]

theorem steps_append {allowed : σ → ω → Prop} {state : σ} {first second : List ω} :
    Steps step allowed state (first ++ second) ↔
      Steps step allowed state first ∧ Steps step allowed (first.foldl step state) second := by
  induction first generalizing state with
  | nil => simp [Steps]
  | cons operation first ih => simp [Steps, ih, and_assoc]

/-- The system below is used as it allows, when each step of the one above does so. -/
theorem steps_lowered {invariant : σ → Prop} {allowed : σ → ω → Prop} {permitted : τ → π → Prop}
    (steps : ∀ state operation,
      below (step state operation) = (lower state operation).foldl other (below state))
    (keeps : ∀ state operation, invariant state → allowed state operation →
      invariant (step state operation))
    (permits : ∀ state operation, invariant state → allowed state operation →
      Steps other permitted (below state) (lower state operation))
    {state : σ} {operations : List ω} (start : invariant state)
    (all : Steps step allowed state operations) :
    Steps other permitted (below state) (lowered step lower state operations) := by
  induction operations generalizing state with
  | nil => trivial
  | cons operation operations ih =>
      refine steps_append.mpr ⟨permits state operation start all.1, ?_⟩
      rw [← steps]
      exact ih (keeps state operation start all.1) all.2

end Layers

end Runs

end SocketCpp.Data
