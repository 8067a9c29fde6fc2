import Mathlib.Data.List.Basic

namespace SocketCpp.Data

/-! Histories of events, newest first.

A history is an ordinary list.  `Each` speaks about every event together with
what had happened before it, and `Extends` says that one history continues
another with events of one kind only; it is the frame rule for everything that
is computed from a history. -/

variable {ε β : Type}

def Each (holds : ε → List ε → Prop) : List ε → Prop
  | [] => True
  | event :: earlier => holds event earlier ∧ Each holds earlier

/-- What a history has added to an earlier one. -/
def since (before after : List ε) : List ε :=
  after.take (after.length - before.length)

instance Each.decidable {holds : ε → List ε → Prop}
    [∀ event earlier, Decidable (holds event earlier)] :
    (history : List ε) → Decidable (Each holds history)
  | [] => .isTrue trivial
  | event :: earlier =>
      have := @Each.decidable holds _ earlier
      inferInstanceAs (Decidable (holds event earlier ∧ Each holds earlier))

theorem Each.of_append {holds : ε → List ε → Prop} {later earlier : List ε}
    (each : Each holds (later ++ earlier)) : Each holds earlier := by
  induction later with
  | nil => exact each
  | cons event later ih => exact ih each.2

@[simp] theorem since_append (added before : List ε) : since before (added ++ before) = added := by
  simp [since]

@[simp] theorem since_self (history : List ε) : since history history = [] :=
  since_append [] history

/-- `after` continues `before`, and every added event is a `kind` event. -/
def Extends (kind : ε → Prop) (before after : List ε) : Prop :=
  ∃ added, after = added ++ before ∧ ∀ event ∈ added, kind event

namespace Extends

variable {kind wider : ε → Prop} {before middle after : List ε}

theorem refl (kind : ε → Prop) (history : List ε) : Extends kind history history :=
  ⟨[], rfl, by simp⟩

theorem cons (rest : Extends kind before after) (event : ε) (one : kind event) :
    Extends kind before (event :: after) := by
  obtain ⟨added, rfl, kinds⟩ := rest
  refine ⟨event :: added, rfl, ?_⟩
  intro other member
  rcases List.mem_cons.mp member with rfl | member
  · exact one
  · exact kinds other member

theorem trans (first : Extends kind before middle) (second : Extends kind middle after) :
    Extends kind before after := by
  obtain ⟨old, rfl, oldKinds⟩ := first
  obtain ⟨new, rfl, newKinds⟩ := second
  refine ⟨new ++ old, by simp, ?_⟩
  intro event member
  rcases List.mem_append.mp member with member | member
  · exact newKinds event member
  · exact oldKinds event member

theorem append_iff {added history : List ε} :
    Extends kind history (added ++ history) ↔ ∀ event ∈ added, kind event := by
  constructor
  · rintro ⟨other, same, kinds⟩
    obtain rfl := List.append_cancel_right same
    exact kinds
  · exact fun kinds => ⟨added, rfl, kinds⟩

theorem cons_iff {event : ε} {history : List ε} :
    Extends kind history (event :: history) ↔ kind event := by
  rw [← List.singleton_append, append_iff]
  simp

theorem nil_iff {history : List ε} :
    Extends kind [] history ↔ ∀ event ∈ history, kind event := by
  constructor
  · rintro ⟨added, rfl, kinds⟩
    rwa [List.append_nil]
  · exact fun kinds => ⟨history, (List.append_nil history).symm, kinds⟩

/-- Two stretches hold `kind` events only when each of them does. -/
theorem trans_iff {one other : ε → Prop} (first : Extends one before middle)
    (second : Extends other middle after) :
    Extends kind before after ↔ Extends kind before middle ∧ Extends kind middle after := by
  obtain ⟨old, rfl, -⟩ := first
  obtain ⟨new, rfl, -⟩ := second
  rw [← List.append_assoc, append_iff, List.append_assoc, append_iff, append_iff,
    List.forall_mem_append]
  exact and_comm

theorem iff_since (extended : Extends wider before after) :
    Extends kind before after ↔ ∀ event ∈ since before after, kind event := by
  obtain ⟨added, rfl, -⟩ := extended
  rw [append_iff, since_append]

/-- What one event and then only `kind` ones add. -/
theorem since_eq {event : ε} (extended : Extends kind (event :: before) after) :
    ∃ later, since before after = later ++ [event] ∧ ∀ other ∈ later, kind other := by
  obtain ⟨later, rfl, kinds⟩ := extended
  refine ⟨later, ?_, kinds⟩
  rw [← List.singleton_append, ← List.append_assoc, since_append]

theorem forall_since_iff {event : ε} (extended : Extends kind (event :: before) after)
    (implies : ∀ other, kind other → wider other) :
    (∀ other ∈ since before after, wider other) ↔ wider event := by
  obtain ⟨later, added, kinds⟩ := extended.since_eq
  rw [added, List.forall_mem_append, List.forall_mem_singleton]
  exact and_iff_right fun other member => implies other (kinds other member)

theorem mono (extended : Extends kind before after)
    (weaken : ∀ event, kind event → wider event) : Extends wider before after := by
  obtain ⟨added, rfl, kinds⟩ := extended
  exact ⟨added, rfl, fun event member => weaken event (kinds event member)⟩

/-- A quantity that no `kind` event changes is the same before and after. -/
theorem view_eq (extended : Extends kind before after) (view : List ε → β)
    (unchanged : ∀ event earlier, kind event → view (event :: earlier) = view earlier) :
    view after = view before := by
  obtain ⟨added, rfl, kinds⟩ := extended
  induction added with
  | nil => rfl
  | cons event added ih =>
      exact (unchanged event _ (kinds event (by simp))).trans
        (ih fun other member => kinds other (by simp [member]))

theorem keeps {invariant : List ε → Prop} (extended : Extends kind before after)
    (start : invariant before)
    (step : ∀ event earlier, kind event → invariant earlier → invariant (event :: earlier)) :
    invariant after := by
  obtain ⟨added, rfl, kinds⟩ := extended
  induction added with
  | nil => exact start
  | cons event added ih =>
      have rest := ih fun other member => kinds other (List.mem_cons_of_mem event member)
      exact step event _ (kinds event (by simp)) rest

theorem each {holds : ε → List ε → Prop} (extended : Extends kind before after)
    (start : Each holds before)
    (added : ∀ event earlier, kind event → Extends kind before earlier → holds event earlier) :
    Each holds after := by
  obtain ⟨events, rfl, kinds⟩ := extended
  induction events with
  | nil => exact start
  | cons event events ih =>
      have rest := fun other member => kinds other (List.mem_cons_of_mem event member)
      exact ⟨added event _ (kinds event (by simp)) ⟨events, rfl, rest⟩, ih rest⟩

end Extends

/-- What holds of every event that a history adds, together with what was before it. -/
def EachSince (holds : ε → List ε → Prop) (before : List ε) : List ε → Prop
  | [] => True
  | event :: added => holds event (added ++ before) ∧ EachSince holds before added

/-- `after` continues `before`, and every added event has what `holds` says. -/
def Continues (holds : ε → List ε → Prop) (before after : List ε) : Prop :=
  ∃ added, after = added ++ before ∧ EachSince holds before added

namespace Continues

variable {kind : ε → Prop} {holds : ε → List ε → Prop} {before middle after : List ε}

theorem cons (rest : Continues holds before after) (event : ε) (one : holds event after) :
    Continues holds before (event :: after) := by
  obtain ⟨added, rfl, each⟩ := rest
  exact ⟨event :: added, rfl, one, each⟩

theorem trans (first : Continues holds before middle) (second : Continues holds middle after) :
    Continues holds before after := by
  obtain ⟨added, rfl, each⟩ := second
  induction added with
  | nil => exact first
  | cons event added ih => exact (ih each.2).cons event each.1

theorem of_extends (extended : Extends kind before after)
    (each : ∀ event earlier, kind event → holds event earlier) : Continues holds before after := by
  obtain ⟨added, rfl, kinds⟩ := extended
  induction added with
  | nil => exact ⟨[], rfl, trivial⟩
  | cons event added ih =>
      have rest := ih fun other member => kinds other (List.mem_cons_of_mem event member)
      exact rest.cons event (each event _ (kinds event List.mem_cons_self))

end Continues

end SocketCpp.Data
