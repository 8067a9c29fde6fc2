import SocketCpp.Data.Ledger

namespace SocketCpp.Data

/-! One provider of resources and several owners.

The calls of the owners interleave in one history, newest first.  Each owner keeps to
what it got itself, and the provider hands out what nobody holds; then the owners
cannot get in each other's way, and the history as a whole is one disciplined ledger. -/

namespace Ledger

/-! What a ledger does next to resources that are none of its own. -/

section Frame

variable {α : Type} [DecidableEq α] {added own whole : List (Event α)} {others : α → Prop}

theorem mem_held_append {handle : α} (member : handle ∈ held (added ++ own)) :
    handle ∈ held own ∨ .acquire handle ∈ added := by
  induction added with
  | nil => exact .inl member
  | cons event added ih =>
      have later (before : handle ∈ held (added ++ own)) :
          handle ∈ held own ∨ .acquire handle ∈ event :: added :=
        (ih before).imp_right (List.mem_cons_of_mem event)
      cases event with
      | acquire other =>
          rcases Finset.mem_insert.mp member with rfl | before
          · exact .inr List.mem_cons_self
          · exact later before
      | touch other => exact later member
      | release other => exact later (Finset.mem_of_mem_erase member)

theorem held_frame (apart : ∀ event ∈ added, ¬ others event.handle)
    (split : ∀ handle, handle ∈ held whole ↔ handle ∈ held own ∨ others handle) (handle : α) :
    handle ∈ held (added ++ whole) ↔ handle ∈ held (added ++ own) ∨ others handle := by
  induction added with
  | nil => exact split handle
  | cons event added ih =>
      obtain ⟨now, later⟩ := List.forall_mem_cons.mp apart
      have before := ih later
      cases event with
      | acquire other =>
          simp only [List.cons_append, held_acquire, Finset.mem_insert, before, or_assoc]
      | touch other => exact before
      | release other =>
          have distinct (outside : others handle) : handle ≠ other := by
            rintro rfl
            exact now outside
          simp only [List.cons_append, held_release, Finset.mem_erase, before]
          tauto

theorem disciplined_frame (apart : ∀ event ∈ added, ¬ others event.handle)
    (split : ∀ handle, handle ∈ held whole ↔ handle ∈ held own ∨ others handle)
    (disciplined : Disciplined (added ++ own)) (before : Disciplined whole) :
    Disciplined (added ++ whole) := by
  induction added with
  | nil => exact before
  | cons event added ih =>
      obtain ⟨now, later⟩ := List.forall_mem_cons.mp apart
      refine ⟨?_, ih later disciplined.2⟩
      have permitted := disciplined.1
      have framed := held_frame later split event.handle
      cases event with
      | acquire handle => exact fun held => (framed.mp held).elim permitted now
      | touch handle => exact framed.mpr (.inl permitted)
      | release handle => exact framed.mpr (.inl permitted)

end Frame

variable {ι α ε : Type} [DecidableEq ι]

/-- The calls of one owner. -/
def callsOf (owner : ι) (history : List (ι × ε)) : List ε :=
  (history.filter fun entry => entry.1 = owner).map Prod.snd

@[simp] theorem callsOf_self (owner : ι) (call : ε) (earlier : List (ι × ε)) :
    callsOf owner ((owner, call) :: earlier) = call :: callsOf owner earlier := by
  simp [callsOf]

theorem callsOf_other {owner other : ι} (different : other ≠ owner) (call : ε)
    (earlier : List (ι × ε)) :
    callsOf owner ((other, call) :: earlier) = callsOf owner earlier := by
  simp [callsOf, different]

variable [DecidableEq α] {events : ε → List (Event α)} {history : List (ι × ε)}

def heldBy (events : ε → List (Event α)) (owner : ι) (history : List (ι × ε)) : Finset α :=
  held (entries events (callsOf owner history))

/-- What is handed out is held by nobody. -/
def Provided (events : ε → List (Event α)) : List (ι × ε) → Prop :=
  Each fun entry earlier => ∀ event ∈ events entry.2, event.acquires = true →
    ∀ owner, event.handle ∉ heldBy events owner earlier

/-- What a call acquires, uses or releases is held by no other owner. -/
def Apart (events : ε → List (Event α)) : List (ι × ε) → Prop :=
  Each fun entry earlier => ∀ event ∈ events entry.2, ∀ owner, owner ≠ entry.1 →
    event.handle ∉ heldBy events owner earlier

theorem heldBy_cons {owner caller : ι} {call : ε} {handle : α}
    (member : handle ∈ heldBy events owner ((caller, call) :: history)) :
    handle ∈ heldBy events owner history ∨ caller = owner ∧ .acquire handle ∈ events call := by
  by_cases same : caller = owner
  · subst same
    rw [heldBy, callsOf_self, entries_cons] at member
    exact (mem_held_append member).imp_right fun acquired => ⟨rfl, acquired⟩
  · rw [heldBy, callsOf_other same] at member
    exact .inl member

theorem heldBy_disjoint (provided : Provided events history) {first second : ι}
    (different : first ≠ second) :
    Disjoint (heldBy events first history) (heldBy events second history) := by
  induction history with
  | nil => exact Finset.disjoint_empty_left _
  | cons entry earlier ih =>
      have before := Finset.disjoint_left.mp (ih provided.2)
      refine Finset.disjoint_left.mpr fun handle inFirst inSecond => ?_
      rcases heldBy_cons inFirst with keptFirst | ⟨isFirst, acquired⟩
      · rcases heldBy_cons inSecond with keptSecond | ⟨-, acquired⟩
        · exact before keptFirst keptSecond
        · exact provided.1 (.acquire handle) acquired rfl first keptFirst
      · rcases heldBy_cons inSecond with keptSecond | ⟨isSecond, -⟩
        · exact provided.1 (.acquire handle) acquired rfl second keptSecond
        · exact different (isFirst.symm.trans isSecond)

/-- A call of a disciplined owner concerns no other one. -/
theorem apart_call {owner caller : ι} {call : ε}
    (disciplined : Disciplined (events call ++ entries events (callsOf caller history)))
    (provided : Provided events ((caller, call) :: history)) (different : owner ≠ caller) :
    ∀ event ∈ events call, event.handle ∉ heldBy events owner history := by
  intro event member
  obtain ⟨later, rest, split⟩ := List.append_of_mem member
  have acquired {handle : α} (new : .acquire handle ∈ events call) :
      handle ∉ heldBy events owner history :=
    provided.1 (.acquire handle) new rfl owner
  have used {handle : α}
      (member : handle ∈ held (rest ++ entries events (callsOf caller history))) :
      handle ∉ heldBy events owner history := by
    rcases mem_held_append member with before | new
    · exact Finset.disjoint_left.mp (heldBy_disjoint provided.2 different.symm) before
    · refine acquired ?_
      rw [split]
      exact List.mem_append_right _ (List.mem_cons_of_mem _ new)
  have permitted : event.Permitted (held (rest ++ entries events (callsOf caller history))) := by
    rw [split, List.append_assoc] at disciplined
    exact (Each.of_append disciplined).1
  cases event with
  | acquire handle => exact acquired member
  | touch handle => exact used permitted
  | release handle => exact used permitted

/-- Owners that are each disciplined stay apart, and together they are disciplined. -/
theorem shared (disciplined : ∀ owner, Disciplined (entries events (callsOf owner history)))
    (provided : Provided events history) :
    Apart events history ∧
      Disciplined (entries (fun entry : ι × ε => events entry.2) history) ∧
      ∀ handle, handle ∈ held (entries (fun entry : ι × ε => events entry.2) history) ↔
        ∃ owner, handle ∈ heldBy events owner history := by
  induction history with
  | nil => simp [Apart, Each, heldBy, callsOf]
  | cons entry earlier ih =>
      obtain ⟨caller, call⟩ := entry
      have own : Disciplined (events call ++ entries events (callsOf caller earlier)) := by
        simpa using disciplined caller
      obtain ⟨apart, whole, split⟩ := ih (fun owner => by
        by_cases same : caller = owner
        · subst same
          exact Each.of_append own
        · simpa [callsOf_other same] using disciplined owner) provided.2
      have away {owner : ι} (different : owner ≠ caller) :=
        apart_call own provided different
      have others : ∀ event ∈ events call,
          ¬ ∃ owner, owner ≠ caller ∧ event.handle ∈ heldBy events owner earlier :=
        fun event member ⟨owner, different, held⟩ => away different event member held
      have parts (handle : α) :
          handle ∈ held (entries (fun entry : ι × ε => events entry.2) earlier) ↔
            handle ∈ held (entries events (callsOf caller earlier)) ∨
              ∃ owner, owner ≠ caller ∧ handle ∈ heldBy events owner earlier := by
        rw [split]
        constructor
        · rintro ⟨owner, held⟩
          by_cases same : owner = caller
          · exact .inl (same ▸ held)
          · exact .inr ⟨owner, same, held⟩
        · rintro (held | ⟨owner, -, held⟩)
          · exact ⟨caller, held⟩
          · exact ⟨owner, held⟩
      refine ⟨⟨fun event member owner different => away different event member, apart⟩, ?_, ?_⟩
      · rw [entries_cons]
        exact disciplined_frame others parts own whole
      · intro handle
        rw [entries_cons, held_frame others parts handle]
        constructor
        · rintro (held | ⟨owner, different, held⟩)
          · exact ⟨caller, by simpa [heldBy] using held⟩
          · exact ⟨owner, by simpa [heldBy, callsOf_other different.symm] using held⟩
        · rintro ⟨owner, held⟩
          by_cases same : owner = caller
          · subst same
            exact .inl (by simpa [heldBy] using held)
          · refine .inr ⟨owner, same, ?_⟩
            simpa [heldBy, callsOf_other (Ne.symm same)] using held

end Ledger

end SocketCpp.Data
