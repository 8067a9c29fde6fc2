import Mathlib.Data.Finset.Lattice.Fold
import Mathlib.Order.Lattice.Nat
import SocketCpp.Data.History

namespace SocketCpp.Data

/-! A ledger of resources that are acquired, used and released by handle.

The provider may hand out a handle again once it has been released, so a handle
names a resource only while it is held.  A history is disciplined when it
releases and uses only what is held: then nothing is released twice and nothing
is used after its release. -/

namespace Ledger

variable {α ε : Type}

inductive Event (α : Type) where
  | acquire (handle : α)
  | touch (handle : α)
  | release (handle : α)
deriving DecidableEq, Repr

def Event.acquires : Event α → Bool
  | .acquire _ => true
  | _ => false

def Event.handle : Event α → α
  | .acquire handle | .touch handle | .release handle => handle

/-! Acquisitions and releases alone, for histories that may also use what is not held. -/

def Event.lasting : Event α → Bool
  | .touch _ => false
  | _ => true

def lifetime (history : List (Event α)) : List (Event α) :=
  history.filter Event.lasting

@[simp] theorem lifetime_nil : lifetime ([] : List (Event α)) = [] := rfl

@[simp] theorem lifetime_acquire (handle : α) (earlier : List (Event α)) :
    lifetime (.acquire handle :: earlier) = .acquire handle :: lifetime earlier := rfl

@[simp] theorem lifetime_touch (handle : α) (earlier : List (Event α)) :
    lifetime (.touch handle :: earlier) = lifetime earlier := rfl

@[simp] theorem lifetime_release (handle : α) (earlier : List (Event α)) :
    lifetime (.release handle :: earlier) = .release handle :: lifetime earlier := rfl

section

variable [DecidableEq α]

def Event.apply (held : Finset α) : Event α → Finset α
  | .acquire handle => insert handle held
  | .touch _ => held
  | .release handle => held.erase handle

def held : List (Event α) → Finset α
  | [] => ∅
  | event :: earlier => event.apply (held earlier)

def Event.Permitted (held : Finset α) : Event α → Prop
  | .acquire handle => handle ∉ held
  | .touch handle => handle ∈ held
  | .release handle => handle ∈ held

def Disciplined (history : List (Event α)) : Prop :=
  Each (fun event earlier => event.Permitted (held earlier)) history

/-- Which acquisition a held handle stands for: the number of events before it.
Two resources that were given the same handle one after the other differ here. -/
def identity (handle : α) : List (Event α) → Option Nat
  | [] => none
  | .acquire other :: earlier =>
      if other = handle then some earlier.length else identity handle earlier
  | .touch _ :: earlier => identity handle earlier
  | .release other :: earlier => if other = handle then none else identity handle earlier

@[simp] theorem held_nil : held ([] : List (Event α)) = ∅ := rfl

@[simp] theorem held_acquire (handle : α) (earlier : List (Event α)) :
    held (.acquire handle :: earlier) = insert handle (held earlier) := rfl

@[simp] theorem held_touch (handle : α) (earlier : List (Event α)) :
    held (.touch handle :: earlier) = held earlier := rfl

@[simp] theorem held_release (handle : α) (earlier : List (Event α)) :
    held (.release handle :: earlier) = (held earlier).erase handle := rfl

@[simp] theorem disciplined_nil : Disciplined ([] : List (Event α)) := trivial

@[simp] theorem disciplined_acquire (handle : α) (earlier : List (Event α)) :
    Disciplined (.acquire handle :: earlier) ↔
      handle ∉ held earlier ∧ Disciplined earlier := Iff.rfl

@[simp] theorem disciplined_touch (handle : α) (earlier : List (Event α)) :
    Disciplined (.touch handle :: earlier) ↔
      handle ∈ held earlier ∧ Disciplined earlier := Iff.rfl

@[simp] theorem disciplined_release (handle : α) (earlier : List (Event α)) :
    Disciplined (.release handle :: earlier) ↔
      handle ∈ held earlier ∧ Disciplined earlier := Iff.rfl

theorem identity_isSome_iff {handle : α} {history : List (Event α)} :
    (identity handle history).isSome ↔ handle ∈ held history := by
  induction history with
  | nil => simp [identity]
  | cons event earlier ih =>
      cases event with
      | acquire other =>
          by_cases same : other = handle
          · simp [identity, same]
          · simp [identity, same, Ne.symm same, ih]
      | touch other => simpa [identity] using ih
      | release other =>
          by_cases same : other = handle
          · simp [identity, same]
          · simp [identity, same, Ne.symm same, ih]

theorem identity_lt {handle : α} {history : List (Event α)} {position : Nat}
    (found : identity handle history = some position) : position < history.length := by
  induction history with
  | nil => simp [identity] at found
  | cons event earlier ih =>
      rw [List.length_cons]
      cases event with
      | acquire other =>
          simp only [identity] at found
          split at found
          · cases found; omega
          · exact Nat.lt_succ_of_lt (ih found)
      | touch other => exact Nat.lt_succ_of_lt (ih found)
      | release other =>
          simp only [identity] at found
          split at found
          · contradiction
          · exact Nat.lt_succ_of_lt (ih found)

/-- An acquisition stands for one handle only. -/
theorem identity_inj {first second : α} {history : List (Event α)} {position : Nat}
    (found : identity first history = some position)
    (foundToo : identity second history = some position) : first = second := by
  induction history with
  | nil => cases found
  | cons event earlier ih =>
      cases event with
      | acquire other =>
          simp only [identity] at found foundToo
          split_ifs at found foundToo with isFirst isSecond isSecond
          · exact isFirst.symm.trans isSecond
          · cases found
            exact absurd (identity_lt foundToo) (Nat.lt_irrefl _)
          · cases foundToo
            exact absurd (identity_lt found) (Nat.lt_irrefl _)
          · exact ih found foundToo
      | touch other => exact ih found foundToo
      | release other =>
          simp only [identity] at found foundToo
          split_ifs at found foundToo
          exact ih found foundToo

/-- A held handle stands for what it stood for before, or has been acquired since. -/
theorem identity_append_cases {added earlier : List (Event α)} {handle : α} {position : Nat}
    (found : identity handle (added ++ earlier) = some position) :
    earlier.length ≤ position ∨ identity handle earlier = some position := by
  induction added with
  | nil => exact .inr found
  | cons event added ih =>
      cases event with
      | acquire other =>
          simp only [List.cons_append, identity] at found
          split at found
          · cases found
            exact .inl (by rw [List.length_append]; exact Nat.le_add_left _ _)
          · exact ih found
      | touch other => exact ih found
      | release other =>
          simp only [List.cons_append, identity] at found
          split at found
          · contradiction
          · exact ih found

/-- In a disciplined history the releases of a handle are paired with its
acquisitions, except for the acquisition it is held by now. -/
theorem Disciplined.count_release {history : List (Event α)} (disciplined : Disciplined history)
    (handle : α) :
    history.count (.release handle) + (if handle ∈ held history then 1 else 0) =
      history.count (.acquire handle) := by
  induction history with
  | nil => simp
  | cons event earlier ih =>
      have before := ih disciplined.2
      have permitted := disciplined.1
      cases event with
      | acquire other =>
          by_cases same : handle = other
          · subst same
            have absent : handle ∉ held earlier := permitted
            rw [if_neg absent] at before
            simp [← before]
          · by_cases member : handle ∈ held earlier <;>
              simp [same, Ne.symm same, member] at before ⊢ <;> omega
      | touch other =>
          rw [held_touch, List.count_cons_of_ne (by simp), List.count_cons_of_ne (by simp)]
          exact before
      | release other =>
          by_cases same : handle = other
          · subst same
            have present : handle ∈ held earlier := permitted
            rw [if_pos present] at before
            simp [← before]
          · by_cases member : handle ∈ held earlier <;>
              simp [same, Ne.symm same, member] at before ⊢ <;> omega

theorem Disciplined.releases_le {history : List (Event α)} (disciplined : Disciplined history)
    (handle : α) : history.count (.release handle) ≤ history.count (.acquire handle) := by
  have paired := disciplined.count_release handle
  omega

@[simp] theorem held_lifetime (history : List (Event α)) : held (lifetime history) = held history := by
  induction history with
  | nil => rfl
  | cons event earlier ih =>
      cases event with
      | acquire handle => simp [ih]
      | touch handle => simpa using ih
      | release handle => simp [ih]

/-- Once nothing is held any more, every acquisition has been released once. -/
theorem Disciplined.count_of_empty {history : List (Event α)} (disciplined : Disciplined history)
    (empty : held history = ∅) (handle : α) :
    history.count (.release handle) = history.count (.acquire handle) := by
  have paired := disciplined.count_release handle
  simpa [empty] using paired

end

/-! Ledgers kept by the calls of a larger history. -/

section Calls

variable (events : ε → List (Event α))

def entries (history : List ε) : List (Event α) :=
  history.flatMap events

@[simp] theorem entries_nil : entries events [] = [] := rfl

@[simp] theorem entries_cons (call : ε) (earlier : List ε) :
    entries events (call :: earlier) = events call ++ entries events earlier := by
  simp [entries]

theorem entries_append (later earlier : List ε) :
    entries events (later ++ earlier) = entries events later ++ entries events earlier := by
  simp [entries]

variable {events}

theorem entries_eq_of_quiet {before after : List ε}
    (extended : Extends (fun call => events call = []) before after) :
    entries events after = entries events before :=
  extended.view_eq (entries events) fun call earlier quiet => by
    simp [show events call = [] from quiet]

def Touching (events : ε → List (Event α)) (call : ε) : Prop :=
  ∀ event ∈ events call, ∃ handle, event = .touch handle

/-- The call uses none but these resources, and acquires and releases none. -/
def Uses (events : ε → List (Event α)) (handles : Finset α) (call : ε) : Prop :=
  ∀ event ∈ events call, ∃ handle ∈ handles, event = .touch handle

theorem lifetime_append_touching {added earlier : List (Event α)}
    (touching : ∀ event ∈ added, ∃ handle, event = .touch handle) :
    lifetime (added ++ earlier) = lifetime earlier := by
  induction added with
  | nil => rfl
  | cons event added ih =>
      obtain ⟨handle, rfl⟩ := touching event (by simp)
      exact ih fun other member => touching other (by simp [member])

theorem lifetime_of_touching {before after : List ε}
    (extended : Extends (Touching events) before after) :
    lifetime (entries events after) = lifetime (entries events before) :=
  extended.view_eq (fun history => lifetime (entries events history))
    fun call earlier touching => by
      rw [entries_cons, lifetime_append_touching touching]

variable [DecidableEq α]

theorem held_append_touching {added earlier : List (Event α)}
    (touching : ∀ event ∈ added, ∃ handle, event = .touch handle) :
    held (added ++ earlier) = held earlier := by
  induction added with
  | nil => rfl
  | cons event added ih =>
      obtain ⟨handle, rfl⟩ := touching event (by simp)
      exact ih fun other member => touching other (by simp [member])

theorem identity_append_touching {added earlier : List (Event α)} (handle : α)
    (touching : ∀ event ∈ added, ∃ handle, event = .touch handle) :
    identity handle (added ++ earlier) = identity handle earlier := by
  induction added with
  | nil => rfl
  | cons event added ih =>
      obtain ⟨other, rfl⟩ := touching event (by simp)
      exact ih fun other member => touching other (by simp [member])

theorem held_append_congr {first second : List (Event α)} (added : List (Event α))
    (same : held first = held second) : held (added ++ first) = held (added ++ second) := by
  induction added with
  | nil => exact same
  | cons event added ih => exact congrArg event.apply ih

theorem held_of_touching {before after : List ε}
    (extended : Extends (Touching events) before after) :
    held (entries events after) = held (entries events before) :=
  extended.view_eq (fun history => held (entries events history)) fun call earlier touching => by
    rw [entries_cons, held_append_touching touching]

theorem identity_of_touching {before after : List ε} (handle : α)
    (extended : Extends (Touching events) before after) :
    identity handle (entries events after) = identity handle (entries events before) :=
  extended.view_eq (fun history => identity handle (entries events history))
    fun call earlier touching => by
      rw [entries_cons, identity_append_touching handle touching]

theorem disciplined_append_uses {added earlier : List (Event α)}
    (uses : ∀ event ∈ added, ∃ handle ∈ held earlier, event = .touch handle)
    (disciplined : Disciplined earlier) : Disciplined (added ++ earlier) := by
  induction added with
  | nil => exact disciplined
  | cons event added ih =>
      have rest := fun other member => uses other (List.mem_cons_of_mem event member)
      obtain ⟨handle, member, rfl⟩ := uses event (by simp)
      refine ⟨?_, ih rest⟩
      have same : held (added ++ earlier) = held earlier :=
        held_append_touching fun other inAdded =>
          let ⟨used, _, touch⟩ := rest other inAdded
          ⟨used, touch⟩
      change handle ∈ held (added ++ earlier)
      rw [same]
      exact member

theorem disciplined_of_uses {before after : List ε}
    (extended : Extends (Uses events (held (entries events before))) before after)
    (disciplined : Disciplined (entries events before)) : Disciplined (entries events after) := by
  obtain ⟨added, rfl, uses⟩ := extended
  have split :
      entries events (added ++ before) = entries events added ++ entries events before := by
    simp [entries]
  rw [split]
  refine disciplined_append_uses ?_ disciplined
  intro event member
  obtain ⟨call, inAdded, inCall⟩ := List.mem_flatMap.mp member
  exact uses call inAdded event inCall

end Calls

/-! The provider of fresh handles. -/

/-- The number handed out when `named` is asked for: `named` itself if it is
free, and otherwise one above everything held.  Every free number is handed out
for some request. -/
def fresh (held : Finset Nat) (named : Nat) : Nat :=
  if named ∈ held then held.sup id + 1 else named

theorem fresh_not_mem (held : Finset Nat) (named : Nat) : fresh held named ∉ held := by
  unfold fresh
  split
  · intro member
    have bound : held.sup id + 1 ≤ held.sup id := Finset.le_sup (f := id) member
    omega
  · assumption

end Ledger

end SocketCpp.Data
