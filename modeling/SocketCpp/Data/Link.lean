import Mathlib.Algebra.GroupWithZero.Nat
import Mathlib.Data.List.Basic
import Mathlib.Logic.Function.Basic

namespace SocketCpp.Data

/-! Two parties joined by a queue in each direction.

What one party writes the other one reads in the same order, unless it loses some of it,
and what is not read yet is in the queue between them.  A script says who writes how
much, line by line; two parties that follow the same script never wait for each other. -/

inductive Side where
  | left
  | right
deriving DecidableEq, Repr

namespace Side

def other : Side → Side
  | left => right
  | right => left

@[simp] theorem other_other (side : Side) : side.other.other = side := by cases side <;> rfl

@[simp] theorem other_ne (side : Side) : side.other ≠ side := by cases side <;> decide

@[simp] theorem ne_other (side : Side) : side ≠ side.other := side.other_ne.symm

theorem eq_or_other (side place : Side) : place = side ∨ place = side.other := by
  cases side <;> cases place <;> decide

end Side

structure Link (π α : Type) where
  party : Side → π
  queue : Side → List α

namespace Link

variable {π α : Type}

def withParty (link : Link π α) (side : Side) (after : π) : Link π α :=
  { link with party := Function.update link.party side after }

def push (link : Link π α) (side : Side) (items : List α) : Link π α :=
  { link with queue := Function.update link.queue side (link.queue side ++ items) }

def pop (link : Link π α) (side : Side) (count : Nat) : Link π α :=
  { link with queue := Function.update link.queue side ((link.queue side).drop count) }

@[simp] theorem withParty_self (link : Link π α) (side : Side) (after : π) :
    (link.withParty side after).party side = after := by
  simp [withParty]

@[simp] theorem withParty_other (link : Link π α) (side : Side) (after : π) :
    (link.withParty side after).party side.other = link.party side.other := by
  simp [withParty]

@[simp] theorem withParty_queue (link : Link π α) (side : Side) (after : π) :
    (link.withParty side after).queue = link.queue := rfl

@[simp] theorem push_party (link : Link π α) (side : Side) (items : List α) :
    (link.push side items).party = link.party := rfl

@[simp] theorem pop_party (link : Link π α) (side : Side) (count : Nat) :
    (link.pop side count).party = link.party := rfl

@[simp] theorem pop_zero (link : Link π α) (side : Side) : link.pop side 0 = link := by
  simp [pop]

/-- In each direction the items that are read, and then those queued, are the items that were
written, in their order, but for some that the reader has lost. -/
def Carries (written read : π → List α) (lost : Side → Nat) (link : Link π α) : Prop :=
  ∀ side, (read (link.party side.other) ++ link.queue side).Sublist (written (link.party side)) ∧
    (written (link.party side)).length =
      (read (link.party side.other) ++ link.queue side).length + lost side

/-- More items are lost on the way from `side`. -/
def charge (lost : Side → Nat) (side : Side) (count : Nat) : Side → Nat :=
  fun place => lost place + if place = side then count else 0

@[simp] theorem charge_zero (lost : Side → Nat) (side : Side) : charge lost side 0 = lost := by
  funext place
  rw [charge, ite_self, Nat.add_zero]

variable {written read : π → List α} {lost : Side → Nat} {link : Link π α} {side : Side} {after : π}

theorem Carries.eq_iff (carries : Carries written read lost link) (side : Side) :
    written (link.party side) = read (link.party side.other) ++ link.queue side ↔
      lost side = 0 := by
  obtain ⟨sublist, length⟩ := carries side
  constructor
  · intro same
    rw [same] at length
    omega
  · intro none
    exact (sublist.eq_of_length (by omega)).symm

theorem Carries.keep (carries : Carries written read lost link)
    (sameWritten : written after = written (link.party side))
    (sameRead : read after = read (link.party side)) :
    Carries written read lost (link.withParty side after) := by
  intro place
  rcases side.eq_or_other place with rfl | rfl
  · simpa [sameWritten] using carries place
  · simpa [sameRead] using carries side.other

theorem Carries.push (carries : Carries written read lost link) {items : List α}
    (grows : written after = written (link.party side) ++ items)
    (sameRead : read after = read (link.party side)) :
    Carries written read lost ((link.withParty side after).push side items) := by
  intro place
  rcases side.eq_or_other place with rfl | rfl
  · obtain ⟨sublist, length⟩ := carries place
    have pushed := sublist.append (List.Sublist.refl items)
    simp only [Link.push, withParty_self, withParty_other, withParty_queue, Function.update_self,
      grows, List.length_append] at length ⊢
    rw [← List.append_assoc]
    exact ⟨pushed, by omega⟩
  · simpa [Link.push, sameRead] using carries side.other

theorem Carries.pop (carries : Carries written read lost link) {count : Nat}
    (sameWritten : written after = written (link.party side))
    (grows : read after = read (link.party side) ++ (link.queue side.other).take count) :
    Carries written read lost ((link.withParty side after).pop side.other count) := by
  intro place
  rcases side.eq_or_other place with rfl | rfl
  · simpa [Link.pop, sameWritten] using carries place
  · have before := carries side.other
    rw [Side.other_other] at before
    have moved : read after ++ (link.queue side.other).drop count =
        read (link.party side) ++ link.queue side.other := by
      rw [grows, List.append_assoc, List.take_append_drop]
    simpa [Link.pop, moved] using before

/-- The reader loses the last item that it has read. -/
theorem Carries.forget (carries : Carries written read lost link) {item : α}
    (sameWritten : written after = written (link.party side))
    (shrinks : read (link.party side) = read after ++ [item]) :
    Carries written read (charge lost side.other 1) (link.withParty side after) := by
  intro place
  rcases side.eq_or_other place with rfl | rfl
  · simpa [charge, sameWritten] using carries place
  · obtain ⟨sublist, length⟩ := carries side.other
    rw [Side.other_other, shrinks, List.append_assoc] at sublist length
    have fewer : (read after ++ link.queue side.other).Sublist
        (read after ++ ([item] ++ link.queue side.other)) :=
      (List.sublist_append_right _ _).append_left _
    simp only [withParty_self, withParty_other, withParty_queue, charge, Side.other_other, if_true]
    refine ⟨fewer.trans sublist, ?_⟩
    simp only [List.length_append, List.length_singleton] at length ⊢
    omega

end Link

/-! Scripts. -/

structure Line where
  speaker : Side
  size : Nat

/-- What one side writes in the course of a script. -/
def said (speaker : Side) (script : List Line) : Nat :=
  ((script.filter fun line => line.speaker = speaker).map Line.size).sum

/-- How far a party has got: the lines behind it, and the part of the next one. -/
structure Place where
  position : Nat
  moved : Nat

/-- What a party at this place has handled of what `speaker` says. -/
def Place.handled (place : Place) (script : List Line) (speaker : Side) : Nat :=
  said speaker (script.take place.position) +
    match script[place.position]? with
    | some line => if line.speaker = speaker then place.moved else 0
    | none => 0

/-- Pieces of the sizes that a script gives for one side. -/
theorem length_flatMap_eq_said {ι β : Type} {speaker : Side} {line : ι → Line} {piece : ι → List β}
    {items : List ι}
    (sizes : ∀ item ∈ items,
      (piece item).length = if (line item).speaker = speaker then (line item).size else 0) :
    (items.flatMap piece).length = said speaker (items.map line) := by
  induction items with
  | nil => rfl
  | cons item items ih =>
      obtain ⟨now, later⟩ := List.forall_mem_cons.mp sizes
      rw [List.flatMap_cons, List.length_append, now, ih later]
      by_cases same : (line item).speaker = speaker
      · simp [said, same]
      · simp [said, same]

namespace Place

variable {script : List Line} {place : Place} {line : Line}

theorem handled_of_line (found : script[place.position]? = some line) (speaker : Side) :
    place.handled script speaker =
      said speaker (script.take place.position) +
        if line.speaker = speaker then place.moved else 0 := by
  rw [handled, found]

theorem handled_of_unmoved (unmoved : place.moved = 0) (script : List Line) (speaker : Side) :
    place.handled script speaker = said speaker (script.take place.position) := by
  cases found : script[place.position]? with
  | none => rw [handled, found, Nat.add_zero]
  | some line => rw [handled_of_line found, unmoved, ite_self, Nat.add_zero]

end Place

end SocketCpp.Data
