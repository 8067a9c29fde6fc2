import Mathlib.Data.Finset.Insert
import Mathlib.Data.Finset.Erase
import Mathlib.Logic.Function.Basic

namespace SocketCpp.Data

/-! Places that own resources by handle.

A place is overwritten, or its content is moved to another place.  Every held
handle is live and is held by one place only; a place that is overwritten loses its
handle without releasing it. -/

namespace Pool

variable {ι α κ : Type}

/-- No two places hold the same handle, and all that is held is live. -/
structure Owned (key : α → Option κ) (live : Finset κ) (places : ι → α) : Prop where
  exclusive : ∀ first second handle, key (places first) = some handle →
    key (places second) = some handle → first = second
  live : ∀ place handle, key (places place) = some handle → handle ∈ live

theorem Owned.mono {key : α → Option κ} {live more : Finset κ} {places : ι → α}
    (owned : Owned key live places) (within : live ⊆ more) : Owned key more places where
  exclusive := owned.exclusive
  live := fun place handle holds => within (owned.live place handle holds)

variable [DecidableEq ι]

/-- The content of `source` goes to `target`, and `empty` is left behind. -/
def move (places : ι → α) (target source : ι) (empty : α) : ι → α :=
  Function.update (Function.update places target (places source)) source empty

section Everywhere

variable {good : α → Prop} {places : ι → α}

theorem forall_update (all : ∀ place, good (places place)) (place : ι) {value : α}
    (new : good value) : ∀ other, good (Function.update places place value other) := by
  intro other
  by_cases same : other = place
  · rw [same, Function.update_self]
    exact new
  · rw [Function.update_of_ne same]
    exact all other

theorem forall_move (all : ∀ place, good (places place)) (target source : ι) {empty : α}
    (cleared : good empty) : ∀ place, good (move places target source empty place) :=
  forall_update (forall_update all target (all source)) source cleared

end Everywhere

namespace Owned

variable {key : α → Option κ} {live : Finset κ} {places : ι → α}

/-- A place takes a handle that no other place holds. -/
theorem put (owned : Owned key live places) (place : ι) {value : α}
    (isLive : ∀ handle, key value = some handle → handle ∈ live)
    (alone : ∀ handle other, key value = some handle → key (places other) = some handle →
      other = place) : Owned key live (Function.update places place value) where
  exclusive := by
    intro first second handle holdsFirst holdsSecond
    by_cases isFirst : first = place
    · by_cases isSecond : second = place
      · rw [isFirst, isSecond]
      · rw [isFirst, Function.update_self] at holdsFirst
        rw [Function.update_of_ne isSecond] at holdsSecond
        exact absurd (alone handle second holdsFirst holdsSecond) isSecond
    · rw [Function.update_of_ne isFirst] at holdsFirst
      by_cases isSecond : second = place
      · rw [isSecond, Function.update_self] at holdsSecond
        exact absurd (alone handle first holdsSecond holdsFirst) isFirst
      · rw [Function.update_of_ne isSecond] at holdsSecond
        exact owned.exclusive first second handle holdsFirst holdsSecond
  live := by
    intro other handle holds
    by_cases same : other = place
    · rw [same, Function.update_self] at holds
      exact isLive handle holds
    · rw [Function.update_of_ne same] at holds
      exact owned.live other handle holds

theorem clear (owned : Owned key live places) (place : ι) {value : α} (none : key value = none) :
    Owned key live (Function.update places place value) := by
  refine owned.put place ?_ ?_
  · intro handle holds
    rw [none] at holds
    cases holds
  · intro handle other holds
    rw [none] at holds
    cases holds

/-- A place is rewritten and keeps its handle. -/
theorem keep (owned : Owned key live places) (place : ι) {value : α}
    (same : key value = key (places place)) :
    Owned key live (Function.update places place value) := by
  refine owned.put place ?_ ?_
  · intro handle holds
    exact owned.live place handle (same.symm.trans holds)
  · intro handle other holds holdsOther
    exact owned.exclusive other place handle holdsOther (same.symm.trans holds)

theorem move (owned : Owned key live places) (target source : ι) {empty : α}
    (none : key empty = none) : Owned key live (move places target source empty) := by
  have cleared := owned.clear source none
  by_cases same : target = source
  · rw [Pool.move, same, Function.update_idem]
    exact cleared
  · rw [Pool.move, Function.update_comm same]
    refine cleared.put target (owned.live source) ?_
    intro handle other holds holdsOther
    by_cases isSource : other = source
    · rw [isSource, Function.update_self, none] at holdsOther
      cases holdsOther
    · rw [Function.update_of_ne isSource] at holdsOther
      exact absurd (owned.exclusive other source handle holdsOther holds) isSource

variable [DecidableEq κ]

/-- A place takes a handle that has just been acquired. -/
theorem acquire (owned : Owned key live places) (place : ι) {value : α} {handle : κ}
    (holds : key value = some handle) (fresh : handle ∉ live) :
    Owned key (insert handle live) (Function.update places place value) := by
  refine (owned.mono (Finset.subset_insert handle live)).put place ?_ ?_
  · intro other holdsOther
    rw [holds] at holdsOther
    cases holdsOther
    exact Finset.mem_insert_self _ _
  · intro other second holdsOther holdsSecond
    rw [holds] at holdsOther
    cases holdsOther
    exact absurd (owned.live second handle holdsSecond) fresh

/-- A place releases its handle. -/
theorem release (owned : Owned key live places) {place : ι} {value : α} {handle : κ}
    (held : key (places place) = some handle) (none : key value = none) :
    Owned key (live.erase handle) (Function.update places place value) where
  exclusive := (owned.clear place none).exclusive
  live := by
    intro other second holds
    refine Finset.mem_erase.mpr ⟨?_, (owned.clear place none).live other second holds⟩
    rintro rfl
    by_cases same : other = place
    · rw [same, Function.update_self, none] at holds
      cases holds
    · rw [Function.update_of_ne same] at holds
      exact same (owned.exclusive other place second holds held)

end Owned

/-! Nothing that is live is lost. -/

/-- Every handle of `live` is held by some place. -/
def Covers (key : α → Option κ) (live : Set κ) (places : ι → α) : Prop :=
  ∀ handle ∈ live, ∃ place, key (places place) = some handle

section Covers

variable {key : α → Option κ} {live more less : Set κ} {places : ι → α}

/-- A place that holds nothing takes what is new. -/
theorem Covers.put (covers : Covers key live places) {place : ι} {value : α}
    (vacant : key (places place) = none)
    (within : ∀ handle ∈ more, handle ∈ live ∨ key value = some handle) :
    Covers key more (Function.update places place value) := by
  intro handle member
  rcases within handle member with old | new
  · obtain ⟨other, holds⟩ := covers handle old
    have different : other ≠ place := by
      rintro rfl
      rw [vacant] at holds
      cases holds
    exact ⟨other, by rwa [Function.update_of_ne different]⟩
  · exact ⟨place, by rwa [Function.update_self]⟩

/-- What a place has held is no longer live. -/
theorem Covers.release (covers : Covers key live places) {place : ι} {value : α}
    (within : ∀ handle ∈ less, handle ∈ live ∧ key (places place) ≠ some handle) :
    Covers key less (Function.update places place value) := by
  intro handle member
  obtain ⟨old, other⟩ := within handle member
  obtain ⟨holder, holds⟩ := covers handle old
  have different : holder ≠ place := by
    rintro rfl
    exact other holds
  exact ⟨holder, by rwa [Function.update_of_ne different]⟩

theorem Covers.move (covers : Covers key live places) {target source : ι} {empty : α}
    (different : target ≠ source) (vacant : key (places target) = none) :
    Covers key live (Pool.move places target source empty) := by
  have taken : Covers key {handle | handle ∈ live ∧ key (places source) ≠ some handle}
      (Function.update places source empty) :=
    covers.release fun _ member => member
  have still : key (Function.update places source empty target) = none := by
    rwa [Function.update_of_ne different]
  rw [Pool.move, Function.update_comm different]
  refine taken.put still fun handle member => ?_
  by_cases held : key (places source) = some handle
  · exact .inr held
  · exact .inl ⟨member, held⟩

/-- A live handle is lost when the place that holds it is overwritten. -/
theorem Owned.not_covers_update {known : Finset κ} (owned : Owned key known places) {place : ι}
    {value : α} {handle : κ} (held : key (places place) = some handle) (isLive : handle ∈ live)
    (other : key value ≠ some handle) : ¬ Covers key live (Function.update places place value) := by
  intro covers
  obtain ⟨holder, holds⟩ := covers handle isLive
  by_cases same : holder = place
  · rw [same, Function.update_self] at holds
    exact other holds
  · rw [Function.update_of_ne same] at holds
    exact same (owned.exclusive holder place handle holds held)

theorem Owned.not_covers_move {known : Finset κ} (owned : Owned key known places)
    {target source : ι} {empty : α} {handle : κ} (different : target ≠ source)
    (held : key (places target) = some handle) (isLive : handle ∈ live)
    (none : key empty = none) : ¬ Covers key live (Pool.move places target source empty) := by
  have cleared := owned.clear source none
  have still : key (Function.update places source empty target) = some handle := by
    rwa [Function.update_of_ne different]
  rw [Pool.move, Function.update_comm different]
  apply cleared.not_covers_update still isLive
  intro holds
  exact different (owned.exclusive target source handle held holds)

end Covers

end Pool

end SocketCpp.Data
