import SocketCpp.ASocket

namespace SocketCpp

open Data

/-! Which socket `ASocket::SelectSockets` reports. -/

/-- The number of descriptors that an `fd_set` can hold. -/
def fdSetSize : Int := 1024

def InFdSet (sd : Socket) : Prop :=
  0 ≤ sd ∧ sd < fdSetSize

instance (sd : Socket) : Decidable (InFdSet sd) :=
  inferInstanceAs (Decidable (_ ∧ _))

/-- What `select` does with the watched descriptors: it fails, or none is ready in time,
or it leaves some of them in the set. -/
structure SelectSetAnswer.Possible (watched : List Socket) (answer : SelectSetAnswer) : Prop where
  lower : -1 ≤ answer.result
  some : 0 < answer.result → answer.ready.Nonempty
  watched : 0 < answer.result → ∀ sd ∈ answer.ready, sd ∈ watched

/-- The time limit of a call with `msec`; 0 is for none. -/
def waitTime (msec : Nat) : Option Timeval :=
  if 0 < msec then some { tvSec := msec / 1000, tvUsec := msec % 1000 * 1000 } else none

/-- `SelectSockets` reports the first ready socket, or what `select` returned. -/
structure SelectsFirst (watched : List Socket) (msec selectedIndex : Nat)
    (answer : SelectSetAnswer) (trace : Trace) (outcome : Selected) : Prop where
  calls : ∃ nfds tested, (∀ sd ∈ watched, sd < nfds) ∧
    outcome.trace = tested ++
      .select nfds (waitTime msec) answer.result :: ((watched.map Call.fdSet).reverse ++ trace) ∧
    ∀ call ∈ tested, ∃ sd ∈ watched, call = .fdIsset sd
  succeeds : outcome.value = 1 ↔ 0 < answer.result
  first : 0 < answer.result → ∃ sd ∈ answer.ready, watched[outcome.selectedIndex]? = some sd ∧
    ∀ earlier < outcome.selectedIndex, ∀ other, watched[earlier]? = some other →
      other ∉ answer.ready
  otherwise : answer.result ≤ 0 →
    outcome.value = answer.result ∧ (answer.result = 0 ∨ answer.result = -1) ∧
      outcome.selectedIndex = selectedIndex
  single : ∀ sd, watched = [sd] → (outcome.value, outcome.trace) =
    selectSocket sd msec ⟨answer.result, decide (sd ∈ answer.ready)⟩ trace

theorem watchSockets_calls (watched : List Socket) (maxFd : Int) (trace : Trace) :
    (watchSockets watched maxFd trace).2 = (watched.map Call.fdSet).reverse ++ trace := by
  induction watched generalizing maxFd trace with
  | nil => rfl
  | cons sd rest ih => simp [watchSockets, ih]

/-- `max_fd` only grows, and is at least every descriptor of the array. -/
theorem le_watchSockets (watched : List Socket) (maxFd : Int) (trace : Trace) :
    maxFd ≤ (watchSockets watched maxFd trace).1 ∧
      ∀ sd ∈ watched, sd ≤ (watchSockets watched maxFd trace).1 := by
  induction watched generalizing maxFd trace with
  | nil => simp [watchSockets]
  | cons sd rest ih =>
      obtain ⟨grown, others⟩ := ih (if sd > maxFd then sd else maxFd) (.fdSet sd :: trace)
      have both : maxFd ≤ (if sd > maxFd then sd else maxFd) ∧
          sd ≤ (if sd > maxFd then sd else maxFd) := by
        by_cases larger : sd > maxFd
        · rw [if_pos larger]
          exact ⟨Int.le_of_lt larger, Int.le_refl sd⟩
        · rw [if_neg larger]
          exact ⟨Int.le_refl maxFd, Int.not_lt.mp larger⟩
      rw [watchSockets]
      refine ⟨Int.le_trans both.1 grown, ?_⟩
      intro other member
      rcases List.mem_cons.mp member with rfl | member
      · exact Int.le_trans both.2 grown
      · exact others other member

theorem findActive_index (ready : Finset Socket) (watched : List Socket) (i : Nat)
    (trace : Trace) :
    (findActive ready watched i trace).1 =
      (watched.findIdx? fun sd => sd ∈ ready).map fun found => found + i := by
  induction watched generalizing i trace with
  | nil => rfl
  | cons sd rest ih =>
      rw [findActive, List.findIdx?_cons]
      by_cases active : sd ∈ ready
      · simp [active]
      · simp only [active, if_false, ih, decide_false, Bool.false_eq_true, Option.map_map]
        congr 1
        funext found
        simp only [Function.comp_apply]
        omega

theorem findActive_calls (ready : Finset Socket) (watched : List Socket) (i : Nat)
    (trace : Trace) :
    Extends (fun call => ∃ sd ∈ watched, call = .fdIsset sd) trace
      (findActive ready watched i trace).2 := by
  induction watched generalizing i trace with
  | nil => exact Extends.refl _ trace
  | cons sd rest ih =>
      have tested : Extends (fun call => ∃ other ∈ sd :: rest, call = .fdIsset other) trace
          (.fdIsset sd :: trace) :=
        Extends.cons_iff.mpr ⟨sd, List.mem_cons_self, rfl⟩
      rw [findActive]
      split
      · exact tested
      · refine tested.trans ((ih (i + 1) (.fdIsset sd :: trace)).mono ?_)
        rintro call ⟨other, member, rfl⟩
        exact ⟨other, List.mem_cons_of_mem sd member, rfl⟩

/-- The search finds the first watched descriptor that is ready. -/
theorem findActive_first {ready : Finset Socket} {watched : List Socket} (trace : Trace)
    (some : ready.Nonempty) (subset : ∀ sd ∈ ready, sd ∈ watched) :
    ∃ i, (findActive ready watched 0 trace).1 = Option.some i ∧
      ∃ sd ∈ ready, watched[i]? = Option.some sd ∧
        ∀ earlier < i, ∀ other, watched[earlier]? = Option.some other → other ∉ ready := by
  obtain ⟨sd, member⟩ := some
  cases found : watched.findIdx? fun sd => sd ∈ ready with
  | none =>
      have absent := List.findIdx?_eq_none_iff.mp found sd (subset sd member)
      simp [member] at absent
  | some i =>
      refine ⟨i, by rw [findActive_index, found]; rfl, ?_⟩
      obtain ⟨within, active, earlier⟩ := List.findIdx?_eq_some_iff_getElem.mp found
      refine ⟨watched[i], by simpa using active, List.getElem?_eq_getElem within, ?_⟩
      intro index before other isOther
      obtain ⟨inside, rfl⟩ := List.getElem?_eq_some_iff.mp isOther
      simpa using earlier index before

/-- The trace once `select` has returned. -/
def selectedTrace (watched : List Socket) (msec : Nat) (answer : SelectSetAnswer)
    (trace : Trace) : Trace :=
  .select ((watchSockets watched (-1) trace).1 + 1) (waitTime msec) answer.result ::
    ((watched.map Call.fdSet).reverse ++ trace)

section

variable (sockets : Buffer Socket) {count : Nat} (nonempty : 0 < count)
  (msec selectedIndex : Nat) {answer : SelectSetAnswer} (trace : Trace)

include nonempty

theorem selectSockets_stops (low : answer.result ≤ 0) :
    selectSockets (some sockets) count msec selectedIndex answer trace =
      { value := answer.result, selectedIndex
        trace := selectedTrace (sockets.read 0 count) msec answer trace } := by
  simp only [selectSockets, if_neg (Nat.ne_of_gt nonempty), if_pos low, watchSockets_calls]
  rfl

/-- After `select` returns the set is only looked up. -/
theorem selectSockets_calls :
    Extends (fun call => ∃ sd ∈ sockets.read 0 count, call = .fdIsset sd)
      (selectedTrace (sockets.read 0 count) msec answer trace)
      (selectSockets (some sockets) count msec selectedIndex answer trace).trace := by
  by_cases low : answer.result ≤ 0
  · rw [selectSockets_stops sockets nonempty msec selectedIndex trace low]
    exact Extends.refl _ _
  · have tested := findActive_calls answer.ready (sockets.read 0 count) 0
      (selectedTrace (sockets.read 0 count) msec answer trace)
    simp only [selectSockets, if_neg (Nat.ne_of_gt nonempty), if_neg low, watchSockets_calls]
    split
    · exact tested
    · exact tested

theorem selectSockets_finds {i : Nat} (ready : ¬ answer.result ≤ 0)
    (found : (findActive answer.ready (sockets.read 0 count) 0
      (selectedTrace (sockets.read 0 count) msec answer trace)).1 = some i) :
    selectSockets (some sockets) count msec selectedIndex answer trace =
      { value := 1, selectedIndex := i
        trace := (findActive answer.ready (sockets.read 0 count) 0
          (selectedTrace (sockets.read 0 count) msec answer trace)).2 } := by
  simp only [selectedTrace, waitTime] at found
  simp only [selectSockets, if_neg (Nat.ne_of_gt nonempty), if_neg ready, watchSockets_calls, found]
  rfl

end

theorem selectSockets_single (sockets : Buffer Socket) {count : Nat} (nonempty : 0 < count)
    (msec selectedIndex : Nat) (answer : SelectSetAnswer) (trace : Trace) {sd : Socket}
    (one : sockets.read 0 count = [sd]) (valid : 0 ≤ sd) :
    let outcome := selectSockets (some sockets) count msec selectedIndex answer trace
    (outcome.value, outcome.trace) =
      selectSocket sd msec ⟨answer.result, decide (sd ∈ answer.ready)⟩ trace := by
  have largest : (if sd > -1 then sd else -1) = sd :=
    if_pos (Int.lt_of_lt_of_le (by decide) valid)
  simp only [selectSockets, if_neg (Nat.ne_of_gt nonempty), one, watchSockets, largest,
    selectSocket, if_neg (Int.not_lt.mpr valid)]
  by_cases low : answer.result ≤ 0
  · simp only [if_pos low]
  · by_cases active : sd ∈ answer.ready
    · simp [low, findActive, active]
    · simp [low, findActive, active]

/-- `SelectSockets` reports the first ready socket of an array, whatever is ready. -/
theorem selectSockets_first (sockets : Buffer Socket) {count : Nat} (nonempty : 0 < count)
    (valid : ∀ sd ∈ sockets.read 0 count, InFdSet sd) (msec selectedIndex : Nat)
    {answer : SelectSetAnswer} (possible : answer.Possible (sockets.read 0 count))
    (trace : Trace) :
    SelectsFirst (sockets.read 0 count) msec selectedIndex answer trace
      (selectSockets (some sockets) count msec selectedIndex answer trace) := by
  have above := (le_watchSockets (sockets.read 0 count) (-1) trace).2
  have below : ∀ sd ∈ sockets.read 0 count,
      sd < (watchSockets (sockets.read 0 count) (-1) trace).1 + 1 :=
    fun sd member => Int.lt_add_one_of_le (above sd member)
  have single : ∀ sd, sockets.read 0 count = [sd] → _ := fun sd one =>
    selectSockets_single sockets nonempty msec selectedIndex answer trace one
      (valid sd (by rw [one]; exact List.mem_singleton_self sd)).1
  obtain ⟨tested, tests, only⟩ :=
    @selectSockets_calls sockets count nonempty msec selectedIndex answer trace
  by_cases low : answer.result ≤ 0
  · rw [selectSockets_stops sockets nonempty msec selectedIndex trace low] at single tests ⊢
    have lower := possible.lower
    exact {
      calls := ⟨_, tested, below, tests, only⟩
      succeeds := by
        dsimp only
        omega
      first := fun positive => absurd low (Int.not_le.mpr positive)
      otherwise := fun _ => ⟨rfl, by omega, rfl⟩
      single }
  · have positive := Int.not_le.mp low
    obtain ⟨i, found, first⟩ := findActive_first
      (selectedTrace (sockets.read 0 count) msec answer trace) (possible.some positive)
      (possible.watched positive)
    rw [selectSockets_finds sockets nonempty msec selectedIndex trace low found] at single tests ⊢
    exact {
      calls := ⟨_, tested, below, tests, only⟩
      succeeds := iff_of_true rfl positive
      first := fun _ => first
      otherwise := fun low => absurd low (Int.not_le.mpr positive)
      single }

/-- Three sockets with a duplicate: the second one is the first that is ready. -/
theorem selectSockets_first_second :
    let sockets : Buffer Socket := Buffer.ofList [7, 5, 5] 0
    let answer : SelectSetAnswer := ⟨1, {5}⟩
    SelectsFirst [7, 5, 5] 100 9 answer []
      (selectSockets (some sockets) 3 100 9 answer []) := by
  intro sockets answer
  have read : sockets.read 0 3 = [7, 5, 5] := by decide
  have possible : answer.Possible (sockets.read 0 3) := {
    lower := by decide
    some := fun _ => ⟨5, by decide⟩
    watched := by decide }
  have valid : ∀ sd ∈ sockets.read 0 3, InFdSet sd := by
    rw [read]
    decide
  have first := selectSockets_first sockets (show 0 < 3 by decide) valid 100 9 possible []
  rwa [read] at first

end SocketCpp
