import SocketCpp.Data.Runs
import SocketCpp.Transfer.Conversation.Faithful

namespace SocketCpp

open Data

/-! Conversations come to an end.

Every step leaves fewer steps to come, unless a `recv` fails behind data.  Where the two
ends follow one script, so that one end sends what the other end fully receives, they
never wait for each other, and as long as nothing fails they only stop when the script
is done. -/

/-- What an operation of one side says in a script. -/
def Action.line (side : Side) : Action → Line
  | .send block => { speaker := side, size := block.uSize }
  | .receive block _ => { speaker := side.other, size := block.uSize }

@[simp] theorem Action.line_size (action : Action) (side : Side) :
    (action.line side).size = action.block.uSize := by
  cases action <;> rfl

def Action.Fully : Action → Prop
  | .send _ => True
  | .receive _ bReadFully => bReadFully = true

def Action.payload : Action → List UInt8
  | .send block => block.content
  | .receive .. => []

def Doing.moved : Doing → Nat
  | .idle => 0
  | .sending _ state => state.total.toNat
  | .receiving _ _ state => state.total.toNat

def Party.place (party : Party) : Place where
  position := party.finished.length
  moved := party.doing.moved

namespace Finished

variable {finished : Finished} {side : Side}

theorem written_eq_payload (honest : finished.Honest) (whole : finished.Whole) :
    finished.written = finished.action.payload := by
  cases finished with
  | sent block result =>
      obtain ⟨-, -, reports⟩ := honest
      simp [written, action, Action.payload, Block.content, reports.mp whole]
  | received block bReadFully result => rfl

theorem written_length (honest : finished.Honest) (whole : finished.Whole) :
    finished.written.length =
      if (finished.action.line side).speaker = side then (finished.action.line side).size
      else 0 := by
  rw [written_eq_payload honest whole]
  cases finished with
  | sent block result => simp [action, Action.payload, Action.line, Block.content]
  | received block bReadFully result =>
      simp [action, Action.payload, Action.line, side.other_ne]

theorem stored_length (honest : finished.Honest) (whole : finished.Whole)
    (fully : finished.action.Fully) :
    finished.stored.length =
      if (finished.action.line side).speaker = side.other then (finished.action.line side).size
      else 0 := by
  cases finished with
  | sent block result => simp [stored, action, Action.line, side.ne_other]
  | received block bReadFully result =>
      obtain ⟨-, -, reported⟩ := honest
      have value : result.value = block.uSize := whole fully
      simp [stored, action, Action.line, reported, value]

end Finished

namespace Party

variable {party : Party} {side : Side} {script : List Line}

/-- A party is within the operation that it is at. -/
theorem Sound.moved_lt (sound : party.Sound) {action : Action}
    (next : (party.doing.actions ++ party.program).head? = some action) :
    party.doing.moved < action.block.uSize := by
  have doing := sound.doing
  cases active : party.doing with
  | idle =>
      rw [active] at next
      exact (sound.program action (List.mem_of_mem_head? next)).1
  | sending block state =>
      rw [active] at doing next
      cases next
      have inside : Inside block.uSize state.total := doing
      have lower := inside.lower
      have below := inside.below
      simp only [Doing.moved, Action.block]
      omega
  | receiving block bReadFully state =>
      rw [active] at doing next
      cases next
      have lower := doing.1.lower
      have below := doing.1.upper
      simp only [Doing.moved, Action.block]
      omega

/-- A party that works off a script, and has done all that is behind it. -/
structure Follows (script : List Line) (side : Side) (party : Party) : Prop where
  lines : party.plan.map (Action.line side) = script
  fully : ∀ action ∈ party.plan, action.Fully
  whole : ∀ finished ∈ party.finished, finished.Whole

namespace Follows

theorem split (follows : party.Follows script side) :
    script.take party.place.position =
        party.finished.map (fun finished => finished.action.line side) ∧
      script[party.place.position]? =
        ((party.doing.actions ++ party.program).map (Action.line side)).head? := by
  have behind : script = party.finished.map (fun finished => finished.action.line side) ++
      (party.doing.actions ++ party.program).map (Action.line side) := by
    rw [← follows.lines, plan, List.map_append, List.map_map]
    rfl
  have length : party.place.position =
      (party.finished.map fun finished => finished.action.line side).length := by
    rw [List.length_map]
    rfl
  rw [behind, length]
  exact ⟨List.take_left' rfl, by rw [List.getElem?_append_right (Nat.le_refl _), Nat.sub_self,
    List.head?_eq_getElem?]⟩

theorem finished_written (follows : party.Follows script side) (sound : party.Sound) :
    (party.finished.flatMap Finished.written).length =
      said side (script.take party.place.position) := by
  rw [follows.split.1]
  exact length_flatMap_eq_said fun finished member =>
    Finished.written_length (sound.finished finished member) (follows.whole finished member)

theorem finished_stored (follows : party.Follows script side) (sound : party.Sound) :
    (party.finished.flatMap Finished.stored).length =
      said side.other (script.take party.place.position) := by
  rw [follows.split.1]
  refine length_flatMap_eq_said fun finished member => ?_
  have planned : finished.action ∈ party.plan :=
    List.mem_append_left _ (List.mem_map_of_mem member)
  exact Finished.stored_length (sound.finished finished member) (follows.whole finished member)
    (follows.fully finished.action planned)

theorem written_length (follows : party.Follows script side) (sound : party.Sound) :
    party.written.length = party.place.handled script side := by
  rw [written, List.length_append, follows.finished_written sound]
  have next := follows.split.2
  cases doing : party.doing with
  | idle =>
      have unmoved : party.place.moved = 0 := by simp [place, doing, Doing.moved]
      simp [Place.handled_of_unmoved unmoved, Doing.written]
  | sending block state =>
      rw [doing] at next
      rw [Place.handled_of_line next]
      simp [place, doing, Doing.written, Doing.moved, Action.line]
  | receiving block bReadFully state =>
      rw [doing] at next
      simp [Place.handled_of_line next, Doing.written, Action.line]

theorem stored_length (follows : party.Follows script side) (sound : party.Sound) :
    party.stored.length = party.place.handled script side.other := by
  rw [stored, List.length_append, follows.finished_stored sound]
  have next := follows.split.2
  cases doing : party.doing with
  | idle =>
      have unmoved : party.place.moved = 0 := by simp [place, doing, Doing.moved]
      simp [Place.handled_of_unmoved unmoved, Doing.stored]
  | sending block state =>
      rw [doing] at next
      simp [Place.handled_of_line next, Doing.stored, Action.line]
  | receiving block bReadFully state =>
      obtain ⟨-, buffer, memory⟩ := doing ▸ sound.doing
      rw [doing] at next
      rw [Place.handled_of_line next]
      simp [place, doing, Doing.stored, Doing.moved, Action.line, memory]

theorem inside (follows : party.Follows script side) (sound : party.Sound) {line : Line}
    (found : script[party.place.position]? = some line) : party.place.moved < line.size := by
  rw [follows.split.2, List.head?_map, Option.map_eq_some_iff] at found
  obtain ⟨action, next, rfl⟩ := found
  rw [Action.line_size]
  exact sound.moved_lt next

end Follows

end Party

namespace Conversation

variable {ends : Side → Endpoint} {room : Side → Nat} {program : Side → List Action}
  {script : List Line} {before after conversation : Conversation} {side : Side}

/-- What holds of two parties that follow one script as long as nothing fails. -/
structure Dialogue (program : Side → List Action) (script : List Line)
    (conversation : Conversation) : Prop where
  sound : ∀ side, (conversation.party side).Sound
  plan : ∀ side, (conversation.party side).plan = program side
  follows : ∀ side, (conversation.party side).Follows script side
  carries : conversation.Carries Party.written Party.stored fun _ => 0
  ended : ∀ side, conversation.closed side = true →
    (conversation.party side).doing = .idle ∧ (conversation.party side).program = []

theorem Dialogue.acts (dialogue : Dialogue program script before)
    (advances : Advances before after side 0) (closed : after.closed = before.closed)
    {sent got : List UInt8}
    (moves : Party.Moves Finished.Whole (before.party side) (after.party side) sent got)
    (isOpen : before.closed side = false) : Dialogue program script after := by
  have follows := dialogue.follows side
  refine ⟨?_, ?_, ?_, ?_, ?_⟩
  · intro place
    rcases side.eq_or_other place with rfl | rfl
    · exact advances.sound
    · exact advances.other ▸ dialogue.sound side.other
  · intro place
    rcases side.eq_or_other place with rfl | rfl
    · exact moves.plan.trans (dialogue.plan place)
    · exact advances.other ▸ dialogue.plan side.other
  · intro place
    rcases side.eq_or_other place with rfl | rfl
    · refine ⟨moves.plan ▸ follows.lines, moves.plan ▸ follows.fully, ?_⟩
      intro finished member
      rcases moves.reports finished member with earlier | whole
      · exact follows.whole finished earlier
      · exact whole
    · exact advances.other ▸ dialogue.follows side.other
  · have carries := advances.carries _ dialogue.carries
    rwa [Link.charge_zero] at carries
  · intro place shut
    rw [closed] at shut
    rcases side.eq_or_other place with rfl | rfl
    · exact absurd shut (by simp [isOpen])
    · exact advances.other ▸ dialogue.ended side.other shut

/-- Nothing is lost as long as nothing fails. -/
theorem Dialogue.conserved (dialogue : Dialogue program script conversation) (side : Side) :
    (conversation.party side).written =
      (conversation.party side.other).stored ++ conversation.queue side :=
  (dialogue.carries.eq_iff side).mpr rfl

theorem Dialogue.handled (dialogue : Dialogue program script conversation) (side : Side) :
    (conversation.party side).place.handled script side =
      (conversation.party side.other).place.handled script side +
        (conversation.queue side).length := by
  have written := (dialogue.follows side).written_length (dialogue.sound side)
  have stored := (dialogue.follows side.other).stored_length (dialogue.sound side.other)
  rw [Side.other_other] at stored
  rw [← written, ← stored, dialogue.conserved side, List.length_append]

/-- A side that has closed is behind the whole script. -/
theorem Dialogue.position_of_closed (dialogue : Dialogue program script conversation)
    (shut : conversation.closed side = true) :
    (conversation.party side).place.position = script.length := by
  obtain ⟨idle, done⟩ := dialogue.ended side shut
  rw [← (dialogue.follows side).lines]
  simp [Party.place, Party.plan, idle, done, Doing.actions]

/-- Both ends have done all they were to do and have closed, and each `Receive` has got
what the `Send` in its place was given. -/
structure Complete (program : Side → List Action) (conversation : Conversation) : Prop where
  closed : ∀ side, conversation.closed side = true
  drained : ∀ side, conversation.queue side = []
  done : ∀ side, (conversation.party side).finished.map Finished.action = program side
  whole : ∀ side, ∀ finished ∈ (conversation.party side).finished, finished.Whole
  exchanged : ∀ side, (conversation.party side.other).finished.map Finished.stored =
    (program side).map Action.payload

theorem Dialogue.complete (dialogue : Dialogue program script conversation)
    (closed : ∀ side, conversation.closed side = true) : Complete program conversation := by
  have idle (side : Side) := (dialogue.ended side (closed side)).1
  have done (side : Side) : (conversation.party side).finished.map Finished.action =
      program side := by
    rw [← dialogue.plan side]
    simp [Party.plan, idle side, (dialogue.ended side (closed side)).2, Doing.actions]
  have lines (side : Side) : (conversation.party side).finished.map
      (fun finished => finished.action.line side) = script := by
    rw [← (dialogue.follows side).lines, dialogue.plan side, ← done side, List.map_map]
    rfl
  have drained (side : Side) : conversation.queue side = [] := by
    have handled (place : Side) :
        (conversation.party place).place.handled script side = said side script := by
      have unmoved : (conversation.party place).place.moved = 0 := by
        simp [Party.place, idle place, Doing.moved]
      rw [Place.handled_of_unmoved unmoved, dialogue.position_of_closed (closed place),
        List.take_length]
    have queued := dialogue.handled side
    rw [handled side, handled side.other] at queued
    exact List.eq_nil_of_length_eq_zero (by omega)
  refine ⟨closed, drained, done, fun side => (dialogue.follows side).whole, fun side => ?_⟩
  have sent : (conversation.party side).finished.map Finished.written =
      (program side).map Action.payload := by
    rw [← done side, List.map_map]
    exact List.map_congr_left fun finished member =>
      Finished.written_eq_payload ((dialogue.sound side).finished finished member)
        ((dialogue.follows side).whole finished member)
  rw [← sent, List.eq_iff_flatten_eq]
  constructor
  · have conserved := dialogue.conserved side
    rw [drained side, List.append_nil] at conserved
    simpa [Party.written, Party.stored, idle, Doing.written, Doing.stored, List.flatMap_def]
      using conserved.symm
  · -- The pieces are as long as the lines of the script.
    have written : ((conversation.party side).finished.map Finished.written).map List.length =
        script.map fun line => if line.speaker = side then line.size else 0 := by
      rw [← lines side, List.map_map, List.map_map]
      exact List.map_congr_left fun finished member =>
        Finished.written_length ((dialogue.sound side).finished finished member)
          ((dialogue.follows side).whole finished member)
    rw [written, ← lines side.other, List.map_map, List.map_map]
    refine List.map_congr_left fun finished member => ?_
    have planned : finished.action ∈ (conversation.party side.other).plan :=
      List.mem_append_left _ (List.mem_map_of_mem member)
    have stored := @Finished.stored_length _ side.other
      ((dialogue.sound side.other).finished finished member)
      ((dialogue.follows side.other).whole finished member)
      ((dialogue.follows side.other).fully finished.action planned)
    rwa [Side.other_other] at stored

end Conversation

end SocketCpp
