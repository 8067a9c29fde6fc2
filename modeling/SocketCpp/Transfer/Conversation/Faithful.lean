import SocketCpp.Transfer.Conversation

namespace SocketCpp

open Data

/-! What a conversation keeps whatever fails: nothing is repeated or reordered, and nothing is
lost but for one byte with each `recv` that fails behind data.

Every step is a call of one side, and one record says what a call does to the side that
makes it. -/

namespace Party

section

variable (party : Party) (block : Block)

@[simp] theorem sendGoes_calls (standing : SendState ⊕ Sent) :
    (party.sendGoes block standing).calls = sentTrace standing := by
  cases standing <;> rfl

@[simp] theorem receiveGoes_calls (bReadFully : Bool) (standing : ReceiveState ⊕ Received) :
    (party.receiveGoes block bReadFully standing).calls = receivedTrace standing := by
  cases standing <;> rfl

end

section

variable {party : Party} {block : Block}

theorem Sound.sending (sound : party.Sound) {state : SendState}
    (active : party.doing = .sending block state) : Inside block.uSize state.total := by
  have doing := sound.doing
  rwa [active] at doing

theorem Sound.receiving (sound : party.Sound) {bReadFully : Bool} {state : ReceiveState}
    (active : party.doing = .receiving block bReadFully state) :
    Counting block.uSize state ∧ ∃ buffer, state.pData = some buffer := by
  have doing := sound.doing
  rwa [active] at doing

end

/-- What a call does to the party that makes it. -/
structure Moves (report : Finished → Prop) (before after : Party) (sent got : List UInt8) :
    Prop where
  sound : after.Sound
  written : after.written = before.written ++ sent
  stored : after.stored = before.stored ++ got
  plan : after.plan = before.plan
  remaining : after.remaining < before.remaining
  reports : ∀ finished ∈ after.finished, finished ∈ before.finished ∨ report finished

section

variable {report : Finished → Prop} {party : Party} {block : Block}

/-- The party goes on with what it is in the middle of. -/
theorem moves_on (sound : party.Sound) {doing : Doing} {sent got : List UInt8}
    (new : doing.Sound) (written : doing.written = party.doing.written ++ sent)
    (stored : doing.stored = party.doing.stored ++ got)
    (same : doing.actions = party.doing.actions)
    (less : doing.remaining < party.doing.remaining) :
    Moves report party { party with doing } sent got where
  sound := ⟨sound.program, new, sound.finished⟩
  written := by simp [Party.written, written]
  stored := by simp [Party.stored, stored]
  plan := by simp [Party.plan, same]
  remaining := Nat.add_lt_add_left less _
  reports := fun _ member => .inl member

/-- The party has finished what it was in the middle of. -/
theorem moves_off (sound : party.Sound) {finished : Finished} {sent got : List UInt8}
    (trace : Trace) (honest : finished.Honest) (reported : report finished)
    (written : finished.written = party.doing.written ++ sent)
    (stored : finished.stored = party.doing.stored ++ got)
    (same : [finished.action] = party.doing.actions) (some : 0 < party.doing.remaining) :
    Moves report party
      { party with doing := .idle, finished := party.finished ++ [finished], trace } sent got where
  sound := ⟨sound.program, trivial, by
    simpa [or_imp, forall_and] using ⟨sound.finished, honest⟩⟩
  written := by simp [Party.written, Doing.written, written]
  stored := by simp [Party.stored, Doing.stored, stored]
  plan := by
    rw [Party.plan, Party.plan, ← same]
    simp [Doing.actions]
  remaining := Nat.add_lt_add_left some _
  reports := by
    intro other member
    rcases List.mem_append.mp member with member | member
    · exact .inl member
    · rw [List.mem_singleton.mp member]
      exact .inr reported

variable {endpoint : Endpoint}

/-- Nothing is moved by the entry into an operation. -/
theorem begin_moves (ready : endpoint.Ready) (sound : party.Sound)
    (idle : party.doing = .idle) {action : Action} {rest : List Action}
    (next : party.program = action :: rest) :
    Moves report party (party.begin endpoint rest action) [] [] := by
  obtain ⟨valid, later⟩ := List.forall_mem_cons.mp (next ▸ sound.program)
  have spent : (party.program.map Action.weight).sum =
      action.weight + (rest.map Action.weight).sum := by
    rw [next, List.map_cons, List.sum_cons]
  have inside : Inside action.block.uSize 0 :=
    ⟨valid.2, Int.le_refl 0, Int.ofNat_lt.mpr valid.1⟩
  cases action with
  | send block =>
      have entry : endpoint.sendEntry (some block.pData) block.uSize party.trace =
          .inl (.start party.trace) :=
        Endpoint.sendEntry_of_ready ready valid.1 block.pData party.trace
      simp only [begin, entry, sendGoes]
      refine ⟨⟨later, inside, sound.finished⟩, ?_, ?_, ?_, ?_, fun _ => .inl⟩
      · simp [written, Doing.written, SendState.start, idle]
      · simp [stored, Doing.stored, idle]
      · simp [plan, Doing.actions, idle, next]
      · simp only [remaining, spent, idle, Doing.remaining, Action.weight, Action.block]
        omega
  | receive block bReadFully =>
      have entry : endpoint.receiveEntry (some block.pData) block.uSize party.trace =
          .inl (.start (some block.pData) party.trace) :=
        Endpoint.receiveEntry_of_ready ready valid.1 block.pData party.trace
      simp only [begin, entry, receiveGoes]
      refine ⟨⟨later, ⟨⟨inside.fits, inside.lower, inside.below⟩, _, rfl⟩, sound.finished⟩, ?_, ?_,
        ?_, ?_, fun _ => .inl⟩
      · simp [written, Doing.written, idle]
      · simp [stored, Doing.stored, ReceiveState.start, idle]
      · simp [plan, Doing.actions, idle, next]
      · simp only [remaining, spent, idle, Doing.remaining, Action.weight, Action.block]
        omega

theorem begin_calls (ready : endpoint.Ready) (sound : party.Sound) (idle : party.doing = .idle)
    {action : Action} {rest : List Action} (next : party.program = action :: rest) :
    (party.begin endpoint rest action).calls = party.calls := by
  have before : party.calls = party.trace := by simp [calls, idle]
  cases action with
  | send block =>
      have valid : block.Valid := sound.program (.send block) (by simp [next])
      rw [before, begin, sendGoes_calls, Endpoint.sendEntry_of_ready ready valid.1]
      rfl
  | receive block bReadFully =>
      have valid : block.Valid := sound.program (.receive block bReadFully) (by simp [next])
      rw [before, begin, receiveGoes_calls, Endpoint.receiveEntry_of_ready ready valid.1]
      rfl

/-- What a call accepts is the next piece of the payload. -/
theorem write_moves (sound : party.Sound) {state : SendState} {answer : SendAnswer}
    (active : party.doing = .sending block state)
    (accepted : ∀ call ∈ sendCalls (endpoint.sendTurn block.uSize) state answer, call.Accepted) :
    Moves Finished.Whole party
      (party.sendGoes block (endpoint.sendTurn block.uSize state answer))
      (block.pData.read state.total answer.result.toNat) [] := by
  have inside := sound.sending active
  have below := inside.below
  obtain ⟨some, within⟩ := (Endpoint.accepted_iff inside).mp accepted
  obtain ⟨position, offset⟩ := Int.eq_ofNat_of_zero_le inside.lower
  obtain ⟨count, result⟩ := Int.eq_ofNat_of_zero_le (Int.le_trans Int.one_nonneg some)
  rw [offset, result] at within
  have turned := @Endpoint.sendTurn_accepts endpoint block.uSize position state answer inside.fits
    offset some (result ▸ within)
  rw [result] at some turned
  have grown : block.pData.read 0 (position + count) =
      block.pData.read 0 position ++ block.pData.read state.total count := by
    rw [Buffer.read_add, Int.zero_add, offset]
  have advanced : ((position : Int) + count).toNat = position + count := by omega
  rw [result, Int.toNat_natCast]
  by_cases going : (position : Int) + count < block.uSize
  · rw [if_pos going] at turned
    rw [turned, sendGoes]
    refine moves_on sound ⟨inside.fits, by simp only; omega, going⟩ ?_ ?_ ?_ ?_
    · simp [Doing.written, active, offset, advanced, grown]
    · simp [Doing.stored, active]
    · simp [Doing.actions, active]
    · simp only [active, Doing.remaining, offset, advanced]
      omega
  · rw [if_neg going] at turned
    have whole : (position : Int) + count = block.uSize := by omega
    rw [turned, sendGoes]
    refine moves_off sound _ ?_ rfl ?_ ?_ ?_ ?_
    · simp [Finished.Honest, whole]
    · simp [Doing.written, Finished.written, active, offset, advanced, grown]
    · simp [Doing.stored, Finished.stored, active]
    · simp [Doing.actions, Finished.action, active]
    · simp only [active, Doing.remaining]
      omega

/-- A call that fails accepts nothing and ends the operation. -/
theorem writeFails_moves (sound : party.Sound) {state : SendState} {answer : SendAnswer}
    (active : party.doing = .sending block state)
    (failed : ∀ call ∈ sendCalls (endpoint.sendTurn block.uSize) state answer, call.Failed) :
    Moves (fun _ => True) party
      (party.sendGoes block (endpoint.sendTurn block.uSize state answer))
      (block.pData.read state.total answer.result.toNat) [] := by
  obtain ⟨fails, lower⟩ := Endpoint.failed_iff.mp failed
  have nothing : answer.result.toNat = 0 := Int.toNat_of_nonpos fails.nonpos
  have inside := sound.sending active
  have below := inside.below
  obtain ⟨position, offset⟩ := Int.eq_ofNat_of_zero_le inside.lower
  obtain ⟨failed, -, turned⟩ := @Endpoint.sendTurn_fails endpoint block.uSize position state answer
    offset fails lower
  rw [turned, sendGoes, nothing, Buffer.read_zero]
  refine moves_off sound _ ?_ trivial ?_ ?_ ?_ ?_
  · simp [Finished.Honest, inside.lower, Int.le_of_lt below, Int.ne_of_lt below]
  · simp [Doing.written, Finished.written, active]
  · simp [Doing.stored, Finished.stored, active]
  · simp [Doing.actions, Finished.action, active]
  · simp only [active, Doing.remaining]
    omega

/-- What a call delivers goes behind what is stored. -/
theorem data_moves (sound : party.Sound) {bReadFully : Bool} {state : ReceiveState}
    {bytes : List UInt8} (active : party.doing = .receiving block bReadFully state)
    (some : 1 ≤ bytes.length) (within : bytes.length ≤ window block.uSize state.total) :
    Moves Finished.Whole party
      (party.receiveGoes block bReadFully
        (endpoint.recvTurn block.uSize bReadFully state (.data bytes))) [] bytes := by
  obtain ⟨counting, buffer, memory⟩ := sound.receiving active
  have below := counting.upper
  have length := counting.inside.window_eq
  obtain ⟨trace, turned⟩ := @Endpoint.recvTurn_takes endpoint block.uSize state buffer counting
    memory bReadFully bytes some within
  obtain ⟨position, offset⟩ := Int.eq_ofNat_of_zero_le counting.lower
  have advanced : ((position : Int) + bytes.length).toNat = position + bytes.length := by omega
  have grown : (buffer.write position bytes).read 0 (position + bytes.length) =
      buffer.read 0 position ++ bytes := Buffer.read_write_append buffer position bytes
  by_cases going : bReadFully ∧ state.total + bytes.length < block.uSize
  · simp only [if_pos going] at turned
    rw [turned, receiveGoes]
    refine moves_on sound ⟨⟨counting.fits, by simp only; omega, going.2⟩, _, rfl⟩ ?_ ?_ ?_ ?_
    · simp [Doing.written, active]
    · simp [Doing.stored, active, memory, offset, advanced, grown]
    · simp [Doing.actions, active]
    · simp only [active, Doing.remaining, offset, advanced]
      omega
  · simp only [if_neg going] at turned
    rw [turned, receiveGoes]
    refine moves_off sound _ ?_ ?_ ?_ ?_ ?_ ?_
    · refine ⟨?_, ?_, by simp [Stream.outcome]⟩
      · simp only
        omega
      · simp only
        omega
    · intro fully
      have filled : ¬ state.total + bytes.length < block.uSize := fun less => going ⟨fully, less⟩
      simp only
      omega
    · simp [Doing.written, Finished.written, active]
    · simp [Doing.stored, Finished.stored, Stream.outcome, active, memory, offset, advanced, grown]
    · simp [Doing.actions, Finished.action, active]
    · simp only [active, Doing.remaining]
      omega

theorem read_moves (sound : party.Sound) {bReadFully : Bool} {state : ReceiveState}
    {answer : RecvAnswer} {queue : List UInt8}
    (active : party.doing = .receiving block bReadFully state)
    (delivered : ∀ call ∈ receiveCalls (endpoint.recvTurn block.uSize bReadFully) state answer,
      call.Delivered queue answer.bytes) :
    (endpoint.readCall block.uSize state.total answer.result).forgets = false ∧
      Moves Finished.Whole party
        (party.receiveGoes block bReadFully
          (endpoint.recvTurn block.uSize bReadFully state answer)) []
        (queue.take answer.result.toNat) := by
  have inside := (sound.receiving active).1.inside
  obtain ⟨count, some, within, available, rfl⟩ := (Endpoint.delivered_iff inside).mp delivered
  have length := inside.window_eq
  have taken : (queue.take count).length = count := by
    rw [List.length_take, Nat.min_eq_left available]
  have moves := @data_moves _ _ endpoint sound bReadFully state _ active (taken.symm ▸ some)
    (by omega)
  refine ⟨Endpoint.readCall_remembers (Int.natCast_nonneg _), ?_⟩
  rwa [RecvAnswer.result, Int.toNat_natCast, taken]

/-- A call that delivers nothing ends the operation and loses nothing. -/
theorem stop_moves (sound : party.Sound) {bReadFully : Bool} {state : ReceiveState}
    {result : Int} (error : Int) (active : party.doing = .receiving block bReadFully state)
    (stops : result = 0 ∨ (endpoint.readCall block.uSize state.total result).Failed ∧
      (endpoint.readCall block.uSize state.total result).forgets = false) :
    Moves (fun _ => True) party
      (party.receiveGoes block bReadFully
        (endpoint.recvTurn block.uSize bReadFully state (.status result error))) [] [] := by
  obtain ⟨counting, buffer, memory⟩ : Counting block.uSize state ∧
      ∃ buffer, state.pData = some buffer := by
    have doing := sound.doing
    rwa [active] at doing
  have lower := counting.lower
  have below := counting.upper
  obtain ⟨received, turned, kept, value, least, most⟩ := @Endpoint.recvTurn_stops endpoint
    block.uSize state buffer counting memory bReadFully result error stops
  rw [turned, receiveGoes]
  have reported : (Stream.outcome received).2.length = received.value.toNat := by
    simp [Stream.outcome, kept]
  refine moves_off sound _ ⟨least, Int.le_of_lt most, reported⟩ trivial ?_ ?_ ?_ ?_
  · simp [Doing.written, Finished.written, active]
  · simp [Doing.stored, Finished.stored, Stream.outcome, active, memory, kept, value]
  · simp [Doing.actions, Finished.action, active]
  · simp only [active, Doing.remaining]
    omega

end

/-- What a `recv` that fails behind data does to the party that makes it. -/
structure Forgets (before after : Party) : Prop where
  sound : after.Sound
  written : after.written = before.written
  stored : ∃ byte, before.stored = after.stored ++ [byte]
  plan : after.plan = before.plan
  remaining : after.remaining ≤ before.remaining + 1

theorem forget_moves {party : Party} {block : Block} {endpoint : Endpoint} (sound : party.Sound)
    {bReadFully : Bool} {state : ReceiveState} {result : Int} (error : Int)
    (active : party.doing = .receiving block bReadFully state)
    (failed : (endpoint.readCall block.uSize state.total result).Failed)
    (forgets : (endpoint.readCall block.uSize state.total result).forgets = true) :
    Forgets party
      (party.receiveGoes block bReadFully
        (endpoint.recvTurn block.uSize bReadFully state (.status result error))) := by
  obtain ⟨counting, buffer, memory⟩ := sound.receiving active
  have upper := counting.upper
  obtain ⟨behind, trace, turned⟩ := @Endpoint.recvTurn_forgets endpoint block.uSize state buffer
    counting memory bReadFully result error failed forgets
  obtain ⟨position, offset⟩ := Int.eq_ofNat_of_zero_le (show 0 ≤ state.total - 1 by omega)
  have before : state.total.toNat = position + 1 := by omega
  have whole : buffer.read 0 (position + 1) = buffer.read 0 position ++ [buffer position] := by
    rw [Buffer.read_add, Int.zero_add]
    simp [Buffer.read]
  simp only [offset] at turned
  rw [turned]
  cases bReadFully with
  | true =>
      refine ⟨⟨sound.program, ⟨⟨counting.fits, Int.natCast_nonneg position, ?_⟩, _, rfl⟩,
        sound.finished⟩, ?_, ⟨buffer position, ?_⟩, ?_, ?_⟩
      · simp only
        omega
      · simp [receiveGoes, written, Doing.written, active]
      · simp [receiveGoes, stored, Doing.stored, active, memory, before, whole]
      · simp [receiveGoes, plan, Doing.actions, active]
      · simp only [receiveGoes, remaining, active, Doing.remaining, if_true]
        omega
  | false =>
      have honest : Finished.Honest (.received block false
          { total := position, pData := Option.some buffer, trace, value := position }) := by
        refine ⟨?_, ?_, by simp [Stream.outcome]⟩
        · simp only
          omega
        · simp only
          omega
      refine ⟨⟨sound.program, trivial, ?_⟩, ?_, ⟨buffer position, ?_⟩, ?_, ?_⟩
      · simpa [receiveGoes, or_imp, forall_and] using ⟨sound.finished, honest⟩
      · simp [receiveGoes, written, Doing.written, Finished.written, active]
      · simp [receiveGoes, stored, Doing.stored, Finished.stored, Stream.outcome, active, memory,
          before, whole]
      · simp [receiveGoes, plan, Doing.actions, Finished.action, active]
      · simp only [receiveGoes, remaining, active, Doing.remaining, Bool.false_eq_true, if_false]
        omega

end Party

namespace Conversation

variable {ends : Side → Endpoint} {room : Side → Nat} {before after : Conversation} {side : Side}

/-- A bound on the steps of one side that are still to come. -/
def remaining (conversation : Conversation) (side : Side) : Nat :=
  (conversation.party side).remaining + if conversation.closed side then 0 else 1

/-- A step of one side that leaves the other side alone. -/
structure Advances (before after : Conversation) (side : Side) (forgotten : Nat) : Prop where
  sound : (after.party side).Sound
  plan : (after.party side).plan <+: (before.party side).plan
  calls : ∃ added, (after.party side).calls = added ++ (before.party side).calls ∧
    added.countP Call.forgets = forgotten
  remaining : after.remaining side < before.remaining side + 2 * forgotten
  other : after.party side.other = before.party side.other
  closed : after.closed side.other = before.closed side.other
  carries : ∀ lost, before.Carries Party.written Party.stored lost →
    after.Carries Party.written Party.stored (Link.charge lost side.other forgotten)

theorem remaining_lt {forgotten : Nat}
    (fewer : (after.party side).remaining < (before.party side).remaining + 2 * forgotten)
    (closed : after.closed side = before.closed side) :
    after.remaining side < before.remaining side + 2 * forgotten := by
  rw [remaining, remaining, closed]
  omega

section

variable {report : Finished → Prop}

/-- A call of the party on this side, with what it does to the queues, is a step of this side. -/
theorem advances_of_moves {sent got : List UInt8}
    (moves : Party.Moves report (before.party side) (after.party side) sent got)
    (calls : ∃ added, (after.party side).calls = added ++ (before.party side).calls ∧
      added.countP Call.forgets = 0)
    (other : after.party side.other = before.party side.other)
    (closed : after.closed = before.closed)
    (carries : ∀ lost, before.Carries Party.written Party.stored lost →
      after.Carries Party.written Party.stored lost) :
    Advances before after side 0 where
  sound := moves.sound
  plan := moves.plan ▸ List.prefix_rfl
  calls := calls
  remaining := remaining_lt moves.remaining (congrFun closed side)
  other := other
  closed := congrFun closed side.other
  carries := fun lost kept => (Link.charge_zero lost side.other).symm ▸ carries lost kept

theorem advances_begin {party : Party}
    (moves : Party.Moves report (before.party side) party [] [])
    (calls : party.calls = (before.party side).calls) :
    Advances before { before with toLink := before.withParty side party } side 0 := by
  have written : party.written = (before.party side).written := by simpa using moves.written
  have stored : party.stored = (before.party side).stored := by simpa using moves.stored
  have moved : Party.Moves report (before.party side)
      ((before.withParty side party).party side) [] [] := by
    rwa [Link.withParty_self]
  exact advances_of_moves moved ⟨[], by rwa [Link.withParty_self], rfl⟩
    (Link.withParty_other ..) rfl fun lost carries => carries.keep written stored

variable {endpoint : Endpoint} {block : Block}

theorem write_calls {state : SendState} (answer : SendAnswer)
    (active : (before.party side).doing = .sending block state) :
    ∃ added, ((before.write endpoint side block state answer).party side).calls =
        added ++ (before.party side).calls ∧ added.countP Call.forgets = 0 := by
  have made : (before.party side).calls = state.trace := by simp [Party.calls, active]
  have silent : (endpoint.call block.uSize state.total answer.result).forgets = false := by
    cases endpoint <;> rfl
  have calls := countP_forgets (endpoint.sendTurn_calls block.uSize state answer)
  rw [silent] at calls
  rwa [write_self, Party.sendGoes_calls, made]

theorem advances_write {state : SendState} {answer : SendAnswer}
    (active : (before.party side).doing = .sending block state)
    (moves : Party.Moves report (before.party side)
      ((before.party side).sendGoes block (endpoint.sendTurn block.uSize state answer))
      (block.pData.read state.total answer.result.toNat) []) :
    Advances before (before.write endpoint side block state answer) side 0 := by
  have moved : Party.Moves report (before.party side)
      ((before.write endpoint side block state answer).party side)
      (block.pData.read state.total answer.result.toNat) [] := by
    rwa [write_self]
  have calls := @write_calls _ _ endpoint block state answer active
  refine advances_of_moves moved calls (write_other ..) rfl fun lost carries => ?_
  exact carries.push (by rw [Endpoint.putBy_sendCalls]; exact moves.written)
    (by simpa using moves.stored)

section

variable {bReadFully : Bool} {state : ReceiveState}

theorem read_calls (answer : RecvAnswer)
    (active : (before.party side).doing = .receiving block bReadFully state) :
    ∃ added, ((before.read endpoint side block bReadFully state answer).party side).calls =
        added ++ (before.party side).calls ∧
      added.countP Call.forgets =
        (endpoint.readCall block.uSize state.total answer.result).forgets.toNat := by
  have made : (before.party side).calls = state.trace := by simp [Party.calls, active]
  rw [read_self, Party.receiveGoes_calls, made]
  exact countP_forgets (endpoint.recvTurn_calls block.uSize bReadFully state answer)

theorem advances_read {answer : RecvAnswer}
    (active : (before.party side).doing = .receiving block bReadFully state)
    (remembers : (endpoint.readCall block.uSize state.total answer.result).forgets = false)
    (moves : Party.Moves report (before.party side)
      ((before.party side).receiveGoes block bReadFully
        (endpoint.recvTurn block.uSize bReadFully state answer)) []
      ((before.queue side.other).take answer.result.toNat)) :
    Advances before (before.read endpoint side block bReadFully state answer) side 0 := by
  have moved : Party.Moves report (before.party side)
      ((before.read endpoint side block bReadFully state answer).party side) []
      ((before.queue side.other).take answer.result.toNat) := by
    rwa [read_self]
  have calls := @read_calls _ _ endpoint block bReadFully state answer active
  rw [remembers] at calls
  refine advances_of_moves moved calls (read_other ..) rfl fun lost carries => ?_
  exact carries.pop (by simpa using moves.written)
    (by rw [Endpoint.takenBy_receiveCalls]; exact moves.stored)

theorem advances_forget {result error : Int}
    (active : (before.party side).doing = .receiving block bReadFully state)
    (nothing : result ≤ 0)
    (forgets : (endpoint.readCall block.uSize state.total result).forgets = true)
    (moves : Party.Forgets (before.party side)
      ((before.party side).receiveGoes block bReadFully
        (endpoint.recvTurn block.uSize bReadFully state (.status result error)))) :
    Advances before (before.read endpoint side block bReadFully state (.status result error))
      side 1 where
  sound := by
    rw [read_self]
    exact moves.sound
  plan := by
    rw [read_self, moves.plan]
  calls := by
    have calls := @read_calls _ _ endpoint block bReadFully state (.status result error) active
    rwa [RecvAnswer.result, forgets] at calls
  remaining := by
    have bounded := moves.remaining
    refine remaining_lt ?_ rfl
    rw [read_self]
    omega
  other := read_other ..
  closed := rfl
  carries := fun lost carries => by
    obtain ⟨byte, shrinks⟩ := moves.stored
    have taken : endpoint.takenBy (receiveCalls (endpoint.recvTurn block.uSize bReadFully) state
        (.status result error)) = 0 := by
      rw [Endpoint.takenBy_receiveCalls, RecvAnswer.result]
      omega
    have kept := carries.forget moves.written shrinks
    simpa [read, taken] using kept

end

theorem advances_close (sound : (before.party side).Sound)
    (idle : (before.party side).doing = .idle) (isOpen : before.closed side = false) :
    Advances before (before.close side { before.party side with program := [] }) side 0 := by
  have emptied : Party.Sound { before.party side with program := [] } :=
    ⟨fun _ => nofun, sound.doing, sound.finished⟩
  refine ⟨?_, ?_, ⟨[], ?_, rfl⟩, ?_, close_other .., ?_, ?_⟩
  · rwa [close_self]
  · simp [Party.plan, idle, Doing.actions]
  · rw [close_self]
    rfl
  · simp only [Conversation.remaining, close_self, close_closed, Party.remaining, isOpen,
      List.map_nil, List.sum_nil, if_true, Bool.false_eq_true, if_false]
    omega
  · simp [close]
  · intro lost carries
    rw [Link.charge_zero]
    exact carries.keep rfl rfl

end

theorem turn_advances (ready : ∀ side, (ends side).Ready)
    (sound : ∀ side, (before.party side).Sound) (turn : Turn ends room before after) :
    ∃ side, Advances before after side 0 := by
  cases turn with
  | @call side action rest idle next =>
      exact ⟨side, @advances_begin _ _ (fun _ => True) _
        (Party.begin_moves (ready side) (sound side) idle next)
        (Party.begin_calls (ready side) (sound side) idle next)⟩
  | @write side block state answer active accepted =>
      exact ⟨side, advances_write active (Party.write_moves (sound side) active accepted)⟩
  | @read side block bReadFully state answer active delivered =>
      obtain ⟨remembers, moves⟩ := Party.read_moves (sound side) active delivered
      exact ⟨side, advances_read active remembers moves⟩
  | @readEnd side block bReadFully state error active =>
      exact ⟨side, advances_read active (Endpoint.readCall_remembers (Int.le_refl 0))
        (Party.stop_moves (sound side) error active (.inl rfl))⟩
  | @close side idle finished isOpen =>
      have same : { before.party side with program := [] } = before.party side := by
        rw [← finished]
      exact ⟨side, same ▸ advances_close (sound side) idle isOpen⟩

theorem fault_advances (sound : ∀ side, (before.party side).Sound)
    (fault : Fault ends before after) :
    ∃ side forgotten, Advances before after side forgotten := by
  cases fault with
  | @writeFails side block state answer active failed =>
      exact ⟨side, 0, advances_write active (Party.writeFails_moves (sound side) active failed)⟩
  | @readFails side block bReadFully state result error active failed =>
      have failed := Endpoint.readFailed_iff.mp failed
      have nothing : result ≤ 0 := Endpoint.readCall_nonpos failed
      cases forgets : ((ends side).readCall block.uSize state.total result).forgets with
      | true =>
          exact ⟨side, 1, advances_forget active nothing forgets
            (Party.forget_moves (sound side) error active failed forgets)⟩
      | false =>
          exact ⟨side, 0, advances_read active forgets (by
            have taken : (RecvAnswer.status result error).result.toNat = 0 :=
              Int.toNat_of_nonpos nothing
            rw [taken]
            exact Party.stop_moves (sound side) error active (.inr ⟨failed, forgets⟩))⟩
  | @abandon side idle isOpen => exact ⟨side, 0, advances_close (sound side) idle isOpen⟩

/-- What holds after any steps: nothing is reordered on either way, and lost is only what the
failures behind data have taken back. -/
structure Faithful (program : Side → List Action) (trace : Side → Trace)
    (conversation : Conversation) : Prop where
  sound : ∀ side, (conversation.party side).Sound
  plan : ∀ side, (conversation.party side).plan <+: program side
  calls : ∀ side, ∃ made, (conversation.party side).calls = made ++ trace side
  carries : conversation.Carries Party.written Party.stored (conversation.lost trace)

section

variable {program : Side → List Action} {trace : Side → Trace} {forgotten : Nat}

theorem Advances.lost_eq (advances : Advances before after side forgotten)
    (calls : ∃ made, (before.party side).calls = made ++ trace side) :
    after.lost trace = Link.charge (before.lost trace) side.other forgotten := by
  funext place
  rw [Link.charge]
  rcases side.eq_or_other place with rfl | rfl
  · rw [if_neg place.ne_other, Nat.add_zero, lost, lost, advances.other]
  · obtain ⟨made, before⟩ := calls
    obtain ⟨added, after, counted⟩ := advances.calls
    rw [before, ← List.append_assoc] at after
    rw [if_pos rfl, lost, lost, Side.other_other, after, before, since_append, since_append,
      List.countP_append, counted, Nat.add_comm]

theorem Faithful.advances (faithful : Faithful program trace before)
    (advances : Advances before after side forgotten) : Faithful program trace after where
  sound := by
    intro place
    rcases side.eq_or_other place with rfl | rfl
    · exact advances.sound
    · exact advances.other ▸ faithful.sound side.other
  plan := by
    intro place
    rcases side.eq_or_other place with rfl | rfl
    · exact advances.plan.trans (faithful.plan place)
    · exact advances.other ▸ faithful.plan side.other
  calls := by
    intro place
    rcases side.eq_or_other place with rfl | rfl
    · obtain ⟨made, before⟩ := faithful.calls place
      obtain ⟨added, after, -⟩ := advances.calls
      exact ⟨added ++ made, by rw [after, before, List.append_assoc]⟩
    · exact advances.other ▸ faithful.calls side.other
  carries := by
    rw [advances.lost_eq (faithful.calls side)]
    exact advances.carries _ faithful.carries

/-- Two steps more for each byte that is lost: one that has got it and one that gets it again. -/
def credit (trace : Side → Trace) (conversation : Conversation) : Nat :=
  2 * (conversation.lost trace .left + conversation.lost trace .right)

theorem Advances.total (advances : Advances before after side forgotten)
    (calls : ∃ made, (before.party side).calls = made ++ trace side) :
    after.remaining .left + after.remaining .right + before.credit trace <
      before.remaining .left + before.remaining .right + after.credit trace := by
  have less := advances.remaining
  have same : after.remaining side.other = before.remaining side.other := by
    rw [Conversation.remaining, advances.other, advances.closed, Conversation.remaining]
  have lost := congrFun (advances.lost_eq calls)
  have left := lost .left
  have right := lost .right
  cases side with
  | left =>
      simp only [Side.other, Link.charge, reduceCtorEq, if_true, if_false] at same left right
      simp only [credit]
      omega
  | right =>
      simp only [Side.other, Link.charge, reduceCtorEq, if_true, if_false] at same left right
      simp only [credit]
      omega

theorem faithful_step (ready : ∀ side, (ends side).Ready)
    (faithful : Faithful program trace before) (step : Step ends room before after) :
    Faithful program trace after ∧
      after.remaining .left + after.remaining .right + before.credit trace <
        before.remaining .left + before.remaining .right + after.credit trace := by
  obtain ⟨side, forgotten, advances⟩ : ∃ side forgotten, Advances before after side forgotten := by
    rcases step with turn | fault
    · obtain ⟨side, advances⟩ := turn_advances ready faithful.sound turn
      exact ⟨side, 0, advances⟩
    · exact fault_advances faithful.sound fault
  exact ⟨faithful.advances advances, advances.total (faithful.calls side)⟩

theorem start_lost (program : Side → List Action) (trace : Side → Trace) (side : Side) :
    (start program trace).lost trace side = 0 := by
  simp [lost, start, Party.calls]

theorem faithful_start (valid : ∀ side, ∀ action ∈ program side, action.block.Valid)
    (trace : Side → Trace) : Faithful program trace (start program trace) where
  sound := fun side => ⟨valid side, trivial, by simp [start]⟩
  plan := fun side => by simp [start, Party.plan, Doing.actions]
  calls := fun side => ⟨[], rfl⟩
  carries := fun side => by
    rw [start_lost]
    simp [start, Party.written, Party.stored, Doing.written, Doing.stored]

end

end Conversation

end SocketCpp
