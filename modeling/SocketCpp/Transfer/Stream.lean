import Mathlib.Algebra.GroupWithZero.Nat
import Mathlib.Logic.Relation
import SocketCpp.Transfer.Wire

namespace SocketCpp

open Data

/-! A stream between two plain peers.

One side makes a list of `Send` calls and then closes, the other a list of fully
reading `Receive` calls.  A step is one call of `send`, `recv` or the close, or the
entry into the next `Send` or `Receive`, in any order.  The channel between them
is a lossless queue, and what goes in and out of it is read off the recorded calls. -/

/-- Memory given to a `Send` or a `Receive`. -/
structure Block where
  pData : Buffer UInt8
  uSize : Nat

def Block.content (block : Block) : List UInt8 :=
  block.pData.read 0 block.uSize

/-- A size that an `int` can count. -/
def Block.Valid (block : Block) : Prop :=
  0 < block.uSize ∧ block.uSize ≤ intMax

structure Stream where
  messages : List Block
  sending : Option (Block × SendState)
  sent : List Bool
  senderTrace : Trace
  channel : List UInt8
  closed : Bool
  requests : List Block
  receiving : Option (Block × ReceiveState)
  completed : List (Block × Received)
  receiverTrace : Trace

namespace Stream

def start (messages requests : List Block) (senderTrace receiverTrace : Trace) : Stream where
  messages := messages
  sending := none
  sent := []
  senderTrace := senderTrace
  channel := []
  closed := false
  requests := requests
  receiving := none
  completed := []
  receiverTrace := receiverTrace

def sendGoes (stream : Stream) (message : Block) : SendState ⊕ Sent → Stream
  | .inl state => { stream with sending := some (message, state) }
  | .inr result =>
      { stream with
        sending := none, senderTrace := result.trace, sent := stream.sent ++ [result.value] }

def receiveGoes (stream : Stream) (request : Block) : ReceiveState ⊕ Received → Stream
  | .inl state => { stream with receiving := some (request, state) }
  | .inr result =>
      { stream with
        receiving := none, receiverTrace := result.trace
        completed := stream.completed ++ [(request, result)] }

inductive Step (sender receiver : PlainPeer) : Stream → Stream → Prop where
  | callSend {stream : Stream} {message : Block} {rest : List Block}
      (idle : stream.sending = none) (next : stream.messages = message :: rest) :
      Step sender receiver stream
        ({ stream with messages := rest }.sendGoes message
          (sender.sendEntry (some message.pData) message.uSize stream.senderTrace))
  | send {stream : Stream} {message : Block} {state : SendState} {answer : SendAnswer}
      (active : stream.sending = some (message, state))
      (accepted : ∀ call ∈ sendCalls (sender.sendTurn message.uSize) state answer,
        call.Accepted) :
      Step sender receiver stream
        ({ stream with
            channel := stream.channel ++ (Endpoint.plain sender).putBy message.pData
              (sendCalls (sender.sendTurn message.uSize) state answer) }.sendGoes message
          (sender.sendTurn message.uSize state answer))
  | close {stream : Stream} (idle : stream.sending = none) (finished : stream.messages = []) :
      Step sender receiver stream { stream with closed := true }
  | callReceive {stream : Stream} {request : Block} {rest : List Block}
      (idle : stream.receiving = none) (next : stream.requests = request :: rest) :
      Step sender receiver stream
        ({ stream with requests := rest }.receiveGoes request
          (receiver.receiveEntry (some request.pData) request.uSize stream.receiverTrace))
  | recv {stream : Stream} {request : Block} {state : ReceiveState} {answer : RecvAnswer}
      (active : stream.receiving = some (request, state))
      (delivered : ∀ call ∈ receiveCalls (receiver.recvTurn request.uSize true) state answer,
        call.Delivered stream.channel answer.bytes) :
      Step sender receiver stream
        ({ stream with
            channel := stream.channel.drop ((Endpoint.plain receiver).takenBy
              (receiveCalls (receiver.recvTurn request.uSize true) state answer)) }.receiveGoes
          request (receiver.recvTurn request.uSize true state answer))
  | recvEnd {stream : Stream} {request : Block} {state : ReceiveState}
      (active : stream.receiving = some (request, state)) (ended : stream.closed = true)
      (empty : stream.channel = []) :
      Step sender receiver stream
        (stream.receiveGoes request (receiver.recvTurn request.uSize true state (.status 0 0)))

def Reachable (sender receiver : PlainPeer) : Stream → Stream → Prop :=
  Relation.ReflTransGen (Step sender receiver)

/-! What the two sides hold. -/

def outcome (result : Received) : Int × List UInt8 :=
  (result.value, (result.pData.map fun buffer => buffer.read 0 result.value.toNat).getD [])

def filled : Option (Block × ReceiveState) → List UInt8
  | none => []
  | some (_, state) => (state.pData.map fun buffer => buffer.read 0 state.total.toNat).getD []

def unsent : Option (Block × SendState) → List Block → List UInt8
  | none, messages => messages.flatMap Block.content
  | some (message, state), messages =>
      message.pData.read state.total (message.uSize - state.total.toNat) ++
        messages.flatMap Block.content

/-- The completed buffers, and then the filled part of the current one. -/
def stored (stream : Stream) : List UInt8 :=
  (stream.completed.flatMap fun entry => (outcome entry.2).2) ++ filled stream.receiving

/-- What reading a stream by requests of given sizes gives: each request takes
what it asks for, or what is left. -/
def served : List UInt8 → List Nat → List (List UInt8)
  | _, [] => []
  | stream, size :: sizes => stream.take size :: served (stream.drop size) sizes

def remaining (stream : List UInt8) (sizes : List Nat) : List UInt8 :=
  stream.drop sizes.sum

theorem served_append (stream : List UInt8) (first second : List Nat) :
    served stream (first ++ second) =
      served stream first ++ served (remaining stream first) second := by
  induction first generalizing stream with
  | nil => simp [served, remaining]
  | cons size first ih => simp [served, remaining, ih, List.drop_drop]

theorem served_flatten (stream : List UInt8) (sizes : List Nat) :
    (served stream sizes).flatten ++ remaining stream sizes = stream := by
  induction sizes generalizing stream with
  | nil => simp [served, remaining]
  | cons size sizes ih =>
      have rest := ih (stream.drop size)
      simp only [remaining, List.drop_drop, List.sum_cons, served, List.flatten_cons] at rest ⊢
      rw [List.append_assoc, rest, List.take_append_drop]

theorem served_take (stream : List UInt8) (sizes : List Nat) (count : Nat) :
    served stream (sizes.take count) = (served stream sizes).take count := by
  induction sizes generalizing stream count with
  | nil => simp [served]
  | cons size sizes ih =>
      cases count with
      | zero => rfl
      | succ count => simp [served, ih]

theorem served_getElem? (stream : List UInt8) (sizes : List Nat) (index : Nat) :
    (served stream sizes)[index]? =
      sizes[index]?.map fun size => (remaining stream (sizes.take index)).take size := by
  induction sizes generalizing stream index with
  | nil => simp [served]
  | cons size sizes ih =>
      cases index with
      | zero => simp [served, remaining]
      | succ index => simp [served, remaining, ih, List.drop_drop]

theorem served_snoc {stream bytes later : List UInt8} {sizes : List Nat} {size : Nat}
    (rest : remaining stream sizes = bytes ++ later)
    (took : bytes.length = size ∨ later = [] ∧ bytes.length ≤ size) :
    served stream (sizes ++ [size]) = served stream sizes ++ [bytes] ∧
      remaining stream (sizes ++ [size]) = later := by
  have dropped : remaining stream (sizes ++ [size]) = (remaining stream sizes).drop size := by
    simp [remaining, List.drop_drop]
  rw [served_append, dropped, rest]
  simp only [served]
  rcases took with exactly | ⟨rfl, atMost⟩
  · rw [← exactly, List.take_left, List.drop_left]
    exact ⟨rfl, rfl⟩
  · rw [List.append_nil, List.take_of_length_le atMost, List.drop_of_length_le atMost]
    exact ⟨rfl, rfl⟩

theorem sendTurn_moves (sender : PlainPeer) {uSize : Nat} {state : SendState}
    {answer : SendAnswer} (inside : Inside uSize state.total) (some : 1 ≤ answer.result)
    (within : state.total + answer.result ≤ uSize) :
    (state.total + answer.result < uSize ∧ ∃ next,
      sender.sendTurn uSize state answer = .inl next ∧
        next.total = state.total + answer.result) ∨
    (state.total + answer.result = uSize ∧ ∃ result,
      sender.sendTurn uSize state answer = .inr result ∧ result.value = true) := by
  have succeeded : ¬ answer.result < 0 := by omega
  obtain ⟨sent, summed, compared⟩ :=
    counts_within inside.fits inside.lower (by omega : 0 ≤ answer.result) within
  obtain ⟨failed, -, turn⟩ := sender.sendTurn_eq uSize state answer
  simp only [sent, summed, compared, succeeded, if_false] at turn
  by_cases going : state.total + answer.result < uSize
  · rw [if_pos going] at turn
    exact .inl ⟨going, _, turn, rfl⟩
  · rw [if_neg going] at turn
    exact .inr ⟨by omega, _, turn, rfl⟩

/-- A call of `recv` in the bounds of its request fills the buffer further, or
ends the request. -/
theorem recvTurn_takes (receiver : PlainPeer) {uSize : Nat} {state : ReceiveState}
    {buffer : Buffer UInt8} {bytes : List UInt8} (counting : Counting uSize state)
    (memory : state.pData = .some buffer) (some : 1 ≤ bytes.length)
    (within : bytes.length ≤ window uSize state.total) :
    (state.total + bytes.length < uSize ∧ ∃ next,
      receiver.recvTurn uSize true state (.data bytes) = .inl next ∧
        next.total = state.total + bytes.length ∧
        next.pData = .some (buffer.write state.total bytes)) ∨
    (state.total + bytes.length = uSize ∧ ∃ result,
      receiver.recvTurn uSize true state (.data bytes) = .inr result ∧
        result.value = state.total + bytes.length ∧
        result.pData = .some (buffer.write state.total bytes)) := by
  have nonempty : bytes ≠ [] := List.length_pos_iff.mp some
  have lower := counting.lower
  obtain ⟨-, upper, computed⟩ := recvTurn_of_counting receiver.fd true counting
    (show (RecvAnswer.data bytes).Possible (window uSize state.total) from ⟨nonempty, within⟩)
  have delivers : ¬ (bytes.length : Int) = 0 := by omega
  simp only [RecvAnswer.result, delivers, if_false, true_and, RecvAnswer.store, memory,
    Option.map_some, RecvAnswer.bytes] at computed upper
  by_cases going : state.total + bytes.length < uSize
  · rw [if_pos ⟨by omega, going⟩] at computed
    exact .inl ⟨going, _, computed, rfl, rfl⟩
  · rw [if_neg fun both => going both.2] at computed
    exact .inr ⟨by omega, _, computed, rfl, rfl⟩

/-- The invariant: everything sent so far is stored, in the channel, or still to
be sent, in this order, and the completed requests have been served from it. -/
structure Faithful (messages requests : List Block) (stream : Stream) : Prop where
  sending : ∀ message state, stream.sending = some (message, state) →
    message.uSize ≤ intMax ∧ 0 ≤ state.total ∧ state.total < message.uSize
  toSend : ∀ message ∈ stream.messages, message.Valid
  closes : stream.closed = true → stream.sending = none ∧ stream.messages = []
  receiving : ∀ request state, stream.receiving = some (request, state) →
    Counting request.uSize state ∧ ∃ buffer, state.pData = some buffer
  toReceive : ∀ request ∈ stream.requests, request.Valid
  order : requests = stream.completed.map Prod.fst ++
    ((stream.receiving.map Prod.fst).toList ++ stream.requests)
  results : stream.completed.map (fun entry => outcome entry.2) =
    (served (messages.flatMap Block.content) (stream.completed.map fun entry => entry.1.uSize)).map
      fun bytes => ((bytes.length : Int), bytes)
  rest : remaining (messages.flatMap Block.content)
      (stream.completed.map fun entry => entry.1.uSize) =
    filled stream.receiving ++ (stream.channel ++ unsent stream.sending stream.messages)
  succeeds : ∀ value ∈ stream.sent, value = true

theorem faithful_start {messages requests : List Block}
    (validMessages : ∀ message ∈ messages, message.Valid)
    (validRequests : ∀ request ∈ requests, request.Valid) (senderTrace receiverTrace : Trace) :
    Faithful messages requests (start messages requests senderTrace receiverTrace) where
  sending := by simp [start]
  toSend := validMessages
  closes := by simp [start]
  receiving := by simp [start]
  toReceive := validRequests
  order := by simp [start]
  results := rfl
  rest := by simp [start, remaining, filled, unsent]
  succeeds := by simp [start]

section

variable {sender receiver : PlainPeer} {messages requests : List Block} {stream : Stream}

theorem faithful_callSend (sends : sender.Ready) (faithful : Faithful messages requests stream)
    {message : Block} {rest : List Block} (idle : stream.sending = none)
    (next : stream.messages = message :: rest) :
    Faithful messages requests
      ({ stream with messages := rest }.sendGoes message
        (sender.sendEntry (some message.pData) message.uSize stream.senderTrace)) := by
  have valid : message.Valid := faithful.toSend message (by simp [next])
  rw [PlainPeer.sendEntry_of_ready sends valid.1]
  refine { faithful with
    sending := ?_, toSend := ?_, closes := ?_, rest := ?_ }
  · rintro other state ⟨⟩
    exact ⟨valid.2, Int.le_refl 0, Int.ofNat_lt.mpr valid.1⟩
  · intro other member
    exact faithful.toSend other (by rw [next]; exact List.mem_cons_of_mem message member)
  · intro closed
    have finished := (faithful.closes closed).2
    rw [next] at finished
    cases finished
  · have before := faithful.rest
    simp only [unsent, idle, next, List.flatMap_cons] at before
    exact before

theorem faithful_send (faithful : Faithful messages requests stream) {message : Block}
    {state : SendState} {answer : SendAnswer} (active : stream.sending = some (message, state))
    (accepted : ∀ call ∈ sendCalls (sender.sendTurn message.uSize) state answer,
      call.Accepted) :
    Faithful messages requests
      ({ stream with
          channel := stream.channel ++ (Endpoint.plain sender).putBy message.pData
            (sendCalls (sender.sendTurn message.uSize) state answer) }.sendGoes message
        (sender.sendTurn message.uSize state answer)) := by
  obtain ⟨fits, lower, upper⟩ := faithful.sending message state active
  have inside : Inside message.uSize state.total := ⟨fits, lower, upper⟩
  obtain ⟨moves, within⟩ := (@Endpoint.accepted_iff (.plain sender) _ _ _ inside).mp accepted
  have put : (Endpoint.plain sender).putBy message.pData
      (sendCalls (sender.sendTurn message.uSize) state answer) =
        message.pData.read state.total answer.result.toNat :=
    Endpoint.putBy_sendCalls (.plain sender) message.uSize state answer
  rw [put]
  have notClosed : ¬ stream.closed = true := by
    intro closed
    have idle := (faithful.closes closed).1
    rw [active] at idle
    cases idle
  have before := faithful.rest
  simp only [unsent, active] at before
  rcases sendTurn_moves sender inside moves within with
    ⟨going, next, turn, total⟩ | ⟨finished, result, turn, succeeded⟩
  · rw [turn]
    refine { faithful with
      sending := ?_, closes := fun closed => absurd closed notClosed, rest := ?_ }
    · rintro other later ⟨⟩
      exact ⟨fits, by omega, by omega⟩
    · have split : message.uSize - state.total.toNat =
          answer.result.toNat + (message.uSize - next.total.toNat) := by omega
      have ahead : state.total + answer.result.toNat = next.total := by omega
      rw [split, Buffer.read_add, ahead] at before
      simpa only [unsent, sendGoes, List.append_assoc] using before
  · rw [turn]
    refine { faithful with
      sending := ?_, closes := fun closed => absurd closed notClosed, rest := ?_, succeeds := ?_ }
    · rintro other later ⟨⟩
    · have split : message.uSize - state.total.toNat = answer.result.toNat := by omega
      rw [split] at before
      simpa only [unsent, sendGoes, List.append_assoc] using before
    · intro value member
      rcases List.mem_append.mp member with member | member
      · exact faithful.succeeds value member
      · rw [List.mem_singleton.mp member]
        exact succeeded

theorem faithful_callReceive (receives : receiver.Ready)
    (faithful : Faithful messages requests stream) {request : Block} {rest : List Block}
    (idle : stream.receiving = none) (next : stream.requests = request :: rest) :
    Faithful messages requests
      ({ stream with requests := rest }.receiveGoes request
        (receiver.receiveEntry (some request.pData) request.uSize stream.receiverTrace)) := by
  have valid : request.Valid := faithful.toReceive request (by simp [next])
  rw [PlainPeer.receiveEntry_of_ready receives valid.1]
  refine { faithful with receiving := ?_, toReceive := ?_, order := ?_, rest := ?_ }
  · rintro other state ⟨⟩
    exact ⟨⟨valid.2, Int.le_refl 0, Int.ofNat_lt.mpr valid.1⟩, request.pData, rfl⟩
  · intro other member
    exact faithful.toReceive other (by rw [next]; exact List.mem_cons_of_mem request member)
  · have order := faithful.order
    rw [idle, next] at order
    exact order
  · have before := faithful.rest
    simp only [filled, idle] at before
    exact before

/-- A `Receive` that returns what it has stored, with the buffer full or with
nothing left of the stream, keeps the invariant. -/
theorem faithful_complete (faithful : Faithful messages requests stream) {request : Block}
    {state : ReceiveState} (active : stream.receiving = some (request, state))
    {result : Received} {bytes channel : List UInt8}
    (reported : outcome result = ((bytes.length : Int), bytes))
    (held : filled stream.receiving ++ stream.channel = bytes ++ channel)
    (took : bytes.length = request.uSize ∨
      channel ++ unsent stream.sending stream.messages = [] ∧ bytes.length ≤ request.uSize) :
    Faithful messages requests
      ({ stream with channel }.receiveGoes request (.inr result)) := by
  have before := faithful.rest
  rw [← List.append_assoc, held, List.append_assoc] at before
  obtain ⟨answers, left⟩ := served_snoc before took
  refine { faithful with receiving := ?_, order := ?_, results := ?_, rest := ?_ }
  · rintro other later ⟨⟩
  · have order := faithful.order
    rw [active] at order
    simpa [receiveGoes] using order
  · have results := faithful.results
    simp only [receiveGoes, List.map_append, List.map_cons, List.map_nil, answers, results,
      reported]
  · simpa only [receiveGoes, List.map_append, List.map_cons, List.map_nil, filled,
      List.nil_append] using left

theorem faithful_recv (faithful : Faithful messages requests stream) {request : Block}
    {state : ReceiveState} {answer : RecvAnswer}
    (active : stream.receiving = some (request, state))
    (delivered : ∀ call ∈ receiveCalls (receiver.recvTurn request.uSize true) state answer,
      call.Delivered stream.channel answer.bytes) :
    Faithful messages requests
      ({ stream with
          channel := stream.channel.drop ((Endpoint.plain receiver).takenBy
            (receiveCalls (receiver.recvTurn request.uSize true) state answer)) }.receiveGoes
        request (receiver.recvTurn request.uSize true state answer)) := by
  obtain ⟨counting, buffer, memory⟩ := faithful.receiving request state active
  obtain ⟨count, moves, bounded, available, rfl⟩ :=
    (@Endpoint.delivered_iff (.plain receiver) _ _ _ _ _ counting.inside).mp delivered
  have taken : (stream.channel.take count).length = count := by
    rw [List.length_take, Nat.min_eq_left available]
  have took : (Endpoint.plain receiver).takenBy (receiveCalls
      (receiver.recvTurn request.uSize true) state (.data (stream.channel.take count))) =
        count :=
    (Endpoint.takenBy_receiveCalls (.plain receiver) request.uSize true state _).trans taken
  rw [took]
  obtain ⟨position, offset⟩ := Int.eq_ofNat_of_zero_le counting.lower
  have fills : filled stream.receiving = buffer.read 0 position := by
    simp [filled, active, memory, offset]
  have extended : (buffer.write state.total (stream.channel.take count)).read 0 (position + count) =
      filled stream.receiving ++ stream.channel.take count := by
    have appended := Buffer.read_write_append buffer position (stream.channel.take count)
    rwa [taken, ← offset, ← fills] at appended
  have moved : filled stream.receiving ++ stream.channel =
      (filled stream.receiving ++ stream.channel.take count) ++ stream.channel.drop count := by
    rw [List.append_assoc, List.take_append_drop]
  have some : 1 ≤ (stream.channel.take count).length := taken.symm ▸ moves
  have length : (stream.channel.take count).length ≤ window request.uSize state.total := by
    have window := counting.inside.window_eq
    omega
  rcases recvTurn_takes receiver counting memory some length with
    ⟨going, next, turn, total, stores⟩ | ⟨finished, result, turn, value, stores⟩
  · rw [turn]
    rw [taken] at going total
    have position_next : next.total.toNat = position + count := by omega
    refine { faithful with receiving := ?_, order := ?_, rest := ?_ }
    · rintro other later ⟨⟩
      exact ⟨⟨counting.fits, by omega, by omega⟩, _, stores⟩
    · have order := faithful.order
      rw [active] at order
      exact order
    · have before := faithful.rest
      rw [← List.append_assoc, moved, List.append_assoc] at before
      simp only [receiveGoes, filled, stores, Option.map_some, Option.getD_some, position_next,
        extended]
      exact before
  · rw [turn]
    rw [taken] at finished value
    have stored_length : (filled stream.receiving ++ stream.channel.take count).length =
        position + count := by
      rw [List.length_append, fills, Buffer.read_length, taken]
    have value_eq : result.value = ((position + count : Nat) : Int) := by omega
    have reported : outcome result =
        (((filled stream.receiving ++ stream.channel.take count).length : Int),
          filled stream.receiving ++ stream.channel.take count) := by
      simp only [outcome, stores, Option.map_some, Option.getD_some, value_eq, Int.toNat_natCast,
        extended, stored_length]
    exact faithful_complete faithful active reported moved (.inl (by omega))

theorem faithful_recvEnd (faithful : Faithful messages requests stream) {request : Block}
    {state : ReceiveState} (active : stream.receiving = some (request, state))
    (ended : stream.closed = true) (empty : stream.channel = []) :
    Faithful messages requests
      (stream.receiveGoes request (receiver.recvTurn request.uSize true state (.status 0 0))) := by
  obtain ⟨counting, buffer, memory⟩ := faithful.receiving request state active
  obtain ⟨idle, finished⟩ := faithful.closes ended
  obtain ⟨position, offset⟩ := Int.eq_ofNat_of_zero_le counting.lower
  have upper := counting.upper
  have fills : filled stream.receiving = buffer.read 0 position := by
    simp [filled, active, memory, offset]
  have unwritten : buffer.write state.total [] = buffer := Buffer.write_nil buffer state.total
  have turn : ∃ result, receiver.recvTurn request.uSize true state (.status 0 0) = .inr result ∧
      result.value = state.total ∧ result.pData = some buffer := by
    refine ⟨_, rfl, rfl, ?_⟩
    simp only [Call.store, RecvAnswer.store, RecvAnswer.bytes, memory, Option.map_some, unwritten]
  obtain ⟨result, turn, value, stores⟩ := turn
  rw [turn]
  have reported : outcome result =
      (((filled stream.receiving).length : Int), filled stream.receiving) := by
    simp only [outcome, stores, value, offset, Option.map_some, Option.getD_some,
      Int.toNat_natCast, fills, Buffer.read_length]
  have held : filled stream.receiving ++ stream.channel = filled stream.receiving ++ [] := by
    rw [empty]
  have nothing : [] ++ unsent stream.sending stream.messages = [] := by
    simp [idle, finished, unsent]
  have room : (filled stream.receiving).length ≤ request.uSize := by
    rw [fills, Buffer.read_length]
    omega
  have kept := faithful_complete faithful active reported held (.inr ⟨nothing, room⟩)
  rw [← empty] at kept
  exact kept

theorem Faithful.completed_eq (faithful : Faithful messages requests stream) :
    stream.completed.map Prod.fst = requests.take stream.completed.length := by
  have order := faithful.order
  rw [order, List.take_left' (List.length_map ..)]

theorem Faithful.sizes_eq (faithful : Faithful messages requests stream) :
    stream.completed.map (fun entry => entry.1.uSize) =
      (requests.map Block.uSize).take stream.completed.length := by
  rw [← List.map_take, ← faithful.completed_eq, List.map_map]
  rfl

theorem Faithful.outcomes_eq (faithful : Faithful messages requests stream) :
    stream.completed.map (fun entry => outcome entry.2) =
      ((served (messages.flatMap Block.content) (requests.map Block.uSize)).take
        stream.completed.length).map fun bytes => ((bytes.length : Int), bytes) := by
  rw [faithful.results, faithful.sizes_eq, served_take]

/-- What is stored, and then what is on its way or still to be sent. -/
theorem Faithful.stored_append (faithful : Faithful messages requests stream) :
    stream.stored ++ (stream.channel ++ unsent stream.sending stream.messages) =
      messages.flatMap Block.content := by
  have whole := served_flatten (messages.flatMap Block.content)
    (stream.completed.map fun entry => entry.1.uSize)
  have bytes := congrArg (List.map Prod.snd) faithful.results
  simp only [List.map_map, Function.comp_def, List.map_id'] at bytes
  rw [faithful.rest, ← bytes, ← List.append_assoc] at whole
  simpa only [stored, List.flatMap_def] using whole

theorem Faithful.value_eq (faithful : Faithful messages requests stream) {index : Nat}
    {request : Block} {result : Received}
    (found : stream.completed[index]? = some (request, result)) :
    result.value = min request.uSize ((messages.flatMap Block.content).length -
      ((requests.take index).map Block.uSize).sum : Nat) := by
  have inside : index < stream.completed.length := (List.getElem?_eq_some_iff.mp found).1
  have entry := congrArg (·[index]?) faithful.outcomes_eq
  have requested := congrArg (·[index]?) faithful.sizes_eq
  simp only [List.getElem?_map, found, Option.map_some, List.getElem?_take, inside, if_true,
    served_getElem?] at entry requested
  rw [← requested] at entry
  simp only [Option.map_some, Option.some.injEq, outcome, Prod.mk.injEq] at entry
  rw [entry.1, List.length_take, remaining, List.length_drop, List.map_take]

theorem faithful_step (sends : sender.Ready) (receives : receiver.Ready) {next : Stream}
    (faithful : Faithful messages requests stream) (step : Step sender receiver stream next) :
    Faithful messages requests next := by
  cases step with
  | callSend idle first => exact faithful_callSend sends faithful idle first
  | send active accepted => exact faithful_send faithful active accepted
  | close idle finished => exact { faithful with closes := fun _ => ⟨idle, finished⟩ }
  | callReceive idle first => exact faithful_callReceive receives faithful idle first
  | recv active delivered => exact faithful_recv faithful active delivered
  | recvEnd active ended empty => exact faithful_recvEnd faithful active ended empty

theorem faithful_of_reachable (sends : sender.Ready) (receives : receiver.Ready) {next : Stream}
    (faithful : Faithful messages requests stream)
    (reached : Reachable sender receiver stream next) : Faithful messages requests next := by
  induction reached with
  | refl => exact faithful
  | tail _ step ih => exact faithful_step sends receives ih step

end

/-- End-to-end fidelity of a plain stream: in every interleaving the receiver has
stored a beginning of what was sent, the completed requests are the first ones and
were answered as the stream serves them, each with its size or with what was left,
and so alike in every other interleaving. -/
theorem stream_fidelity {sender receiver : PlainPeer} (sends : sender.Ready)
    (receives : receiver.Ready) {messages requests : List Block}
    (validMessages : ∀ message ∈ messages, message.Valid)
    (validRequests : ∀ request ∈ requests, request.Valid) {senderTrace receiverTrace : Trace}
    {stream : Stream}
    (reached : Reachable sender receiver (start messages requests senderTrace receiverTrace)
      stream) :
    stream.stored <+: messages.flatMap Block.content ∧
      stream.completed.map Prod.fst = requests.take stream.completed.length ∧
      stream.completed.map (fun entry => outcome entry.2) =
        ((served (messages.flatMap Block.content) (requests.map Block.uSize)).take
          stream.completed.length).map (fun bytes => ((bytes.length : Int), bytes)) ∧
      (∀ (index : Nat) (request : Block) (result : Received),
        stream.completed[index]? = some (request, result) →
        result.value = min request.uSize ((messages.flatMap Block.content).length -
          ((requests.take index).map Block.uSize).sum : Nat)) ∧
      ∀ other, Reachable sender receiver
          (start messages requests senderTrace receiverTrace) other →
        other.completed.length = stream.completed.length →
        other.completed.map (fun entry => outcome entry.2) =
          stream.completed.map fun entry => outcome entry.2 := by
  have begins := faithful_start validMessages validRequests senderTrace receiverTrace
  have faithful := faithful_of_reachable sends receives begins reached
  refine ⟨⟨_, faithful.stored_append⟩, faithful.completed_eq, faithful.outcomes_eq,
    fun index request result found => faithful.value_eq found, ?_⟩
  intro other reachedOther same
  have alike := (faithful_of_reachable sends receives begins reachedOther).outcomes_eq
  rw [same] at alike
  exact alike.trans faithful.outcomes_eq.symm

def exampleMessage : Block :=
  { pData := Buffer.ofList [1, 2, 3] 0, uSize := 3 }

def exampleRequest : Block :=
  { pData := fun _ => 0, uSize := 2 }

theorem stream_fidelity_two_of_three :
    ∃ stream, Reachable (.client connectedClient) (.server (.new "80" .noFlags) 4)
        (start [exampleMessage] [exampleRequest] [] []) stream ∧
      stream.completed.map (fun entry => outcome entry.2) = [(2, [1, 2])] ∧
      stream.stored <+: [exampleMessage].flatMap Block.content := by
  have sends : PlainPeer.Ready (.client connectedClient) := rfl
  have receives : PlainPeer.Ready (.server (.new "80" .noFlags) 4) := Int.natCast_nonneg 4
  have validMessage : ∀ message ∈ [exampleMessage], message.Valid := by
    simp [exampleMessage, Block.Valid, intMax]
  have validRequest : ∀ request ∈ [exampleRequest], request.Valid := by
    simp [exampleRequest, Block.Valid, intMax]
  have begins : Reachable (.client connectedClient) (.server (.new "80" .noFlags) 4)
      (start [exampleMessage] [exampleRequest] [] []) _ := Relation.ReflTransGen.refl
  have ofThree : Inside 3 0 := ⟨by decide, Int.le_refl 0, by decide⟩
  have ofTwo : Inside 2 0 := ⟨by decide, Int.le_refl 0, by decide⟩
  have sending := begins.tail (.callSend rfl rfl)
  have sent := sending.tail (@Step.send _ _ _ _ (.start []) { result := 3, error := 0 } rfl
    ((@Endpoint.accepted_iff (.plain (.client connectedClient)) _ _ _ ofThree).mpr
      ⟨by decide, by decide⟩))
  have receiving := sent.tail (.callReceive rfl rfl)
  have filled := receiving.tail (@Step.recv _ _ _ _ (.start (some exampleRequest.pData) [])
    (.data [1, 2]) rfl
    ((@Endpoint.delivered_iff (.plain (.server (.new "80" .noFlags) 4)) _ _ _ _ _ ofTwo).mpr
      ⟨2, by decide, by decide, by decide, rfl⟩))
  exact ⟨_, filled, rfl, (stream_fidelity sends receives validMessage validRequest filled).1⟩

end Stream

end SocketCpp
