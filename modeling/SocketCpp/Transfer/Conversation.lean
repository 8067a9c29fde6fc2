import SocketCpp.Data.Link
import SocketCpp.Transfer.Stream

namespace SocketCpp

open Data

/-! A conversation over one connection.

Each end works off a list of `Send` and `Receive` calls and then closes.  A turn is
one call of the transport, or the entry into the next operation, of either end, and
the turns of the two ends come in any order.  At most `room` bytes are on their way
in one direction.  What gets on the connection and off it is read off the recorded calls. -/

namespace SecurePeer

def sendEntry : SecurePeer → Trace → SendState ⊕ Sent
  | .client self, trace => self.sendEntry trace
  | .server _ _, trace => .inl (.start trace)

def receiveEntry : SecurePeer → Option (Buffer UInt8) → Trace → ReceiveState ⊕ Received
  | .client self, pData, trace => self.receiveEntry pData trace
  | .server _ _, pData, trace => .inl (.start pData trace)

theorem sendEntry_of_ready {peer : SecurePeer} (ready : peer.Ready) (trace : Trace) :
    peer.sendEntry trace = .inl (.start trace) := by
  cases peer with
  | client self =>
      have connected : self.tcpClient.eStatus = .connected := ready
      simp [sendEntry, CTCPSSLClient.sendEntry, connected]
  | server self clientSocket => rfl

theorem receiveEntry_of_ready {peer : SecurePeer} (ready : peer.Ready)
    (pData : Option (Buffer UInt8)) (trace : Trace) :
    peer.receiveEntry pData trace = .inl (.start pData trace) := by
  cases peer with
  | client self =>
      have connected : self.tcpClient.eStatus = .connected := ready
      simp [receiveEntry, CTCPSSLClient.receiveEntry, connected]
  | server self clientSocket => rfl

end SecurePeer

namespace Endpoint

def sendEntry : Endpoint → Option (Buffer UInt8) → Nat → Trace → SendState ⊕ Sent
  | .plain peer, pData, uSize, trace => peer.sendEntry pData uSize trace
  | .secure peer, _, _, trace => peer.sendEntry trace

def receiveEntry : Endpoint → Option (Buffer UInt8) → Nat → Trace → ReceiveState ⊕ Received
  | .plain peer, pData, uSize, trace => peer.receiveEntry pData uSize trace
  | .secure peer, pData, _, trace => peer.receiveEntry pData trace

variable {endpoint : Endpoint} {uSize : Nat}

theorem sendEntry_of_ready (ready : endpoint.Ready) (positive : 0 < uSize) (pData : Buffer UInt8)
    (trace : Trace) : endpoint.sendEntry (some pData) uSize trace = .inl (.start trace) := by
  cases endpoint with
  | plain peer => exact PlainPeer.sendEntry_of_ready ready positive pData trace
  | secure peer => exact SecurePeer.sendEntry_of_ready ready trace

theorem receiveEntry_of_ready (ready : endpoint.Ready) (positive : 0 < uSize)
    (pData : Buffer UInt8) (trace : Trace) :
    endpoint.receiveEntry (some pData) uSize trace = .inl (.start (some pData) trace) := by
  cases endpoint with
  | plain peer => exact PlainPeer.receiveEntry_of_ready ready positive pData trace
  | secure peer => exact SecurePeer.receiveEntry_of_ready ready (some pData) trace

variable {state : ReceiveState} {buffer : Buffer UInt8}

/-- Data goes behind what the buffer holds. -/
theorem recvTurn_takes (counting : Counting uSize state) (memory : state.pData = some buffer)
    (bReadFully : Bool) {bytes : List UInt8} (some : 1 ≤ bytes.length)
    (within : bytes.length ≤ window uSize state.total) :
    ∃ trace, endpoint.recvTurn uSize bReadFully state (.data bytes) =
      let total := state.total + bytes.length
      let pData := Option.some (buffer.write state.total bytes)
      if bReadFully ∧ total < uSize then .inl { total, pData, trace }
      else .inr { total, pData, trace, value := total } := by
  have lower := counting.lower
  have length := counting.inside.window_eq
  obtain ⟨received, summed, compared⟩ :=
    @counts_within state.total bytes.length uSize counting.fits lower (by omega) (by omega)
  have stored : (RecvAnswer.data bytes).store state.total state.pData =
      Option.some (buffer.write state.total bytes) := by
    simp [RecvAnswer.store, memory, RecvAnswer.bytes]
  cases endpoint with
  | plain peer =>
      have delivers : ¬ (bytes.length : Int) = 0 := by omega
      refine ⟨.recv peer.fd state.total (window uSize state.total) bytes.length :: state.trace, ?_⟩
      simp only [recvTurn, PlainPeer.recvTurn, SocketCpp.recvTurn, RecvAnswer.result, received,
        summed, compared, Call.store, stored, delivers, if_false]
  | secure peer =>
      have delivers : ¬ (bytes.length : Int) ≤ 0 := by omega
      obtain ⟨failed, -, turned⟩ := peer.recvTurn_eq uSize bReadFully state (.data bytes)
      simp only [RecvAnswer.result, received, summed, compared, stored, delivers, if_false]
        at turned
      exact ⟨_, turned⟩

/-- A call that delivers nothing ends the `Receive`, and what it has stored stays. -/
theorem recvTurn_stops (counting : Counting uSize state) (memory : state.pData = some buffer)
    (bReadFully : Bool) {result error : Int}
    (stops : result = 0 ∨ (endpoint.readCall uSize state.total result).Failed ∧
      (endpoint.readCall uSize state.total result).forgets = false) :
    ∃ received, endpoint.recvTurn uSize bReadFully state (.status result error) = .inr received ∧
      received.pData = some buffer ∧ received.value.toNat = state.total.toNat ∧
      -1 ≤ received.value ∧ received.value < uSize := by
  have lower := counting.lower
  have upper := counting.upper
  have stored : (RecvAnswer.status result error).store state.total state.pData = some buffer := by
    simp [RecvAnswer.store, memory, RecvAnswer.bytes, Buffer.write_nil]
  have kept {received : Received} (total : received.value = state.total) :
      received.value.toNat = state.total.toNat ∧ -1 ≤ received.value ∧ received.value < uSize := by
    rw [total]
    exact ⟨rfl, by omega, upper⟩
  cases endpoint with
  | plain peer =>
      rcases stops with rfl | ⟨failed, remembers⟩
      · have zero : wrapInt 0 = 0 := by decide
        refine ⟨{
          total := state.total
          pData := some buffer
          trace := .recv peer.fd state.total (window uSize state.total) 0 :: state.trace
          value := state.total }, ?_, rfl, kept rfl⟩
        simp only [recvTurn, PlainPeer.recvTurn, SocketCpp.recvTurn, RecvAnswer.result, zero,
          if_true, Call.store, stored]
      · obtain rfl : result = -1 := failed
        have nothing : state.total = 0 := by
          simp only [readCall, Call.forgets, decide_eq_false_iff_not] at remembers
          omega
        have minus : wrapInt (-1) = -1 := by decide
        have large : ¬ toSizeT (-1) < uSize := by
          have beyond := toSizeT_of_neg (show (-2147483648 : Int) ≤ -1 by decide) (by decide)
          have fits := counting.fits
          omega
        rw [nothing] at stored
        refine ⟨{
          total := -1
          pData := some buffer
          trace := .recv peer.fd 0 (window uSize 0) (-1) :: state.trace
          value := -1 }, ?_, rfl, ?_, Int.le_refl _,
          Int.lt_of_lt_of_le (show (-1 : Int) < 0 by decide) (Int.natCast_nonneg uSize)⟩
        · simp [recvTurn, PlainPeer.recvTurn, SocketCpp.recvTurn, RecvAnswer.result, minus, nothing,
            large, Call.store, stored]
        · rw [nothing]
          rfl
  | secure peer =>
      have refused : wrapInt result ≤ 0 := by
        rcases stops with rfl | ⟨⟨least, most⟩, -⟩
        · decide
        · rw [wrapInt_eq_self least (Int.le_trans most (Int.natCast_nonneg intMax))]
          exact most
      obtain ⟨failed, -, turned⟩ := peer.recvTurn_eq uSize bReadFully state (.status result error)
      simp only [RecvAnswer.result, refused, if_true, stored] at turned
      exact ⟨_, turned, rfl, kept rfl⟩

/-- A `recv` that fails behind data takes a byte back. -/
theorem recvTurn_forgets (counting : Counting uSize state) (memory : state.pData = some buffer)
    (bReadFully : Bool) {result error : Int}
    (failed : (endpoint.readCall uSize state.total result).Failed)
    (forgets : (endpoint.readCall uSize state.total result).forgets = true) :
    0 < state.total ∧
      ∃ trace, endpoint.recvTurn uSize bReadFully state (.status result error) =
        let total := state.total - 1
        let pData := Option.some buffer
        if bReadFully then .inl { total, pData, trace }
        else .inr { total, pData, trace, value := total } := by
  cases endpoint with
  | secure peer => cases forgets
  | plain peer =>
      obtain rfl : result = -1 := failed
      have behind : 0 < state.total := (of_decide_eq_true forgets).1
      have upper := counting.upper
      have fits := counting.fits
      have stored : (RecvAnswer.status (-1) error).store state.total state.pData =
          some buffer := by
        simp [RecvAnswer.store, memory, RecvAnswer.bytes, Buffer.write_nil]
      have minus : wrapInt (-1) = -1 := by decide
      have summed : wrapInt (state.total + -1) = state.total - 1 :=
        wrapInt_eq_self (by omega) (by omega)
      have compared : toSizeT (state.total - 1) < uSize :=
        (toSizeT_lt_small_iff (by omega) (by omega) fits).mpr ⟨by omega, by omega⟩
      refine ⟨behind, .recv peer.fd state.total (window uSize state.total) (-1) :: state.trace, ?_⟩
      simp [recvTurn, PlainPeer.recvTurn, SocketCpp.recvTurn, RecvAnswer.result, minus, summed,
        compared, Call.store, stored]

end Endpoint

inductive Action where
  | send (block : Block)
  | receive (block : Block) (bReadFully : Bool)

def Action.block : Action → Block
  | .send block => block
  | .receive block _ => block

/-- A bound on the steps that the operation takes. -/
def Action.weight (action : Action) : Nat :=
  action.block.uSize + 1

/-- What an end is in the middle of. -/
inductive Doing where
  | idle
  | sending (block : Block) (state : SendState)
  | receiving (block : Block) (bReadFully : Bool) (state : ReceiveState)

inductive Finished where
  | sent (block : Block) (result : Sent)
  | received (block : Block) (bReadFully : Bool) (result : Received)

structure Party where
  program : List Action
  doing : Doing
  finished : List Finished
  trace : Trace

structure Conversation extends Link Party UInt8 where
  closed : Side → Bool

namespace Party

def sendGoes (party : Party) (block : Block) : SendState ⊕ Sent → Party
  | .inl state => { party with doing := .sending block state }
  | .inr result =>
      { party with
        doing := .idle, finished := party.finished ++ [.sent block result], trace := result.trace }

def receiveGoes (party : Party) (block : Block) (bReadFully : Bool) :
    ReceiveState ⊕ Received → Party
  | .inl state => { party with doing := .receiving block bReadFully state }
  | .inr result =>
      { party with
        doing := .idle, finished := party.finished ++ [.received block bReadFully result]
        trace := result.trace }

/-- The entry into the next operation. -/
def begin (party : Party) (endpoint : Endpoint) (rest : List Action) : Action → Party
  | .send block =>
      { party with program := rest }.sendGoes block
        (endpoint.sendEntry (some block.pData) block.uSize party.trace)
  | .receive block bReadFully =>
      { party with program := rest }.receiveGoes block bReadFully
        (endpoint.receiveEntry (some block.pData) block.uSize party.trace)

end Party

namespace Conversation

def start (program : Side → List Action) (trace : Side → Trace) : Conversation where
  party := fun side =>
    { program := program side, doing := .idle, finished := [], trace := trace side }
  queue := fun _ => []
  closed := fun _ => false

def close (conversation : Conversation) (side : Side) (party : Party) : Conversation where
  toLink := conversation.withParty side party
  closed := Function.update conversation.closed side true

/-- A turn of a `Send`: what its calls put on the connection goes behind what is queued. -/
def write (conversation : Conversation) (endpoint : Endpoint) (side : Side) (block : Block)
    (state : SendState) (answer : SendAnswer) : Conversation where
  toLink := (conversation.withParty side ((conversation.party side).sendGoes block
    (endpoint.sendTurn block.uSize state answer))).push side
      (endpoint.putBy block.pData (sendCalls (endpoint.sendTurn block.uSize) state answer))
  closed := conversation.closed

/-- A turn of a `Receive`: what its calls take is no longer queued. -/
def read (conversation : Conversation) (endpoint : Endpoint) (side : Side) (block : Block)
    (bReadFully : Bool) (state : ReceiveState) (answer : RecvAnswer) : Conversation where
  toLink := (conversation.withParty side ((conversation.party side).receiveGoes block bReadFully
    (endpoint.recvTurn block.uSize bReadFully state answer))).pop side.other
      (endpoint.takenBy (receiveCalls (endpoint.recvTurn block.uSize bReadFully) state answer))
  closed := conversation.closed

section

variable (conversation : Conversation) (endpoint : Endpoint) (side : Side) (block : Block)

@[simp] theorem write_self (state : SendState) (answer : SendAnswer) :
    (conversation.write endpoint side block state answer).party side =
      (conversation.party side).sendGoes block (endpoint.sendTurn block.uSize state answer) :=
  Link.withParty_self ..

@[simp] theorem write_other (state : SendState) (answer : SendAnswer) :
    (conversation.write endpoint side block state answer).party side.other =
      conversation.party side.other :=
  Link.withParty_other ..

@[simp] theorem read_self (bReadFully : Bool) (state : ReceiveState) (answer : RecvAnswer) :
    (conversation.read endpoint side block bReadFully state answer).party side =
      (conversation.party side).receiveGoes block bReadFully
        (endpoint.recvTurn block.uSize bReadFully state answer) :=
  Link.withParty_self ..

@[simp] theorem read_other (bReadFully : Bool) (state : ReceiveState) (answer : RecvAnswer) :
    (conversation.read endpoint side block bReadFully state answer).party side.other =
      conversation.party side.other :=
  Link.withParty_other ..

@[simp] theorem close_self (party : Party) : (conversation.close side party).party side = party :=
  Link.withParty_self ..

@[simp] theorem close_other (party : Party) :
    (conversation.close side party).party side.other = conversation.party side.other :=
  Link.withParty_other ..

@[simp] theorem close_closed (party : Party) :
    (conversation.close side party).closed side = true := by
  simp [close]

end

section

variable (ends : Side → Endpoint) (room : Side → Nat)

/-- What happens as long as nothing fails. -/
inductive Turn : Conversation → Conversation → Prop where
  | call {conversation : Conversation} {side : Side} {action : Action} {rest : List Action}
      (idle : (conversation.party side).doing = .idle)
      (next : (conversation.party side).program = action :: rest) :
      Turn conversation { conversation with
        toLink := conversation.withParty side
          ((conversation.party side).begin (ends side) rest action) }
  | write {conversation : Conversation} {side : Side} {block : Block} {state : SendState}
      {answer : SendAnswer} (active : (conversation.party side).doing = .sending block state)
      (accepted : ∀ call ∈ sendCalls ((ends side).sendTurn block.uSize) state answer,
        call.Accepted)
      (free : (conversation.queue side).length + ((ends side).putBy block.pData
        (sendCalls ((ends side).sendTurn block.uSize) state answer)).length ≤ room side) :
      Turn conversation (conversation.write (ends side) side block state answer)
  | read {conversation : Conversation} {side : Side} {block : Block} {bReadFully : Bool}
      {state : ReceiveState} {answer : RecvAnswer}
      (active : (conversation.party side).doing = .receiving block bReadFully state)
      (delivered : ∀ call ∈ receiveCalls ((ends side).recvTurn block.uSize bReadFully) state answer,
        call.Delivered (conversation.queue side.other) answer.bytes) :
      Turn conversation (conversation.read (ends side) side block bReadFully state answer)
  | readEnd {conversation : Conversation} {side : Side} {block : Block} {bReadFully : Bool}
      {state : ReceiveState} {error : Int}
      (active : (conversation.party side).doing = .receiving block bReadFully state)
      (ended : conversation.closed side.other = true)
      (empty : conversation.queue side.other = []) :
      Turn conversation
        (conversation.read (ends side) side block bReadFully state (.status 0 error))
  | close {conversation : Conversation} {side : Side}
      (idle : (conversation.party side).doing = .idle)
      (finished : (conversation.party side).program = [])
      (isOpen : conversation.closed side = false) :
      Turn conversation (conversation.close side (conversation.party side))

/-- A call fails, or an end gives up between two operations and closes. -/
inductive Fault : Conversation → Conversation → Prop where
  | writeFails {conversation : Conversation} {side : Side} {block : Block} {state : SendState}
      {answer : SendAnswer} (active : (conversation.party side).doing = .sending block state)
      (failed : ∀ call ∈ sendCalls ((ends side).sendTurn block.uSize) state answer, call.Failed) :
      Fault conversation (conversation.write (ends side) side block state answer)
  | readFails {conversation : Conversation} {side : Side} {block : Block} {bReadFully : Bool}
      {state : ReceiveState} {result error : Int}
      (active : (conversation.party side).doing = .receiving block bReadFully state)
      (failed : ∀ call ∈ receiveCalls ((ends side).recvTurn block.uSize bReadFully) state
        (.status result error), call.Failed) :
      Fault conversation
        (conversation.read (ends side) side block bReadFully state (.status result error))
  | abandon {conversation : Conversation} {side : Side}
      (idle : (conversation.party side).doing = .idle)
      (isOpen : conversation.closed side = false) :
      Fault conversation
        (conversation.close side { conversation.party side with program := [] })

def Step (before after : Conversation) : Prop :=
  Turn ends room before after ∨ Fault ends before after

end

end Conversation

/-! What an end has handed to the connection, and what it has got from it. -/

def Doing.written : Doing → List UInt8
  | .sending block state => block.pData.read 0 state.total.toNat
  | _ => []

def Doing.stored : Doing → List UInt8
  | .receiving _ _ state =>
      (state.pData.map fun buffer => buffer.read 0 state.total.toNat).getD []
  | _ => []

def Doing.actions : Doing → List Action
  | .idle => []
  | .sending block _ => [.send block]
  | .receiving block bReadFully _ => [.receive block bReadFully]

/-- The bytes still to be moved. -/
def Doing.remaining : Doing → Nat
  | .idle => 0
  | .sending block state => block.uSize - state.total.toNat
  | .receiving block _ state => block.uSize - state.total.toNat

namespace Finished

def written : Finished → List UInt8
  | .sent block result => block.pData.read 0 result.total.toNat
  | .received .. => []

def stored : Finished → List UInt8
  | .sent .. => []
  | .received _ _ result => (Stream.outcome result).2

def action : Finished → Action
  | .sent block _ => .send block
  | .received block bReadFully _ => .receive block bReadFully

/-- A `Send` reports exactly whether it has handed over the whole payload, and a `Receive`
reports what it has stored, which is never more than it was asked for. -/
def Honest : Finished → Prop
  | .sent block result => 0 ≤ result.total ∧ result.total ≤ block.uSize ∧
      (result.value = true ↔ result.total = block.uSize)
  | .received block _ result => -1 ≤ result.value ∧ result.value ≤ block.uSize ∧
      (Stream.outcome result).2.length = result.value.toNat

/-- The operation has done all it was called for. -/
def Whole : Finished → Prop
  | .sent _ result => result.value = true
  | .received block bReadFully result => bReadFully → result.value = block.uSize

end Finished

def Doing.Sound : Doing → Prop
  | .idle => True
  | .sending block state => Inside block.uSize state.total
  | .receiving block _ state => Counting block.uSize state ∧ ∃ buffer, state.pData = some buffer

namespace Party

def written (party : Party) : List UInt8 :=
  party.finished.flatMap Finished.written ++ party.doing.written

def stored (party : Party) : List UInt8 :=
  party.finished.flatMap Finished.stored ++ party.doing.stored

/-- The operations of the party, those behind it included. -/
def plan (party : Party) : List Action :=
  party.finished.map Finished.action ++ (party.doing.actions ++ party.program)

/-- A bound on the calls that are still to come. -/
def remaining (party : Party) : Nat :=
  (party.program.map Action.weight).sum + party.doing.remaining

/-- All calls that the party has made. -/
def calls (party : Party) : Trace :=
  match party.doing with
  | .idle => party.trace
  | .sending _ state => state.trace
  | .receiving _ _ state => state.trace

structure Sound (party : Party) : Prop where
  program : ∀ action ∈ party.program, action.block.Valid
  doing : party.doing.Sound
  finished : ∀ finished ∈ party.finished, finished.Honest

end Party

/-- How many bytes from this side the other side has lost: it loses one with each `recv`
that fails behind data. -/
def Conversation.lost (conversation : Conversation) (trace : Side → Trace) (side : Side) : Nat :=
  (since (trace side.other) (conversation.party side.other).calls).countP Call.forgets

end SocketCpp
