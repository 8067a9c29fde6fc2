import SocketCpp.Transfer.Loops

namespace SocketCpp

open Data

/-! Histories of which only some calls are seen.

The calls to the operating system are, the log messages are not, and of the calls to
OpenSSL those are that `keep` names.  The numbers and addresses that the system gives out
do not depend on what is not seen. -/

theorem Data.Ledger.entries_filter {α ε : Type} {events : ε → List (Ledger.Event α)}
    {keep : ε → Bool} (quiet : ∀ call, keep call = false → events call = []) (history : List ε) :
    Ledger.entries events (history.filter keep) = Ledger.entries events history := by
  induction history with
  | nil => rfl
  | cons call earlier ih =>
      cases kept : keep call with
      | true => rw [List.filter_cons_of_pos kept, Ledger.entries_cons, Ledger.entries_cons, ih]
      | false =>
          rw [List.filter_cons_of_neg (by simp [kept]), Ledger.entries_cons, quiet call kept, ih]
          rfl

theorem Data.Ledger.held_filter {α ε : Type} [DecidableEq α]
    {events : ε → List (Ledger.Event α)} {keep : ε → Bool}
    (touching : ∀ call, keep call = false → Ledger.Touching events call) (history : List ε) :
    Ledger.held (Ledger.entries events (history.filter keep)) =
      Ledger.held (Ledger.entries events history) := by
  induction history with
  | nil => rfl
  | cons call earlier ih =>
      cases kept : keep call with
      | true =>
          rw [List.filter_cons_of_pos kept, Ledger.entries_cons, Ledger.entries_cons]
          exact Ledger.held_append_congr (events call) ih
      | false =>
          rw [List.filter_cons_of_neg (by simp [kept]), Ledger.entries_cons,
            Ledger.held_append_touching (touching call kept), ih]

@[simp] theorem Trace.oLog_noFlags (trace : Trace) (message : String) :
    trace.oLog .noFlags message = trace := rfl

@[simp] theorem Trace.oLogAfter_noFlags (trace : Trace) (call : Call) (message : String) :
    trace.oLogAfter .noFlags call message = trace := rfl

def Call.isSeen (keep : Call → Bool) (call : Call) : Bool :=
  match call.layer with
  | .program => false
  | .sockets => true
  | .openssl => keep call

def Trace.seen (keep : Call → Bool) (trace : Trace) : Trace :=
  trace.filter (Call.isSeen keep)

def State.seen {α : Type} (keep : Call → Bool) (silent : α → α) (state : State α) : State α :=
  { self := silent state.self, trace := state.trace.seen keep }

def Result.seen {α β : Type} (keep : Call → Bool) (silent : α → α) (result : Result α β) :
    Result α β :=
  { result.toState.seen keep silent with value := result.value }

namespace Trace

variable {keep : Call → Bool} {trace : Trace}

@[simp] theorem seen_nil : seen keep [] = [] := rfl

@[simp] theorem seen_cons (call : Call) (earlier : Trace) :
    seen keep (call :: earlier) =
      if call.isSeen keep then call :: seen keep earlier else seen keep earlier :=
  List.filter_cons

@[simp] theorem seen_oLog (trace : Trace) (flags : SettingsFlag) (message : String) :
    (trace.oLog flags message).seen keep = trace.seen keep := by
  unfold oLog
  split
  · exact List.filter_cons_of_neg Bool.false_ne_true
  · rfl

theorem layer_of_unseen {call : Call} (unseen : call.isSeen keep = false) :
    call.layer ≠ .sockets := by
  intro socket
  rw [Call.isSeen, socket] at unseen
  cases unseen

@[simp] theorem sockets_seen (trace : Trace) : (trace.seen keep).sockets = trace.sockets :=
  congrArg Ledger.held (Ledger.entries_filter
    (fun _ unseen => socketEvents_of_layer (layer_of_unseen unseen)) trace)

@[simp] theorem lists_seen (trace : Trace) : (trace.seen keep).lists = trace.lists :=
  congrArg Ledger.held (Ledger.entries_filter
    (fun _ unseen => listEvents_of_layer (layer_of_unseen unseen)) trace)

@[simp] theorem newSocket_seen (trace : Trace) (answer : Option Nat) :
    (trace.seen keep).newSocket answer = trace.newSocket answer := by
  simp [newSocket]

@[simp] theorem newList_seen (trace : Trace) (named : Nat) :
    (trace.seen keep).newList named = trace.newList named := by
  simp [newList]

/-- The calls to the operating system. -/
def onSockets (trace : Trace) : Trace :=
  trace.seen fun _ => false

theorem onSockets_of_layer {before after : Trace}
    (extended : Extends (fun call : Call => call.layer ≠ .sockets) before after) :
    after.onSockets = before.onSockets := by
  refine extended.view_eq onSockets fun call earlier other => ?_
  have unseen : call.isSeen (fun _ => false) = false := by
    cases layer : call.layer with
    | sockets => exact absurd layer other
    | program | openssl => simp [Call.isSeen, layer]
  rw [onSockets, seen_cons, if_neg (by simp [unseen]), onSockets]

end Trace

/-! The loops. -/

def SendState.seen (keep : Call → Bool) (state : SendState) : SendState :=
  { state with trace := state.trace.seen keep }

def Sent.seen (keep : Call → Bool) (result : Sent) : Sent :=
  { result.toSendState.seen keep with value := result.value }

def ReceiveState.seen (keep : Call → Bool) (state : ReceiveState) : ReceiveState :=
  { state with trace := state.trace.seen keep }

def Received.seen (keep : Call → Bool) (result : Received) : Received :=
  { result.toReceiveState.seen keep with value := result.value }

section Loops

variable (keep : Call → Bool)

theorem sendTurn_seen (fd : Socket) (flags : SettingsFlag) (failure : String) (uSize : Nat)
    (state : SendState) (answer : SendAnswer) :
    sendTurn fd .noFlags failure uSize (state.seen keep) answer =
      Sum.map (SendState.seen keep) (Sent.seen keep)
        (sendTurn fd flags failure uSize state answer) := by
  simp only [sendTurn, SendState.seen]
  split_ifs <;> simp [SendState.seen, Sent.seen, Call.isSeen, Call.layer, *]

theorem recvTurn_seen (fd : Socket) (uSize : Nat) (bReadFully : Bool) (state : ReceiveState)
    (answer : RecvAnswer) :
    recvTurn fd uSize bReadFully (state.seen keep) answer =
      Sum.map (ReceiveState.seen keep) (Received.seen keep)
        (recvTurn fd uSize bReadFully state answer) := by
  simp only [recvTurn, ReceiveState.seen]
  split_ifs <;> simp [ReceiveState.seen, Received.seen, Call.isSeen, Call.layer, *]

theorem sentTrace_seen (sent : SendState ⊕ Sent) :
    sentTrace (Sum.map (SendState.seen keep) (Sent.seen keep) sent) = (sentTrace sent).seen keep := by
  cases sent <;> rfl

theorem receivedTrace_seen (received : ReceiveState ⊕ Received) :
    receivedTrace (Sum.map (ReceiveState.seen keep) (Received.seen keep) received) =
      (receivedTrace received).seen keep := by
  cases received <;> rfl

end Loops

end SocketCpp
