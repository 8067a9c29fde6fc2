import SocketCpp.Logging.Plain
import SocketCpp.TCPClient.Balance

namespace SocketCpp

open Data

/-! A client that is disconnected, beside one that has just been constructed.

Both have nothing open, so that the system gives them the same numbers and addresses.  What
may differ is the number that a refused `Connect` has left behind. -/

namespace Trace

/-- Nothing is open and no list is there. -/
structure Bare (base : Trace) : Prop where
  sockets : base.sockets = ∅
  lists : base.lists = ∅

variable {base : Trace}

theorem sockets_append (bare : base.Bare) (trace : Trace) :
    sockets (trace ++ base) = trace.sockets := by
  have none : Ledger.held (Ledger.entries Call.socketEvents base) = Ledger.held [] := bare.sockets
  rw [sockets, Ledger.entries_append, Ledger.held_append_congr _ none, List.append_nil, sockets]

theorem lists_append (bare : base.Bare) (trace : Trace) : lists (trace ++ base) = trace.lists := by
  have none : Ledger.held (Ledger.entries Call.listEvents base) = Ledger.held [] := bare.lists
  rw [lists, Ledger.entries_append, Ledger.held_append_congr _ none, List.append_nil, lists]

theorem newSocket_append (bare : base.Bare) (trace : Trace) (answer : Option Nat) :
    newSocket (trace ++ base) answer = trace.newSocket answer := by
  cases answer with
  | none => rfl
  | some named => simp only [newSocket, sockets_append bare]

theorem newList_append (bare : base.Bare) (trace : Trace) (named : Nat) :
    newList (trace ++ base) named = trace.newList named := by
  rw [newList, lists_append bare, newList]

theorem oLog_append (trace : Trace) (flags : SettingsFlag) (message : String) :
    oLog (trace ++ base) flags message = trace.oLog flags message ++ base := by
  unfold oLog
  split <;> rfl

end Trace

def SendState.onto (base : Trace) (state : SendState) : SendState :=
  { state with trace := state.trace ++ base }

def Sent.onto (base : Trace) (result : Sent) : Sent :=
  { result.toSendState.onto base with value := result.value }

def ReceiveState.onto (base : Trace) (state : ReceiveState) : ReceiveState :=
  { state with trace := state.trace ++ base }

def Received.onto (base : Trace) (result : Received) : Received :=
  { result.toReceiveState.onto base with value := result.value }

section Loops

variable (base : Trace)

theorem Reply.ofSent_onto (sent : SendState ⊕ Sent) :
    ofSent (Sum.map (SendState.onto base) (Sent.onto base) sent) = ofSent sent := by
  cases sent <;> rfl

theorem Reply.ofReceived_onto (received : ReceiveState ⊕ Received) :
    ofReceived (Sum.map (ReceiveState.onto base) (Received.onto base) received) =
      ofReceived received := by
  cases received <;> rfl

theorem sentTrace_onto (sent : SendState ⊕ Sent) :
    sentTrace (Sum.map (SendState.onto base) (Sent.onto base) sent) = sentTrace sent ++ base := by
  cases sent <;> rfl

theorem receivedTrace_onto (received : ReceiveState ⊕ Received) :
    receivedTrace (Sum.map (ReceiveState.onto base) (Received.onto base) received) =
      receivedTrace received ++ base := by
  cases received <;> rfl

theorem sendTurn_onto (fd : Socket) (flags : SettingsFlag) (failure : String) (uSize : Nat)
    (state : SendState) (answer : SendAnswer) :
    sendTurn fd flags failure uSize (state.onto base) answer =
      Sum.map (SendState.onto base) (Sent.onto base)
        (sendTurn fd flags failure uSize state answer) := by
  simp only [sendTurn, SendState.onto, ← List.cons_append, Trace.oLog_append]
  split_ifs <;> simp [SendState.onto, Sent.onto, *]

theorem recvTurn_onto (fd : Socket) (uSize : Nat) (bReadFully : Bool) (state : ReceiveState)
    (answer : RecvAnswer) :
    recvTurn fd uSize bReadFully (state.onto base) answer =
      Sum.map (ReceiveState.onto base) (Received.onto base)
        (recvTurn fd uSize bReadFully state answer) := by
  simp only [recvTurn, ReceiveState.onto]
  split_ifs <;> simp [ReceiveState.onto, Received.onto, *]

end Loops

/-- The resolution works and names some address, for which a descriptor is then asked. -/
def Resolution.Dials (resolution : Resolution) : Prop :=
  resolution.code = 0 ∧ resolution.attempts ≠ []

namespace CTCPClient

def Op.SetsTimeout : Op → Prop
  | .setRcvTimeout .. | .setRcvTimeoutTimeval .. | .setSndTimeout .. | .setSndTimeoutTimeval .. =>
      True
  | _ => False

def Op.Dials : Op → Prop
  | .connect _ _ resolution => resolution.Dials
  | _ => False

/-- No timeout is set before the first `Connect` that asks for a descriptor. -/
def SparesTimeouts : List Op → Prop
  | [] => True
  | op :: rest => op.Dials ∨ ¬ op.SetsTimeout ∧ SparesTimeouts rest

/-- The older client has the same history as the new one on top of its own, and the same
fields; the descriptor may differ while it stands for nothing, unless it is known to agree. -/
structure AsNew (base : Trace) (known : Prop) (old new : State CTCPClient) : Prop where
  trace : old.trace = new.trace ++ base
  flags : old.self.eSettingsFlags = new.self.eSettingsFlags
  status : old.self.eStatus = new.self.eStatus
  list : old.self.pResultAddrInfo = new.self.pResultAddrInfo
  current : known ∨ new.self.eStatus = .connected →
    old.self.connectSocket = new.self.connectSocket

/-- The same is returned, and the clients still agree. -/
structure Agrees (base : Trace) (known : Prop) (old new : Result CTCPClient Bool) : Prop where
  asNew : AsNew base known old.toState new.toState
  value : old.value = new.value

section Steps

variable {base : Trace} {known certain : Prop} {old new : State CTCPClient}

theorem AsNew.of_imp (asNew : AsNew base known old new) (knows : certain → known) :
    AsNew base certain old new :=
  { asNew with current := fun same => asNew.current (same.imp_left knows) }

theorem Agrees.of_imp {first second : Result CTCPClient Bool}
    (agrees : Agrees base known first second) (knows : certain → known) :
    Agrees base certain first second :=
  ⟨agrees.asNew.of_imp knows, agrees.value⟩

theorem AsNew.call (asNew : AsNew base known old new) (call : Call) :
    AsNew base known { old with trace := call :: old.trace }
      { new with trace := call :: new.trace } :=
  { asNew with trace := by rw [asNew.trace, List.cons_append] }

theorem AsNew.oLog (asNew : AsNew base known old new) (flags : SettingsFlag) (message : String) :
    AsNew base known { old with trace := old.trace.oLog flags message }
      { new with trace := new.trace.oLog flags message } :=
  { asNew with trace := by rw [asNew.trace, Trace.oLog_append] }

theorem AsNew.resolved (asNew : AsNew base known old new) (list : Option Nat) :
    AsNew base known { old with self := { old.self with pResultAddrInfo := list } }
      { new with self := { new.self with pResultAddrInfo := list } } :=
  { asNew with list := rfl }

/-- A descriptor that both have got. -/
theorem AsNew.created (asNew : AsNew base known old new) (connectSocket : Socket) :
    AsNew base True { old with self := { old.self with connectSocket } }
      { new with self := { new.self with connectSocket } } :=
  { asNew with current := fun _ => rfl }

theorem AsNew.marked (asNew : AsNew base known old new) (connectSocket : Socket)
    (eStatus : SocketStatus) :
    AsNew base True { old with self := { old.self with connectSocket, eStatus } }
      { new with self := { new.self with connectSocket, eStatus } } :=
  { asNew with status := rfl, current := fun _ => rfl }

theorem AsNew.disconnect (asNew : AsNew base known old new) :
    Agrees base known (old.self.disconnect old.trace) (new.self.disconnect new.trace) := by
  simp only [CTCPClient.disconnect, asNew.status]
  by_cases connected : new.self.eStatus = .connected
  · rw [if_neg (not_not.mpr connected), if_neg (not_not.mpr connected),
      asNew.current (.inr connected)]
    have closed := (asNew.call (.close new.self.connectSocket)).marked invalidSocket .disconnected
    exact ⟨closed.of_imp fun _ => trivial, rfl⟩
  · rw [if_pos connected, if_pos connected]
    exact ⟨asNew, rfl⟩

theorem AsNew.freeAddrInfo (asNew : AsNew base known old new) :
    AsNew base known (old.self.freeAddrInfo old.trace) (new.self.freeAddrInfo new.trace) := by
  simp only [CTCPClient.freeAddrInfo, asNew.list]
  split
  · exact (asNew.call _).resolved none
  · exact asNew

theorem AsNew.hangUp (asNew : AsNew base known old new) :
    AsNew base known (old.self.hangUp old.trace) (new.self.hangUp new.trace) := by
  have closed := asNew.disconnect.asNew
  simp only [CTCPClient.hangUp, asNew.status, asNew.flags]
  split
  · exact closed.oLog new.self.eSettingsFlags _
  · exact asNew

/-- From the first attempt on, both have the descriptor that they were given. -/
theorem AsNew.tryAddresses (bare : base.Bare) (asNew : AsNew base known old new)
    (attempts : List AddrAttempt) :
    Agrees base (known ∨ attempts ≠ []) (old.self.tryAddresses attempts old.trace)
      (new.self.tryAddresses attempts new.trace) := by
  induction attempts generalizing known old new with
  | nil => exact ⟨asNew.of_imp fun either => either.resolve_right (not_not.mpr rfl), rfl⟩
  | cons attempt rest ih =>
      have same : old.trace.newSocket attempt.socket = new.trace.newSocket attempt.socket := by
        rw [asNew.trace, Trace.newSocket_append bare]
      simp only [CTCPClient.tryAddresses, same]
      generalize new.trace.newSocket attempt.socket = connectSocket
      have created := (asNew.call (.socket attempt.entry.aiFamily attempt.entry.aiSocktype
        attempt.entry.aiProtocol connectSocket)).created connectSocket
      have tried := created.call (.connect connectSocket attempt.entry.aiAddr attempt.connect)
      split_ifs
      · exact (ih created).of_imp fun _ => .inl trivial
      · exact ⟨(tried.marked connectSocket .connected).of_imp fun _ => trivial, rfl⟩
      · exact (ih (tried.call (.close connectSocket))).of_imp fun _ => .inl trivial

/-- The end of `Connect`, behind the loop over the addresses. -/
theorem Agrees.freed {first second : Result CTCPClient Bool}
    (agrees : Agrees base known first second) {former latter : SettingsFlag}
    (flags : former = latter) (message : String) :
    Agrees base known
      (if first.value then { first.self.freeAddrInfo first.trace with value := true }
        else
          { self := (first.self.freeAddrInfo first.trace).self
            trace := (first.self.freeAddrInfo first.trace).trace.oLog former message
            value := false })
      (if second.value then { second.self.freeAddrInfo second.trace with value := true }
        else
          { self := (second.self.freeAddrInfo second.trace).self
            trace := (second.self.freeAddrInfo second.trace).trace.oLog latter message
            value := false }) := by
  have freed := agrees.asNew.freeAddrInfo
  rw [agrees.value, flags]
  split
  · exact ⟨freed, rfl⟩
  · exact ⟨freed.oLog latter message, rfl⟩

theorem AsNew.resolveAndConnect (bare : base.Bare) (asNew : AsNew base known old new)
    (strServer strPort : String) (resolution : Resolution) :
    Agrees base (known ∨ resolution.Dials)
      (old.self.resolveAndConnect strServer strPort resolution old.trace)
      (new.self.resolveAndConnect strServer strPort resolution new.trace) := by
  have same : old.trace.newList resolution.list = new.trace.newList resolution.list := by
    rw [asNew.trace, Trace.newList_append bare]
  simp only [CTCPClient.resolveAndConnect, same]
  by_cases resolved : resolution.code = 0
  · rw [if_neg (not_not.mpr resolved), if_neg (not_not.mpr resolved)]
    have asked := (asNew.call (.getaddrinfo strServer strPort afInet sockStream resolution.code
      (some (new.trace.newList resolution.list)))).resolved
        (some (new.trace.newList resolution.list))
    have tried := (asked.tryAddresses bare resolution.attempts).of_imp
      (Or.imp_right fun dials : resolution.Dials => dials.2)
    exact tried.freed asNew.flags _
  · rw [if_pos resolved, if_pos resolved, asNew.flags]
    have asked := asNew.call (.getaddrinfo strServer strPort afInet sockStream resolution.code none)
    have failed := (asked.oLog new.self.eSettingsFlags
      ("[TCPClient][Error] getaddrinfo failed : " ++ resolution.reason)).freeAddrInfo
    exact ⟨failed.of_imp fun either => either.resolve_right fun dials => resolved dials.1, rfl⟩

theorem AsNew.connect (bare : base.Bare) (asNew : AsNew base known old new)
    (strServer strPort : String) (resolution : Resolution) :
    Agrees base (known ∨ resolution.Dials)
      (old.self.connect strServer strPort resolution old.trace)
      (new.self.connect strServer strPort resolution new.trace) :=
  asNew.hangUp.resolveAndConnect bare strServer strPort resolution

theorem AsNew.send (asNew : AsNew base known old new) (pData : Option (Buffer UInt8)) (uSize : Nat)
    (script : List SendAnswer) :
    old.self.send pData uSize script old.trace =
      Sum.map (SendState.onto base) (Sent.onto base)
        (new.self.send pData uSize script new.trace) := by
  simp only [CTCPClient.send, sendEntry, asNew.status, asNew.trace]
  by_cases refused : pData.isNone ∨ uSize = 0
  · simp only [if_pos refused]
    rfl
  · simp only [if_neg refused]
    by_cases connected : new.self.eStatus = .connected
    · simp only [if_neg (not_not.mpr connected), CTCPClient.sendTurn, asNew.flags,
        asNew.current (.inr connected)]
      exact CallLoop.run_map (sendTurn_onto base _ _ _ uSize) (.start new.trace) script
    · simp only [ne_eq, if_pos connected, asNew.flags, Trace.oLog_append]
      rfl

theorem AsNew.receive (asNew : AsNew base known old new) (pData : Option (Buffer UInt8))
    (uSize : Nat) (bReadFully : Bool) (script : List RecvAnswer) :
    old.self.receive pData uSize bReadFully script old.trace =
      Sum.map (ReceiveState.onto base) (Received.onto base)
        (new.self.receive pData uSize bReadFully script new.trace) := by
  simp only [CTCPClient.receive, receiveEntry, asNew.status, asNew.trace]
  by_cases refused : pData.isNone ∨ uSize = 0
  · simp only [if_pos refused]
    rfl
  · simp only [if_neg refused]
    by_cases connected : new.self.eStatus = .connected
    · simp only [if_neg (not_not.mpr connected), CTCPClient.recvTurn,
        asNew.current (.inr connected)]
      exact CallLoop.run_map (recvTurn_onto base _ uSize bReadFully) (.start pData new.trace) script
    · simp only [ne_eq, if_pos connected, asNew.flags, Trace.oLog_append]
      rfl

theorem AsNew.traced (asNew : AsNew base known old new) {former latter : Trace}
    (trace : former = latter ++ base) :
    AsNew base known { old with trace := former } { new with trace := latter } :=
  { asNew with trace }

theorem AsNew.setTimeout (asNew : AsNew base known old new) (current : known)
    (option : SockOption) (failure : String) (iErr : Int) :
    let set (state : State CTCPClient) := SocketCpp.setTimeout state.self.connectSocket
      state.self.eSettingsFlags option failure iErr state.trace
    (set old).1 = (set new).1 ∧
      AsNew base known { old with trace := (set old).2 } { new with trace := (set new).2 } := by
  simp only [SocketCpp.setTimeout, asNew.current (.inl current), asNew.flags]
  split
  · exact ⟨rfl, (asNew.call _).oLog new.self.eSettingsFlags failure⟩
  · exact ⟨rfl, asNew.call _⟩

theorem AsNew.step (bare : base.Bare) (asNew : AsNew base known old new) {op : Op}
    (spares : op.SetsTimeout → known) :
    reply old op = reply new op ∧
      AsNew base (known ∨ op.Dials) (CTCPClient.step old op) (CTCPClient.step new op) := by
  have undialed {first second : State CTCPClient} (asNew : AsNew base known first second)
      (dials : ¬ op.Dials) : AsNew base (known ∨ op.Dials) first second :=
    asNew.of_imp fun either => either.resolve_right dials
  cases op with
  | connect strServer strPort resolution =>
      have agrees := asNew.connect bare strServer strPort resolution
      exact ⟨congrArg Reply.answered agrees.value, agrees.asNew⟩
  | disconnect =>
      have agrees := asNew.disconnect
      exact ⟨congrArg Reply.answered agrees.value, undialed agrees.asNew id⟩
  | send pData uSize script =>
      have sent := asNew.send pData uSize script
      simp only [reply, CTCPClient.step, sent]
      exact ⟨Reply.ofSent_onto base _, undialed (asNew.traced (sentTrace_onto base _)) id⟩
  | receive pData uSize bReadFully script =>
      have received := asNew.receive pData uSize bReadFully script
      simp only [reply, CTCPClient.step, received]
      exact ⟨Reply.ofReceived_onto base _, undialed (asNew.traced (receivedTrace_onto base _)) id⟩
  | setRcvTimeout | setRcvTimeoutTimeval | setSndTimeout | setSndTimeoutTimeval =>
      have timeout := asNew.setTimeout (spares trivial)
      exact ⟨congrArg Reply.answered (timeout _ _ _).1, undialed (timeout _ _ _).2 id⟩

/-- Along a run, the descriptors agree from the first `Connect` on that asks for one. -/
theorem AsNew.run (bare : base.Bare) (asNew : AsNew base known old new) {after : List Op}
    (spares : known ∨ SparesTimeouts after) :
    Runs.replies CTCPClient.step reply old after = Runs.replies CTCPClient.step reply new after ∧
      AsNew base False (after.foldl CTCPClient.step old) (after.foldl CTCPClient.step new) := by
  induction after generalizing known old new with
  | nil => exact ⟨rfl, asNew.of_imp False.elim⟩
  | cons op rest ih =>
      have now : op.SetsTimeout → known := by
        intro sets
        rcases spares with knows | dials | spared
        · exact knows
        · cases op <;> first | exact dials.elim | exact sets.elim
        · exact (spared.1 sets).elim
      have later : (known ∨ op.Dials) ∨ SparesTimeouts rest := by
        rcases spares with knows | dials | spared
        · exact .inl (.inl knows)
        · exact .inl (.inr dials)
        · exact .inr spared.2
      obtain ⟨same, stays⟩ := asNew.step bare now
      obtain ⟨replies, last⟩ := ih stays later
      rw [Runs.replies, Runs.replies, same, replies]
      exact ⟨rfl, last⟩

/-! A timeout that is set on a number which means nothing any more. -/

theorem setTimeout_parts {first second : Socket} (differ : first ≠ second) (flags : SettingsFlag)
    (option : SockOption) (failure : String) (iErr : Int) (trace : Trace) :
    let former := (SocketCpp.setTimeout first flags option failure iErr (trace ++ base)).2
    let latter := (SocketCpp.setTimeout second flags option failure iErr trace).2
    former.length = (latter ++ base).length ∧ former ≠ latter ++ base := by
  simp only [SocketCpp.setTimeout, Trace.oLog]
  split_ifs <;> simp [differ]

theorem step_undialed {state : State CTCPClient} {op : Op}
    (idle : state.self.eStatus = .disconnected) (undialed : ¬ op.Dials) :
    (CTCPClient.step state op).self.connectSocket = state.self.connectSocket ∧
      (CTCPClient.step state op).self.eStatus = .disconnected := by
  have closed : state.self.eStatus ≠ .connected := by simp [idle]
  cases op with
  | connect strServer strPort resolution =>
      have freed (client : CTCPClient) (trace : Trace) := client.freeAddrInfo_self trace
      simp only [CTCPClient.step, connect, hangUp, if_neg closed, resolveAndConnect]
      by_cases resolved : resolution.code = 0
      · have none : resolution.attempts = [] := by
          by_contra some
          exact undialed ⟨resolved, some⟩
        rw [if_neg (not_not.mpr resolved), none]
        exact ⟨(freed _ _).2.2, (freed _ _).2.1.trans idle⟩
      · rw [if_pos resolved]
        exact ⟨(freed _ _).2.2, (freed _ _).2.1.trans idle⟩
  | disconnect =>
      simp only [CTCPClient.step, disconnect]
      rw [if_pos closed]
      exact ⟨rfl, idle⟩
  | _ => exact ⟨rfl, idle⟩

theorem step_grows (state : State CTCPClient) (op : Op) :
    Extends (fun _ => True) state.trace (CTCPClient.step state op).trace := by
  cases op with
  | connect strServer strPort resolution =>
      exact (connect_calls ..).mono fun _ _ => trivial
  | disconnect => exact (disconnect_calls ..).mono fun _ _ => trivial
  | send pData uSize script => exact (send_calls ..).mono fun _ _ => trivial
  | receive pData uSize bReadFully script => exact (receive_calls ..).mono fun _ _ => trivial
  | _ => exact (setTimeout_extends ..).mono fun _ _ => trivial

theorem run_grows (state : State CTCPClient) (after : List Op) :
    Extends (fun _ => True) state.trace (after.foldl CTCPClient.step state).trace :=
  @Runs.foldl_of_inductive _ _ CTCPClient.step
    (fun later => Extends (fun _ => True) state.trace later.trace)
    (fun later op grown => grown.trans (step_grows later op)) state (Extends.refl _ _) after

/-- Histories that part at one call never meet again, because nothing is taken back. -/
theorem AsNew.parts (bare : base.Bare) (asNew : AsNew base False old new)
    (idle : new.self.eStatus = .disconnected)
    (differ : old.self.connectSocket ≠ new.self.connectSocket) {after : List Op}
    (sets : ¬ SparesTimeouts after) :
    (after.foldl CTCPClient.step old).trace ≠ (after.foldl CTCPClient.step new).trace ++ base := by
  induction after generalizing old new with
  | nil => exact (sets trivial).elim
  | cons op rest ih =>
      obtain ⟨undialed, spared⟩ := not_or.mp sets
      by_cases timeout : op.SetsTimeout
      · have parted : (CTCPClient.step old op).trace.length =
              ((CTCPClient.step new op).trace ++ base).length ∧
            (CTCPClient.step old op).trace ≠ (CTCPClient.step new op).trace ++ base := by
          have parts := @setTimeout_parts base _ _ differ new.self.eSettingsFlags
          cases op with
          | setRcvTimeout | setRcvTimeoutTimeval | setSndTimeout | setSndTimeoutTimeval =>
              simp only [CTCPClient.step, CTCPClient.setRcvTimeout, CTCPClient.setSndTimeout,
                setRcvTimeoutTimeval, setSndTimeoutTimeval, asNew.flags, asNew.trace]
              apply parts
          | _ => exact timeout.elim
        obtain ⟨former, grownOld, -⟩ := run_grows (CTCPClient.step old op) rest
        obtain ⟨latter, grownNew, -⟩ := run_grows (CTCPClient.step new op) rest
        intro same
        rw [List.foldl_cons, List.foldl_cons, grownOld, grownNew, List.append_assoc] at same
        exact parted.2 (List.append_inj_right' same parted.1)
      · have quiet : ¬ SparesTimeouts rest := fun spares => spared ⟨timeout, spares⟩
        obtain ⟨keptOld, -⟩ := step_undialed (asNew.status.trans idle) undialed
        obtain ⟨keptNew, stays⟩ := step_undialed idle undialed
        have later := (asNew.step bare fun sets => (timeout sets).elim).2
        apply ih (later.of_imp False.elim) stays _ quiet
        rw [keptOld, keptNew]
        exact differ

end Steps

theorem step_flags (state : State CTCPClient) (op : Op) :
    (step state op).self.eSettingsFlags = state.self.eSettingsFlags := by
  cases op with
  | connect strServer strPort resolution =>
      exact (state.self.connect_connects strServer strPort resolution state.trace).flags.trans
        (state.self.hangUp_hungUp state.trace).flags
  | disconnect =>
      simp only [step, disconnect]
      split <;> rfl
  | _ => rfl

/-- Beside a new client, the same is returned and the same calls are made. -/
def LikeNew (eSettings : SettingsFlag) (old : State CTCPClient) (after : List Op) : Prop :=
  let new := after.foldl step (init eSettings)
  let again := after.foldl step old
  Runs.replies step reply old after = Runs.replies step reply (init eSettings) after ∧
    again.trace = new.trace ++ old.trace ∧
    (again.self.destroy again.trace).trace = (new.self.destroy new.trace).trace ++ old.trace

/-- A client that is disconnected, after whatever it has been through, answers and calls just
as a new one would, unless a timeout is set on the number that a refused `Connect` has left in
it. -/
theorem disconnected_like_new_iff (eSettings : SettingsFlag) (before after : List Op)
    (disconnected : (before.foldl step (init eSettings)).self.eStatus = .disconnected) :
    LikeNew eSettings (before.foldl step (init eSettings)) after ↔
      (before.foldl step (init eSettings)).self.connectSocket = invalidSocket ∨
        SparesTimeouts after := by
  generalize reached : before.foldl step (init eSettings) = old at disconnected ⊢
  have keeps : ∀ state op, Balanced state → Balanced (step state op) :=
    fun _ op balanced => balanced_step balanced op
  have balanced : Balanced old := by
    rw [← reached]
    exact Runs.foldl_of_inductive keeps (balanced_init eSettings) before
  have flags : old.self.eSettingsFlags = eSettings := by
    have same := @Runs.foldl_of_inductive _ _ step
      (fun state => state.self.eSettingsFlags = eSettings)
      (fun state op same => (step_flags state op).trans same) (init eSettings) rfl before
    rwa [reached] at same
  have bare : old.trace.Bare := ⟨(idle_even balanced disconnected).none, balanced.settled.lists⟩
  have start : AsNew old.trace (old.self.connectSocket = invalidSocket) old (init eSettings) := by
    refine ⟨rfl, flags, disconnected, balanced.free, ?_⟩
    rintro (known | connected)
    · exact known
    · cases connected
  constructor
  · rintro ⟨-, same, -⟩
    by_contra neither
    obtain ⟨stale, sets⟩ := not_or.mp neither
    exact (start.of_imp False.elim).parts bare rfl stale sets same
  · intro spares
    obtain ⟨replies, last⟩ := start.run bare spares
    refine ⟨replies, last.trace, ?_⟩
    rw [destroy_eq_disconnect, destroy_eq_disconnect]
    exact last.disconnect.asNew.trace

theorem disconnected_like_new_iff_refused :
    let refused := [Op.connect "localhost" "80" (oneAddress (-1))].foldl step (init .noFlags)
    let connect := Op.connect "localhost" "80" (oneAddress 0)
    LikeNew .noFlags refused [connect, .setRcvTimeout 1000 0, .disconnect] ∧
      ¬ LikeNew .noFlags refused [.setRcvTimeout 1000 0, connect, .disconnect] := by
  intro refused connect
  have idle : refused.self.eStatus = .disconnected := rfl
  have dials : (oneAddress 0).Dials := ⟨rfl, List.cons_ne_nil _ _⟩
  constructor
  · exact (disconnected_like_new_iff .noFlags [.connect "localhost" "80" (oneAddress (-1))]
      [connect, .setRcvTimeout 1000 0, .disconnect] idle).mpr (.inr (.inl dials))
  · intro same
    rcases (disconnected_like_new_iff .noFlags [.connect "localhost" "80" (oneAddress (-1))]
      [.setRcvTimeout 1000 0, connect, .disconnect] idle).mp same with stale | early
    · exact absurd stale (by decide)
    · rcases early with dials | ⟨sets, -⟩
      · exact dials
      · exact sets trivial

end CTCPClient

end SocketCpp
