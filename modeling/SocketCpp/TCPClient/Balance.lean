import SocketCpp.Data.Runs
import SocketCpp.TCPClient.Connecting

namespace SocketCpp

open Data

/-! What a `CTCPClient` acquires and releases, over whole runs.

The number in `m_ConnectSocket` may be stale, but the client closes it only while
its status says that it is open; the address list never outlives the `Connect` that
asked for it. -/

/-- Only open descriptors are closed. -/
def Call.ClosesOpen (call : Call) (earlier : Trace) : Prop :=
  match call with
  | .close fd => fd ∈ Trace.sockets earlier
  | _ => True

namespace Trace

/-- The acquisitions and releases of descriptors. -/
def descriptors (trace : Trace) : List (Ledger.Event Socket) :=
  Ledger.lifetime (Ledger.entries Call.socketEvents trace)

def addressLists (trace : Trace) : List (Ledger.Event Nat) :=
  Ledger.entries Call.listEvents trace

@[simp] theorem held_descriptors (trace : Trace) : Ledger.held trace.descriptors = trace.sockets :=
  Ledger.held_lifetime _

theorem descriptors_cons (call : Call) (earlier : Trace) :
    descriptors (call :: earlier) = Ledger.lifetime call.socketEvents ++ earlier.descriptors := by
  simp [descriptors, Ledger.lifetime]

/-- In a disciplined ledger only open descriptors are closed. -/
theorem closesOpen_of_disciplined {trace : Trace}
    (disciplined : Ledger.Disciplined trace.descriptors) : Each Call.ClosesOpen trace := by
  induction trace with
  | nil => trivial
  | cons call earlier ih =>
      rw [descriptors_cons] at disciplined
      refine ⟨?_, ih (Each.of_append disciplined)⟩
      cases call with
      | close fd =>
          have isOpen : fd ∈ Ledger.held (descriptors earlier) := disciplined.1
          rw [held_descriptors] at isOpen
          exact isOpen
      | _ => trivial

theorem descriptors_of_quiet {before after : Trace}
    (extended : Extends (fun call : Call => call.socketEvents = []) before after) :
    after.descriptors = before.descriptors := by
  rw [descriptors, socketEntries_of_quiet extended, descriptors]

theorem addressLists_oLog (trace : Trace) (flags : SettingsFlag) (message : String) :
    addressLists (trace.oLog flags message) = trace.addressLists := by
  simp only [oLog]
  split <;> rfl

/-- No descriptor is open, and none has been closed twice. -/
structure Even (trace : Trace) : Prop where
  disciplined : Ledger.Disciplined trace.descriptors
  none : trace.sockets = ∅

theorem descriptors_attempt (entry : AddrInfo) {fd : Socket} (valid : 0 ≤ fd) (iConRet : Int)
    (earlier : Trace) :
    descriptors (CTCPClient.attemptCalls entry fd iConRet earlier) =
      .acquire fd :: earlier.descriptors := by
  simp [descriptors, CTCPClient.attemptCalls, Call.socketEvents, valid]

theorem sockets_attempt (entry : AddrInfo) {fd : Socket} (valid : 0 ≤ fd) (iConRet : Int)
    (earlier : Trace) :
    sockets (CTCPClient.attemptCalls entry fd iConRet earlier) = insert fd earlier.sockets := by
  rw [CTCPClient.attemptCalls, sockets_connect, sockets_socket earlier _ _ _ valid]

theorem even_failed (entry : AddrInfo) (earlier : Trace) (even : earlier.Even) :
    Even (.socket entry.aiFamily entry.aiSocktype entry.aiProtocol invalidSocket :: earlier) :=
  ⟨even.disciplined, even.none⟩

/-- The descriptor of a refused attempt is closed again. -/
theorem even_refused (entry : AddrInfo) (named : Nat) (iConRet : Int) (earlier : Trace)
    (even : earlier.Even) :
    Even (.close (newSocket earlier (some named)) ::
      CTCPClient.attemptCalls entry (newSocket earlier (some named)) iConRet earlier) := by
  have valid := newSocket_some_nonneg earlier named
  have fresh := newSocket_some_not_mem earlier named
  generalize newSocket earlier (some named) = fd at valid fresh ⊢
  refine ⟨⟨?_, ?_⟩, ?_⟩
  · change fd ∈ Ledger.held (descriptors (CTCPClient.attemptCalls entry fd iConRet earlier))
    rw [held_descriptors, sockets_attempt entry valid]
    exact Finset.mem_insert_self _ _
  · change Ledger.Disciplined (descriptors (CTCPClient.attemptCalls entry fd iConRet earlier))
    rw [descriptors_attempt entry valid, Ledger.disciplined_acquire, held_descriptors]
    exact ⟨fresh, even.disciplined⟩
  · rw [sockets_close, sockets_attempt entry valid, Finset.erase_insert fresh]
    exact even.none

theorem even_resolves (call : Call) (earlier : Trace) (resolves : call.Resolves)
    (even : earlier.Even) : Even (call :: earlier) := by
  cases call <;> first | exact resolves.elim | exact ⟨even.disciplined, even.none⟩

end Trace

namespace CTCPClient

/-- Between two calls only the descriptor of a connected client is open, and no list. -/
structure Settled (state : State CTCPClient) : Prop where
  sockets : state.trace.sockets =
    if state.self.eStatus = .connected then {state.self.connectSocket} else ∅
  lists : state.trace.lists = ∅

structure Balanced (state : State CTCPClient) : Prop where
  settled : Settled state
  descriptors : Ledger.Disciplined state.trace.descriptors
  lists : Ledger.Disciplined state.trace.addressLists
  free : state.self.pResultAddrInfo = none

theorem closes_even {state : State CTCPClient} (balanced : Balanced state)
    (connected : state.self.eStatus = .connected) :
    Trace.Even (.close state.self.connectSocket :: state.trace) := by
  have sockets := balanced.settled.sockets
  rw [if_pos connected] at sockets
  refine ⟨⟨?_, balanced.descriptors⟩, ?_⟩
  · change state.self.connectSocket ∈ Ledger.held (Trace.descriptors state.trace)
    rw [Trace.held_descriptors, sockets]
    exact Finset.mem_singleton_self _
  · rw [Trace.sockets_close, sockets, Finset.erase_singleton]

theorem idle_even {state : State CTCPClient} (balanced : Balanced state)
    (disconnected : state.self.eStatus = .disconnected) : state.trace.Even := by
  refine ⟨balanced.descriptors, ?_⟩
  rw [balanced.settled.sockets, disconnected]
  rfl

theorem connect_descriptors {state : State CTCPClient} (balanced : Balanced state)
    (strServer strPort : String) (resolution : Resolution) :
    Ledger.Disciplined
        (state.self.connect strServer strPort resolution state.trace).trace.descriptors ∧
      (state.self.connect strServer strPort resolution state.trace).trace.sockets =
        if (state.self.connect strServer strPort resolution state.trace).self.eStatus = .connected
        then {(state.self.connect strServer strPort resolution state.trace).self.connectSocket}
        else ∅ := by
  have rule := connect_rule Trace.even_failed Trace.even_refused Trace.even_resolves state.self
    strServer strPort resolution (idle_even balanced) (closes_even balanced)
  have status := state.self.connect_status strServer strPort resolution state.trace
  generalize state.self.connect strServer strPort resolution state.trace = result at rule status ⊢
  cases value : result.value with
  | false =>
      rw [value] at status
      have even := rule.1 value
      refine ⟨even.disciplined, ?_⟩
      rw [even.none, status]
      rfl
  | true =>
      rw [value] at status
      obtain ⟨entry, named, iConRet, earlier, even, socket, resolves⟩ := rule.2 value
      have quiet := resolves.mono fun _ => Call.Resolves.quiet
      have valid := Trace.newSocket_some_nonneg earlier named
      have fresh := Trace.newSocket_some_not_mem earlier named
      refine ⟨?_, ?_⟩
      · rw [Trace.descriptors_of_quiet quiet, Trace.descriptors_attempt entry valid,
          Ledger.disciplined_acquire, Trace.held_descriptors]
        exact ⟨fresh, even.disciplined⟩
      · rw [Trace.sockets_of_quiet quiet, Trace.sockets_attempt entry valid, even.none, socket,
          status]
        rfl

/-! The address list. -/

theorem tryAddresses_lists (client : CTCPClient) (attempts : List AddrAttempt) (trace : Trace) :
    (client.tryAddresses attempts trace).trace.addressLists = trace.addressLists := by
  induction attempts generalizing client trace with
  | nil => rfl
  | cons attempt rest ih =>
      simp only [tryAddresses]
      split_ifs
      · exact ih _ _
      · rfl
      · exact ih _ _

/-- Every list that the resolution gets is freed before `Connect` returns. -/
theorem resolveAndConnect_lists {client : CTCPClient} (free : client.pResultAddrInfo = none)
    (strServer strPort : String) (resolution : Resolution) (trace : Trace) :
    (client.resolveAndConnect strServer strPort resolution trace).self.pResultAddrInfo = none ∧
      ((client.resolveAndConnect strServer strPort resolution trace).trace.addressLists =
          trace.addressLists ∨
        (client.resolveAndConnect strServer strPort resolution trace).trace.addressLists =
          .release (trace.newList resolution.list) :: .acquire (trace.newList resolution.list) ::
            trace.addressLists) := by
  simp only [resolveAndConnect]
  by_cases unresolved : resolution.code ≠ 0
  · have asked : Trace.addressLists (.getaddrinfo strServer strPort afInet sockStream
        resolution.code none :: trace) = trace.addressLists := by
      simp [Trace.addressLists, Call.listEvents, unresolved]
    rw [if_pos unresolved, freeAddrInfo, if_neg (not_not.mpr free)]
    exact ⟨free, .inl ((Trace.addressLists_oLog ..).trans asked)⟩
  · have resolved : resolution.code = 0 := not_not.mp unresolved
    have asked : Trace.addressLists (.getaddrinfo strServer strPort afInet sockStream
        resolution.code (some (trace.newList resolution.list)) :: trace) =
        .acquire (trace.newList resolution.list) :: trace.addressLists := by
      simp [Trace.addressLists, Call.listEvents, resolved, acquireIfAny]
    rw [if_neg unresolved]
    generalize trace.newList resolution.list = list at asked ⊢
    have tried := tryAddresses_lists { client with pResultAddrInfo := some list }
      resolution.attempts (.getaddrinfo strServer strPort afInet sockStream resolution.code
        (some list) :: trace)
    have kept := (tryAddresses_dialed { client with pResultAddrInfo := some list }
      resolution.attempts (.getaddrinfo strServer strPort afInet sockStream resolution.code
        (some list) :: trace)).list
    generalize tryAddresses { client with pResultAddrInfo := some list } resolution.attempts
      (.getaddrinfo strServer strPort afInet sockStream resolution.code (some list) :: trace) =
      loop at tried kept ⊢
    rw [asked] at tried
    have frees : Trace.addressLists (.freeaddrinfo (some list) :: loop.trace) =
        .release list :: .acquire list :: trace.addressLists :=
      congrArg (Ledger.Event.release list :: ·) tried
    have held : loop.self.pResultAddrInfo ≠ none := by simp [kept]
    rw [freeAddrInfo, if_pos held, kept]
    split_ifs
    · exact ⟨rfl, .inr frees⟩
    · exact ⟨rfl, .inr ((Trace.addressLists_oLog ..).trans frees)⟩

theorem hangUp_lists (client : CTCPClient) (trace : Trace) :
    (client.hangUp trace).self.pResultAddrInfo = client.pResultAddrInfo ∧
      (client.hangUp trace).trace.addressLists = trace.addressLists := by
  simp only [hangUp, disconnect]
  split_ifs
  · exact ⟨rfl, Trace.addressLists_oLog ..⟩
  · exact ⟨rfl, Trace.addressLists_oLog ..⟩
  · exact ⟨rfl, rfl⟩

theorem connect_lists {state : State CTCPClient} (balanced : Balanced state)
    (strServer strPort : String) (resolution : Resolution) :
    (state.self.connect strServer strPort resolution state.trace).self.pResultAddrInfo = none ∧
      Ledger.Disciplined
        (state.self.connect strServer strPort resolution state.trace).trace.addressLists ∧
      (state.self.connect strServer strPort resolution state.trace).trace.lists = ∅ := by
  obtain ⟨same, before⟩ := state.self.hangUp_lists state.trace
  obtain ⟨free, lists⟩ := resolveAndConnect_lists (same.trans balanced.free) strServer strPort
    resolution (state.self.hangUp state.trace).trace
  have none : Ledger.held state.trace.addressLists = ∅ := balanced.settled.lists
  refine ⟨free, ?_⟩
  change Ledger.Disciplined _ ∧ Ledger.held (Trace.addressLists _) = ∅
  rw [connect]
  rcases lists with same | freed
  · rw [same, before]
    exact ⟨balanced.lists, none⟩
  · rw [freed, before]
    simp [none, balanced.lists]

theorem balanced_connect {state : State CTCPClient} (balanced : Balanced state)
    (strServer strPort : String) (resolution : Resolution) :
    Balanced (state.self.connect strServer strPort resolution state.trace).toState := by
  obtain ⟨descriptors, sockets⟩ := connect_descriptors balanced strServer strPort resolution
  obtain ⟨free, lists, none⟩ := connect_lists balanced strServer strPort resolution
  exact ⟨⟨sockets, none⟩, descriptors, lists, free⟩

theorem balanced_disconnect {state : State CTCPClient} (balanced : Balanced state) :
    Balanced (state.self.disconnect state.trace).toState := by
  simp only [disconnect]
  cases status : state.self.eStatus with
  | connected =>
      rw [if_neg (not_not.mpr rfl)]
      have even := closes_even balanced status
      exact ⟨⟨even.none, balanced.settled.lists⟩, even.disciplined, balanced.lists, balanced.free⟩
  | disconnected =>
      rw [if_pos (by decide)]
      exact balanced

theorem Balanced.of_touching {state : State CTCPClient} (balanced : Balanced state) {trace : Trace}
    (touches : Extends (fun call => Ledger.Touching Call.socketEvents call ∧ call.listEvents = [])
      state.trace trace) : Balanced { state with trace } := by
  have sockets : trace.sockets = state.trace.sockets :=
    Ledger.held_of_touching (touches.mono fun _ both => both.1)
  have descriptors : trace.descriptors = state.trace.descriptors :=
    Ledger.lifetime_of_touching (touches.mono fun _ both => both.1)
  have lists : trace.addressLists = state.trace.addressLists :=
    Ledger.entries_eq_of_quiet (touches.mono fun _ both => both.2)
  refine ⟨⟨sockets.trans balanced.settled.sockets, ?_⟩, ?_, ?_, balanced.free⟩
  · change Ledger.held trace.addressLists = ∅
    rw [lists]
    exact balanced.settled.lists
  · rw [descriptors]
    exact balanced.descriptors
  · rw [lists]
    exact balanced.lists

theorem balanced_transfers {state : State CTCPClient} (balanced : Balanced state) {fd : Socket}
    {trace : Trace} (transfers : Extends (Call.Transfers fd) state.trace trace) :
    Balanced { state with trace } :=
  balanced.of_touching (transfers.mono fun call transfers =>
    ⟨transfers.touching, by cases call <;> first | exact transfers.elim | rfl⟩)

theorem balanced_setTimeout {state : State CTCPClient} (balanced : Balanced state)
    (option : SockOption) (failure : String) (iErr : Int) :
    Balanced { state with trace := (setTimeout state.self.connectSocket state.self.eSettingsFlags
      option failure iErr state.trace).2 } :=
  balanced.of_touching ((setTimeout_extends ..).mono fun call sets =>
    ⟨sets.touching, by cases call <;> first | exact sets.elim | rfl⟩)

theorem balanced_step {state : State CTCPClient} (balanced : Balanced state) (op : Op) :
    Balanced (step state op) := by
  cases op with
  | connect strServer strPort resolution =>
      exact balanced_connect balanced strServer strPort resolution
  | disconnect => exact balanced_disconnect balanced
  | send pData uSize script => exact balanced_transfers balanced (send_calls ..)
  | receive pData uSize bReadFully script => exact balanced_transfers balanced (receive_calls ..)
  | setRcvTimeout msecTimeout iErr => exact balanced_setTimeout balanced _ _ iErr
  | setRcvTimeoutTimeval timeout iErr => exact balanced_setTimeout balanced _ _ iErr
  | setSndTimeout msecTimeout iErr => exact balanced_setTimeout balanced _ _ iErr
  | setSndTimeoutTimeval timeout iErr => exact balanced_setTimeout balanced _ _ iErr

theorem balanced_init (eSettings : SettingsFlag) : Balanced (init eSettings) :=
  ⟨⟨rfl, rfl⟩, trivial, trivial, rfl⟩

theorem destroy_eq_disconnect (client : CTCPClient) (trace : Trace) :
    client.destroy trace = (client.disconnect trace).toState := by
  simp only [destroy, disconnect]
  cases client.eStatus with
  | connected => rfl
  | disconnected => rfl

theorem disconnect_status (client : CTCPClient) (trace : Trace) :
    (client.disconnect trace).self.eStatus = .disconnected := by
  simp only [disconnect]
  cases status : client.eStatus with
  | connected => rfl
  | disconnected => exact status

/-- Every descriptor and every list that a client gets is released once, the
descriptors by the end of the destructor and the lists before `Connect` returns, and
nothing else is ever closed or freed. -/
theorem client_balances (eSettings : SettingsFlag) (operations : List Op) :
    let last := operations.foldl step (init eSettings)
    let trace := (last.self.destroy last.trace).trace
    Runs.Always step Settled (init eSettings) operations ∧
      Each Call.ClosesOpen trace ∧ Ledger.Disciplined trace.descriptors ∧
      Ledger.Disciplined trace.addressLists ∧ trace.sockets = ∅ ∧ trace.lists = ∅ ∧
      (∀ fd, trace.descriptors.count (.release fd) = trace.descriptors.count (.acquire fd)) ∧
      ∀ list, trace.addressLists.count (.release list) =
        trace.addressLists.count (.acquire list) := by
  intro last trace
  have keeps : ∀ state op, Balanced state → Balanced (step state op) :=
    fun _ op balanced => balanced_step balanced op
  have always : Runs.Always step Balanced (init eSettings) operations :=
    Runs.always_of_inductive keeps (balanced_init eSettings) operations
  have final : Balanced (last.self.destroy last.trace) := by
    rw [destroy_eq_disconnect]
    exact balanced_disconnect always.last
  have disconnected : (last.self.destroy last.trace).self.eStatus = .disconnected := by
    rw [destroy_eq_disconnect]
    exact disconnect_status ..
  have sockets : trace.sockets = ∅ := by
    have settled := final.settled.sockets
    rw [disconnected] at settled
    exact settled
  have lists : trace.lists = ∅ := final.settled.lists
  exact ⟨always.mono fun _ balanced => balanced.settled,
    Trace.closesOpen_of_disciplined final.descriptors, final.descriptors, final.lists, sockets,
    lists, final.descriptors.count_of_empty ((Trace.held_descriptors trace).trans sockets),
    final.lists.count_of_empty lists⟩

end CTCPClient

end SocketCpp
