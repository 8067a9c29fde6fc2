import SocketCpp.Data.Runs
import SocketCpp.Windows.TCPClient

namespace SocketCpp.Windows

open Data

/-! Which sockets a `CTCPClient` of the Windows build leaves open, over whole runs.

A refused `connect` and a failed `shutdown` return without `closesocket`, while the
client goes on as disconnected. -/

/-- The run of calls gets as far as `connect`, and that fails. -/
def ConnectAnswers.Refused (answers : ConnectAnswers) : Prop :=
  answers.getaddrinfo = 0 ∧ answers.socket.isSome ∧ answers.noDelay ≠ invalidSocket ∧
    answers.connect = socketError

namespace CTCPClient

/-- Closing the connection, if there is one, does not fail. -/
def ShutsDown (client : CTCPClient) (answer : Answer) : Prop :=
  client.eStatus = .connected → answer.result ≠ socketError

def Op.Clean (client : CTCPClient) : Op → Prop
  | .connect _ _ answers => client.ShutsDown answers.shutdown ∧ ¬ answers.Refused
  | .disconnect answer => client.ShutsDown answer

/-- Only the socket of a connected client is open. -/
structure Balanced (client : CTCPClient) (openings : List (Ledger.Event Socket)) : Prop where
  disciplined : Ledger.Disciplined openings
  held : Ledger.held openings =
    if client.eStatus = .connected then {client.connectSocket} else ∅

/-- A socket is open that the client will not close. -/
def Leaked (client : CTCPClient) (openings : List (Ledger.Event Socket)) : Prop :=
  ∃ sd ∈ Ledger.held openings, ¬ (client.eStatus = .connected ∧ client.connectSocket = sd)

/-- What the resolution and the one attempt of a disconnected client do to its sockets. -/
inductive Attempt (answers : ConnectAnswers) (openings : List (Ledger.Event Socket))
    (client : CTCPClient) (after : List (Ledger.Event Socket)) : Prop where
  | untouched (proper : ¬ answers.Refused) (status : client.eStatus = .disconnected)
      (same : after = openings)
  | closed (sd : Socket) (fresh : sd ∉ Ledger.held openings) (proper : ¬ answers.Refused)
      (status : client.eStatus = .disconnected)
      (same : after = .release sd :: .acquire sd :: openings)
  | refused (sd : Socket) (fresh : sd ∉ Ledger.held openings) (refusal : answers.Refused)
      (status : client.eStatus = .disconnected) (same : after = .acquire sd :: openings)
  | connected (sd : Socket) (fresh : sd ∉ Ledger.held openings) (proper : ¬ answers.Refused)
      (status : client.eStatus = .connected) (current : client.connectSocket = sd)
      (same : after = .acquire sd :: openings)

theorem freeAddrInfo_openings (client : CTCPClient) (trace : Trace) :
    (client.freeAddrInfo trace).self.eStatus = client.eStatus ∧
      (client.freeAddrInfo trace).trace.openings = trace.openings := by
  simp only [freeAddrInfo]
  split
  · exact ⟨rfl, Trace.openings_cons _ trace⟩
  · exact ⟨rfl, rfl⟩

theorem resolveAndConnect_attempt {client : CTCPClient}
    (disconnected : client.eStatus = .disconnected) (strServer strPort : String)
    (answers : ConnectAnswers) (trace : Trace) :
    Attempt answers trace.openings
      (client.resolveAndConnect strServer strPort answers trace).self
      (client.resolveAndConnect strServer strPort answers trace).trace.openings := by
  simp only [resolveAndConnect]
  by_cases unresolved : answers.getaddrinfo ≠ 0
  · rw [if_pos unresolved]
    have freed := client.freeAddrInfo_openings
    refine .untouched (fun refused => unresolved refused.1) ((freed _).1.trans disconnected) ?_
    rw [(freed _).2, Trace.openings_oLog]
    simp [Trace.openings_cons, Call.socketEvents]
  · rw [if_neg unresolved]
    generalize some (trace.newList answers.list) = list
    have asked : Trace.openings (.getaddrinfo (some strServer) strPort hints answers.getaddrinfo
        list :: trace) = trace.openings := by
      simp [Trace.openings_cons, Call.socketEvents]
    have fresh := Trace.newSocket_some_not_mem (.getaddrinfo (some strServer) strPort hints
      answers.getaddrinfo list :: trace)
    have valid := Trace.newSocket_some_ne (.getaddrinfo (some strServer) strPort hints
      answers.getaddrinfo list :: trace)
    simp only [← Trace.held_openings, asked] at fresh
    cases found : answers.socket with
    | none =>
        refine .untouched (fun refused => by simp [ConnectAnswers.Refused, found] at refused)
          disconnected ?_
        simp [Trace.newSocket, Trace.openings_cons, Call.socketEvents]
    | some named =>
        have fresh := fresh named
        have valid := valid named
        generalize Trace.newSocket _ (some named) = sd at fresh valid ⊢
        rw [if_neg valid]
        simp only [connectOn]
        split_ifs with undelayed refusal
        · refine .closed sd fresh (fun refused => refused.2.2.1 undelayed) disconnected ?_
          simp [Trace.openings_cons, Call.socketEvents, valid]
        · refine .connected sd fresh (fun refused => refusal refused.2.2.2) rfl rfl ?_
          simp [Trace.openings_cons, Call.socketEvents, valid]
        · refine .refused sd fresh ⟨not_not.mp unresolved, ?_, undelayed, not_not.mp refusal⟩
            disconnected ?_
          · rw [found]
            rfl
          · simp [Trace.openings_cons, Call.socketEvents, valid]

/-! `Disconnect`, also as part of `Connect` and of the destructor. -/

theorem disconnect_of_disconnected {client : CTCPClient}
    (disconnected : client.eStatus = .disconnected) (answer : Answer) (trace : Trace) :
    (client.disconnect answer trace).toState = { self := client, trace } := by
  simp [disconnect, disconnected]

/-- A connected client comes out disconnected, and closes its socket unless `shutdown`
fails. -/
theorem disconnect_of_connected {client : CTCPClient} (connected : client.eStatus = .connected)
    (answer : Answer) (trace : Trace) :
    (client.disconnect answer trace).self.eStatus = .disconnected ∧
      (client.disconnect answer trace).trace.openings =
        if answer.result = socketError then trace.openings
        else .release client.connectSocket :: trace.openings := by
  simp only [disconnect, connected, ne_eq, not_true_eq_false, if_false]
  split
  · rw [Trace.openings_oLog]
    exact ⟨rfl, Trace.openings_cons _ trace⟩
  · have freed := freeAddrInfo_openings { client with eStatus := .disconnected }
      (.closesocket client.connectSocket ::
        .shutdown client.connectSocket sdSend answer.result :: trace)
    refine ⟨freed.1, freed.2.trans ?_⟩
    simp [Trace.openings_cons, Call.socketEvents]

theorem disconnect_status (client : CTCPClient) (answer : Answer) (trace : Trace) :
    (client.disconnect answer trace).self.eStatus = .disconnected := by
  cases status : client.eStatus with
  | connected => exact (disconnect_of_connected status answer trace).1
  | disconnected =>
      rw [disconnect_of_disconnected status]
      exact status

theorem hangUp_eq (client : CTCPClient) (answer : Answer) (trace : Trace) :
    (client.hangUp answer trace).self = (client.disconnect answer trace).self ∧
      (client.hangUp answer trace).trace.openings =
        (client.disconnect answer trace).trace.openings := by
  simp only [hangUp]
  split
  · exact ⟨rfl, Trace.openings_oLog ..⟩
  · next idle =>
      have disconnected : client.eStatus = .disconnected := by
        cases status : client.eStatus with
        | connected => exact absurd status idle
        | disconnected => rfl
      rw [disconnect_of_disconnected disconnected]
      exact ⟨rfl, rfl⟩

theorem destroy_eq (client : CTCPClient) (answer : Answer) (trace : Trace) :
    client.destroy answer trace = (client.disconnect answer trace).toState := by
  cases status : client.eStatus with
  | connected => simp [destroy, status]
  | disconnected =>
      rw [disconnect_of_disconnected status]
      simp [destroy, status]

section Disconnecting

variable {client : CTCPClient} {answer : Answer} {trace : Trace}

theorem balanced_disconnect (balanced : Balanced client trace.openings)
    (shutsDown : client.ShutsDown answer) :
    Balanced (client.disconnect answer trace).self
      (client.disconnect answer trace).trace.openings := by
  cases status : client.eStatus with
  | disconnected =>
      rw [disconnect_of_disconnected status]
      exact balanced
  | connected =>
      obtain ⟨ended, openings⟩ := disconnect_of_connected status answer trace
      have held := balanced.held
      rw [if_pos status] at held
      rw [if_neg (shutsDown status)] at openings
      rw [openings]
      refine ⟨⟨?_, balanced.disciplined⟩, ?_⟩
      · change client.connectSocket ∈ Ledger.held _
        rw [held]
        exact Finset.mem_singleton_self _
      · rw [Ledger.held_release, held, ended, Finset.erase_singleton]
        rfl

/-- The socket of a connected client is lost when `shutdown` fails. -/
theorem leaked_of_not_shutsDown (balanced : Balanced client trace.openings)
    (fails : ¬ client.ShutsDown answer) :
    Leaked (client.disconnect answer trace).self
      (client.disconnect answer trace).trace.openings := by
  simp only [ShutsDown, not_forall, not_not] at fails
  obtain ⟨connected, failed⟩ := fails
  obtain ⟨ended, openings⟩ := disconnect_of_connected connected answer trace
  have held := balanced.held
  rw [if_pos connected] at held
  rw [if_pos failed] at openings
  refine ⟨client.connectSocket, ?_, ?_⟩
  · rw [openings, held]
    exact Finset.mem_singleton_self _
  · rw [ended]
    exact fun holds => nomatch holds.1

theorem leaked_disconnect (leaked : Leaked client trace.openings) (answer : Answer) :
    Leaked (client.disconnect answer trace).self
      (client.disconnect answer trace).trace.openings := by
  cases status : client.eStatus with
  | disconnected =>
      rw [disconnect_of_disconnected status]
      exact leaked
  | connected =>
      obtain ⟨ended, openings⟩ := disconnect_of_connected status answer trace
      obtain ⟨sd, isOpen, lost⟩ := leaked
      have other : sd ≠ client.connectSocket := fun same => lost ⟨status, same.symm⟩
      refine ⟨sd, ?_, ?_⟩
      · rw [openings]
        split
        · exact isOpen
        · exact Finset.mem_erase.mpr ⟨other, isOpen⟩
      · rw [ended]
        exact fun holds => nomatch holds.1

end Disconnecting

section Attempts

variable {answers : ConnectAnswers} {before after : List (Ledger.Event Socket)}
  {client : CTCPClient}

theorem Attempt.balanced (attempt : Attempt answers before client after)
    (disciplined : Ledger.Disciplined before) (none : Ledger.held before = ∅)
    (proper : ¬ answers.Refused) : Balanced client after := by
  cases attempt with
  | untouched _ status same =>
      rw [same]
      exact ⟨disciplined, by rw [none, status]; rfl⟩
  | closed sd fresh _ status same =>
      rw [same]
      refine ⟨⟨Finset.mem_insert_self _ _, fresh, disciplined⟩, ?_⟩
      rw [Ledger.held_release, Ledger.held_acquire, Finset.erase_insert fresh, none, status]
      rfl
  | refused _ _ refusal => exact absurd refusal proper
  | connected sd fresh _ status current same =>
      rw [same]
      refine ⟨⟨fresh, disciplined⟩, ?_⟩
      rw [Ledger.held_acquire, none, status, current]
      rfl

theorem Attempt.leaked_of_refused (attempt : Attempt answers before client after)
    (refusal : answers.Refused) : Leaked client after := by
  cases attempt with
  | untouched proper => exact absurd refusal proper
  | closed _ _ proper => exact absurd refusal proper
  | refused sd _ _ status same =>
      rw [same]
      refine ⟨sd, Finset.mem_insert_self _ _, ?_⟩
      rw [status]
      exact fun holds => nomatch holds.1
  | connected _ _ proper => exact absurd refusal proper

/-- An open socket that is not the client's stays so: the next one is a fresh one. -/
theorem Attempt.leaked (attempt : Attempt answers before client after) {sd : Socket}
    (isOpen : sd ∈ Ledger.held before) : Leaked client after := by
  have idle (status : client.eStatus = .disconnected) :
      ¬ (client.eStatus = .connected ∧ client.connectSocket = sd) := by
    rw [status]
    exact fun holds => nomatch holds.1
  have different (other : Socket) (fresh : other ∉ Ledger.held before) : sd ≠ other := by
    rintro rfl
    exact fresh isOpen
  cases attempt with
  | untouched _ status same =>
      rw [same]
      exact ⟨sd, isOpen, idle status⟩
  | closed other fresh _ status same =>
      rw [same]
      exact ⟨sd, Finset.mem_erase.mpr ⟨different other fresh, Finset.mem_insert_of_mem isOpen⟩,
        idle status⟩
  | refused other fresh _ status same =>
      rw [same]
      exact ⟨sd, Finset.mem_insert_of_mem isOpen, idle status⟩
  | connected other fresh _ status current same =>
      rw [same]
      refine ⟨sd, Finset.mem_insert_of_mem isOpen, ?_⟩
      rw [current]
      exact fun holds => different other fresh holds.2.symm

end Attempts

theorem connect_attempt (client : CTCPClient) (strServer strPort : String)
    (answers : ConnectAnswers) (trace : Trace) :
    Attempt answers (client.disconnect answers.shutdown trace).trace.openings
      (client.connect strServer strPort answers trace).self
      (client.connect strServer strPort answers trace).trace.openings := by
  obtain ⟨self, openings⟩ := client.hangUp_eq answers.shutdown trace
  rw [← openings]
  apply resolveAndConnect_attempt
  rw [self]
  exact client.disconnect_status answers.shutdown trace

theorem balanced_step {state : State CTCPClient} (op : Op)
    (balanced : Balanced state.self state.trace.openings) (clean : op.Clean state.self) :
    Balanced (step state op).self (step state op).trace.openings := by
  cases op with
  | connect strServer strPort answers =>
      have closed := balanced_disconnect balanced clean.1
      have held := closed.held
      rw [disconnect_status] at held
      exact (state.self.connect_attempt strServer strPort answers state.trace).balanced
        closed.disciplined held clean.2
  | disconnect answer => exact balanced_disconnect balanced clean

theorem leaked_of_not_clean {state : State CTCPClient} (op : Op)
    (balanced : Balanced state.self state.trace.openings) (unclean : ¬ op.Clean state.self) :
    Leaked (step state op).self (step state op).trace.openings := by
  cases op with
  | connect strServer strPort answers =>
      have attempt := state.self.connect_attempt strServer strPort answers state.trace
      by_cases shutsDown : state.self.ShutsDown answers.shutdown
      · exact attempt.leaked_of_refused (not_not.mp fun proper => unclean ⟨shutsDown, proper⟩)
      · obtain ⟨sd, isOpen, -⟩ := leaked_of_not_shutsDown balanced shutsDown
        exact attempt.leaked isOpen
  | disconnect answer => exact leaked_of_not_shutsDown balanced unclean

theorem leaked_step {state : State CTCPClient} (op : Op)
    (leaked : Leaked state.self state.trace.openings) :
    Leaked (step state op).self (step state op).trace.openings := by
  cases op with
  | connect strServer strPort answers =>
      obtain ⟨sd, isOpen, -⟩ := leaked_disconnect leaked answers.shutdown
      exact (state.self.connect_attempt strServer strPort answers state.trace).leaked isOpen
  | disconnect answer => exact leaked_disconnect leaked answer

theorem balanced_init (eSettings : SettingsFlag) :
    Balanced (init eSettings).self (init eSettings).trace.openings :=
  ⟨trivial, rfl⟩

/-- A disconnected client holds no open socket. -/
def Settled (state : State CTCPClient) : Prop :=
  state.self.eStatus = .disconnected → state.trace.sockets = ∅

theorem settled_of_balanced {state : State CTCPClient}
    (balanced : Balanced state.self state.trace.openings) : Settled state := by
  intro disconnected
  rw [← Trace.held_openings, balanced.held, disconnected]
  rfl

/-- No socket is closed twice or without having been open, and each is closed. -/
structure ClosedOnce (trace : Trace) : Prop where
  disciplined : Ledger.Disciplined trace.openings
  counts : ∀ sd, trace.openings.count (.release sd) = trace.openings.count (.acquire sd)

theorem ClosedOnce.not_leaked {client : CTCPClient} {trace : Trace} (once : ClosedOnce trace) :
    ¬ Leaked client trace.openings := by
  rintro ⟨sd, isOpen, -⟩
  have paired := once.disciplined.count_release sd
  rw [if_pos isOpen, once.counts sd] at paired
  omega

/-- Every socket is closed exactly once, and a disconnected client holds none open,
exactly in the runs in which no `connect` is refused and no `shutdown` fails. -/
theorem client_balances_iff (eSettings : SettingsFlag) (operations : List Op) (answer : Answer) :
    let last := operations.foldl step (init eSettings)
    Runs.Always step Settled (init eSettings) operations ∧
        ClosedOnce (last.self.destroy answer last.trace).trace ↔
      Runs.Steps step (fun state op => op.Clean state.self) (init eSettings) operations ∧
        last.self.ShutsDown answer := by
  intro last
  have keeps (state : State CTCPClient) (op : Op)
      (balanced : Balanced state.self state.trace.openings) (clean : op.Clean state.self) :
      Balanced (step state op).self (step state op).trace.openings :=
    balanced_step op balanced clean
  have breaks (state : State CTCPClient) (op : Op)
      (balanced : Balanced state.self state.trace.openings) (unclean : ¬ op.Clean state.self) :
      Leaked (step state op).self (step state op).trace.openings :=
    leaked_of_not_clean op balanced unclean
  have stays (state : State CTCPClient) (op : Op)
      (leaked : Leaked state.self state.trace.openings) :
      Leaked (step state op).self (step state op).trace.openings :=
    leaked_step op leaked
  have start := balanced_init eSettings
  rw [destroy_eq]
  constructor
  · rintro ⟨-, once⟩
    have clean : Runs.Steps step (fun state op => op.Clean state.self) (init eSettings)
        operations := by
      by_contra unclean
      have leaked : Leaked last.self last.trace.openings :=
        Runs.doomed_of_not_steps keeps breaks stays start unclean
      exact once.not_leaked (leaked_disconnect leaked answer)
    refine ⟨clean, ?_⟩
    by_contra fails
    have balanced := (Runs.always_of_invariant keeps start clean).last
    exact once.not_leaked (leaked_of_not_shutsDown balanced fails)
  · rintro ⟨clean, shutsDown⟩
    have always := Runs.always_of_invariant keeps start clean
    have final := balanced_disconnect always.last shutsDown
    have empty := final.held
    rw [disconnect_status] at empty
    exact ⟨always.mono fun _ => settled_of_balanced, final.disciplined,
      final.disciplined.count_of_empty empty⟩

def answersWith (connect : Int) : ConnectAnswers where
  shutdown := { result := 0, error := 0 }
  getaddrinfo := 0
  list := 1
  entry := {
    aiFamily := afInet
    aiSocktype := sockStream
    aiProtocol := ipprotoTcp
    aiAddr := { sinFamily := afInet, sinAddr := 2130706433, sinPort := 80 } }
  socket := some 4
  noDelay := 0
  connect := connect
  error := 10061

/-- A refused `connect` leaves its socket open, and so does a `Disconnect` whose
`shutdown` fails. -/
theorem refused_connect_leaves_socket :
    let refused := step (init .noFlags) (.connect "localhost" "80" (answersWith socketError))
    let connected := step (init .noFlags) (.connect "localhost" "80" (answersWith 0))
    let reset := step connected (.disconnect { result := socketError, error := 10054 })
    let final (state : State CTCPClient) := (state.self.destroy ⟨0, 0⟩ state.trace).trace
    (refused.self.eStatus = .disconnected ∧ refused.trace.sockets = {4} ∧ ¬ Settled refused ∧
        (final refused).sockets = {4} ∧ ¬ ClosedOnce (final refused)) ∧
      reset.self.eStatus = .disconnected ∧ reset.trace.sockets = {4} ∧ ¬ Settled reset ∧
        (final reset).sockets = {4} ∧ ¬ ClosedOnce (final reset) := by
  intro refused connected reset final
  have unsettled {state : State CTCPClient} (status : state.self.eStatus = .disconnected)
      (isOpen : state.trace.sockets = {4}) : ¬ Settled state := by
    intro settled
    have empty := isOpen.symm.trans (settled status)
    cases Finset.singleton_ne_empty _ empty
  have unclosed {state : State CTCPClient} (acquired : (final state).openings = [.acquire 4]) :
      ¬ ClosedOnce (final state) := by
    intro once
    have counts := once.counts 4
    rw [acquired] at counts
    exact absurd counts (by decide)
  have refusedStatus : refused.self.eStatus = .disconnected := by decide
  have refusedOpen : refused.trace.sockets = {4} := by decide
  have resetStatus : reset.self.eStatus = .disconnected := by decide
  have resetOpen : reset.trace.sockets = {4} := by decide
  exact ⟨⟨refusedStatus, refusedOpen, unsettled refusedStatus refusedOpen, by decide,
    unclosed (by decide)⟩, resetStatus, resetOpen, unsettled resetStatus resetOpen, by decide,
    unclosed (by decide)⟩

end CTCPClient

end SocketCpp.Windows
