import Mathlib.Data.Finset.Option
import SocketCpp.TCPSSLClient.Session

namespace SocketCpp

open Data

/-! In which order a `CTCPSSLClient` closes its sessions and its connections.

`Disconnect` and the destructor shut the session down before they close the
descriptor.  The inner `Connect` closes a descriptor too, and knows nothing of the
session on it. -/

namespace Trace

/-- The session that a pointer stands for now, if it stands for one. -/
def named (pointer : Option Nat) (trace : Trace) : Finset Nat :=
  (pointer.bind fun ssl => Ledger.identity ssl (Ledger.entries Call.sessionEvents trace)).toFinset

/-- The sessions that have completed a handshake on a connection and have not been
shut down since. -/
def unclosed (identity : Nat) : Trace → Finset Nat
  | [] => ∅
  | .sslConnect pointer result :: earlier | .sslAccept pointer result :: earlier =>
      if 0 < result ∧ (pointer.bind fun ssl => attached ssl earlier) = some identity then
        unclosed identity earlier ∪ named pointer earlier
      else unclosed identity earlier
  | .sslShutdown pointer :: earlier => unclosed identity earlier \ named pointer earlier
  | _ :: earlier => unclosed identity earlier

end Trace

/-- A descriptor is closed only after all the sessions of its connection. -/
def Call.ClosesInOrder (call : Call) (earlier : Trace) : Prop :=
  match call with
  | .close fd =>
      ∀ identity, Trace.connection earlier fd = some identity →
        Trace.unclosed identity earlier = ∅
  | _ => True

/-- Calls after which other sessions are unclosed. -/
def Call.settles : Call → Bool
  | .sslConnect .. | .sslAccept .. | .sslShutdown _ => true
  | _ => false

theorem Call.unsettled_of_layer {call : Call} (other : call.layer ≠ .openssl) :
    call.settles = false := by
  cases call <;> first | rfl | exact absurd rfl other

theorem Call.Exchanges.unsettled {pSSL : Option Nat} {call : Call}
    (exchanges : call.Exchanges pSSL) : call.settles = false := by
  cases call <;> first | exact exchanges.elim | rfl

theorem Call.Reports.unsettled {pSSL : Option Nat} {call : Call} (reports : call.Reports pSSL) :
    call.settles = false := by
  cases call <;> first | exact reports.elim | rfl

theorem Call.LoadsInto.unsettled {ctx : Option Nat} {call : Call} (loads : call.LoadsInto ctx) :
    call.settles = false := by
  cases call <;> first | exact loads.elim | rfl

namespace Trace

variable {before after : Trace}

theorem named_of_passive (extended : Extends (fun call : Call => call.passive = true) before after)
    (pointer : Option Nat) : named pointer after = named pointer before := by
  have same (ssl : Nat) := Ledger.identity_of_touching ssl
    (extended.mono fun _ => sessionEvents_of_passive)
  simp only [named, same]

theorem unclosed_of_unsettled
    (extended : Extends (fun call : Call => call.settles = false) before after) (identity : Nat) :
    unclosed identity after = unclosed identity before :=
  extended.view_eq (unclosed identity) fun call _ unsettled => by
    cases call <;> first | contradiction | rfl

/-- A connection that does not exist yet has no sessions. -/
theorem unclosed_of_le {trace : Trace} {identity : Nat} (later : trace.socketClock ≤ identity) :
    unclosed identity trace = ∅ := by
  induction trace with
  | nil => rfl
  | cons call earlier ih =>
      have grows : socketClock earlier ≤ socketClock (call :: earlier) := by simp [socketClock]
      have before := ih (Nat.le_trans grows later)
      cases call with
      | sslConnect pointer result | sslAccept pointer result =>
          have elsewhere : (pointer.bind fun ssl => attached ssl earlier) ≠ some identity := by
            intro found
            obtain ⟨ssl, -, attached⟩ := Option.bind_eq_some_iff.mp found
            have older := CTCPSSLClient.attached_lt attached
            omega
          simp only [unclosed, elsewhere, and_false, if_false]
          exact before
      | sslShutdown pointer => simp only [unclosed, before, Finset.empty_sdiff]
      | _ => exact before

/-- After a handshake on a young connection its only session is the one just shaken. -/
theorem shaken_unclosed {loaded after : Trace} {ctx pSSL : Nat} {fd : Socket} {iResult : Int}
    {identity : Nat} (found : loaded.connection fd = some identity)
    (none : unclosed identity loaded = ∅)
    (calls : Extends (Call.Reports (some pSSL))
      (.sslConnect (some pSSL) iResult :: .sslSetFd (some pSSL) fd ::
        .sslNew (some ctx) pSSL :: loaded) after) :
    unclosed identity after = if 0 < iResult then named (some pSSL) after else ∅ := by
  have onConnection : attached pSSL (.sslSetFd (some pSSL) fd :: .sslNew (some ctx) pSSL ::
      loaded) = some identity := by
    simpa [attached, connection, Call.socketEvents] using found
  rw [unclosed_of_unsettled (calls.mono fun _ => Call.Reports.unsettled),
    named_of_passive (calls.mono fun _ => Call.Reports.passive)]
  simp only [unclosed, Option.bind_some, onConnection, and_true, none, Finset.empty_union]
  rfl

theorem named_nonempty {trace : Trace} {pSSL : Nat} (live : pSSL ∈ trace.sessions) :
    named (some pSSL) trace ≠ ∅ := by
  obtain ⟨session, found⟩ := Option.isSome_iff_exists.mp (Ledger.identity_isSome_iff.mpr live)
  simp [named, found]

theorem closesInOrder_of_offSockets (calls : Each Call.ClosesInOrder before)
    (extended : Extends (fun call : Call => call.layer ≠ .sockets) before after) :
    Each Call.ClosesInOrder after :=
  extended.each calls fun call _ other _ => by
    cases call <;> trivial

theorem not_closesInOrder {earlier : Trace} {fd : Socket} {identity : Nat}
    (found : earlier.connection fd = some identity) (some : unclosed identity earlier ≠ ∅)
    (later : Trace) : ¬ Each Call.ClosesInOrder (later ++ .close fd :: earlier) := by
  intro calls
  exact some ((Each.of_append calls).1 identity found)

end Trace

namespace CTCPSSLClient

/-- The client is connected, and its session was shaken on that connection. -/
def Secured (state : State CTCPSSLClient) : Prop :=
  state.self.tcpClient.eStatus = .connected ∧
    ∃ pSSL identity, state.self.sslConnectSocket.pSSL = some pSSL ∧
      Trace.handshaken pSSL state.trace = true ∧
      Trace.attached pSSL state.trace = some identity ∧
      state.trace.connection state.self.tcpClient.connectSocket = some identity

/-- `Connect` is not called over a session. -/
def Op.KeepsSession (state : State CTCPSSLClient) : Op → Prop
  | .connect .. => ¬ Secured state
  | _ => True

/-- The invariant of runs in which no `Connect` is called over a session. -/
structure Orderly (state : State CTCPSSLClient) : Prop where
  calls : Each Call.ClosesInOrder state.trace
  own : state.self.tcpClient.eStatus = .connected →
    ∀ identity, state.trace.connection state.self.tcpClient.connectSocket = some identity →
      Trace.unclosed identity state.trace ⊆
        Trace.named state.self.sslConnectSocket.pSSL state.trace ∧
      (Trace.unclosed identity state.trace ≠ ∅ ↔ Secured state)

theorem Exit.offSockets {client : CTCPSSLClient} {answers : TlsAnswers}
    {tcp : Result CTCPClient Bool} {result : Result CTCPSSLClient Bool}
    (exit : client.Exit answers tcp result) :
    Extends (fun call : Call => call.layer ≠ .sockets) tcp.trace result.trace := by
  have start := Extends.refl (fun call : Call => call.layer ≠ .sockets) tcp.trace
  have created (ctx : Option Nat) :=
    start.cons (.sslCtxNew client.eOpenSSLProtocol.clientMethod ctx) (by simp [Call.layer])
  cases exit with
  | unreachable _ _ _ calls => exact calls.mono fun _ => Call.Logs.offSockets
  | noContext _ _ _ _ calls =>
      exact (created none).trans (calls.mono fun _ => Call.Logs.offSockets)
  | notLoaded ctx _ _ _ _ _ _ calls =>
      exact (created (some ctx)).trans (calls.mono fun _ => Call.LoadsInto.layer_ne)
  | shaken ctx pSSL iResult loaded _ _ _ _ _ _ _ files _ calls =>
      have configured := (created (some ctx)).trans (files.mono fun _ => Call.LoadsInto.layer_ne)
      have new := configured.cons (.sslNew (some ctx) pSSL) (by simp [Call.layer])
      have set := new.cons (.sslSetFd (some pSSL) tcp.self.connectSocket) (by simp [Call.layer])
      have shaken := set.cons (.sslConnect (some pSSL) iResult) (by simp [Call.layer])
      exact shaken.trans (calls.mono fun _ => Call.Reports.layer_ne)

/-- The TCP part of a `Connect` closes only connections without sessions: the one
it leaves, and those that it has just tried. -/
theorem dial_closesInOrder {state : State CTCPSSLClient} (orderly : Orderly state)
    (free : ¬ Secured state) (strServer strPort : String) (resolution : Resolution) :
    Each Call.ClosesInOrder
      (state.self.tcpClient.connect strServer strPort resolution state.trace).trace := by
  have failed (entry : AddrInfo) (earlier : Trace) (calls : Each Call.ClosesInOrder earlier) :
      Each Call.ClosesInOrder (.socket entry.aiFamily entry.aiSocktype entry.aiProtocol
        invalidSocket :: earlier) :=
    ⟨trivial, calls⟩
  have refused (entry : AddrInfo) (named : Nat) (iConRet : Int) (earlier : Trace)
      (calls : Each Call.ClosesInOrder earlier) :
      Each Call.ClosesInOrder (.close (Trace.newSocket earlier (some named)) ::
        CTCPClient.attemptCalls entry (Trace.newSocket earlier (some named)) iConRet earlier) := by
    have valid := Trace.newSocket_some_nonneg earlier named
    refine ⟨?_, trivial, trivial, calls⟩
    intro identity found
    rw [CTCPClient.attemptCalls, Trace.connection_connect,
      Trace.connection_socket earlier _ _ _ valid] at found
    cases found
    have none : Trace.unclosed (Trace.socketClock earlier) earlier = ∅ :=
      Trace.unclosed_of_le (Nat.le_refl _)
    exact none
  have resolves (call : Call) (earlier : Trace) (resolves : call.Resolves)
      (calls : Each Call.ClosesInOrder earlier) : Each Call.ClosesInOrder (call :: earlier) := by
    cases call <;> first | exact resolves.elim | exact ⟨trivial, calls⟩
  have closes (connected : state.self.tcpClient.eStatus = .connected) :
      Each Call.ClosesInOrder (.close state.self.tcpClient.connectSocket :: state.trace) := by
    refine ⟨?_, orderly.calls⟩
    intro identity found
    by_contra unclosed
    exact free ((orderly.own connected identity found).2.mp unclosed)
  have rule := CTCPClient.connect_rule failed refused resolves state.self.tcpClient strServer
    strPort resolution (fun _ => orderly.calls) closes
  cases value : (state.self.tcpClient.connect strServer strPort resolution state.trace).value with
  | false => exact rule.1 value
  | true =>
      obtain ⟨entry, named, iConRet, earlier, calls, -, extended⟩ := rule.2 value
      exact extended.keeps ⟨trivial, trivial, calls⟩ resolves

/-- A connection that is younger than the sessions has none of them. -/
theorem own_of_younger {state : State CTCPSSLClient} {before : Trace} {identity : Nat}
    (attached : ∀ ssl, Trace.attached ssl state.trace = Trace.attached ssl before)
    (unclosed : Trace.unclosed identity state.trace = Trace.unclosed identity before)
    (found : state.trace.connection state.self.tcpClient.connectSocket = some identity)
    (younger : before.socketClock ≤ identity) :
    Trace.unclosed identity state.trace ⊆
        Trace.named state.self.sslConnectSocket.pSSL state.trace ∧
      (Trace.unclosed identity state.trace ≠ ∅ ↔ Secured state) := by
  rw [unclosed, Trace.unclosed_of_le younger]
  refine ⟨Finset.empty_subset _, iff_of_false (fun some => some rfl) ?_⟩
  rintro ⟨-, pSSL, other, -, -, onConnection, same⟩
  rw [attached] at onConnection
  have older := attached_lt onConnection
  rw [found] at same
  cases same
  omega

/-- A young connection has the session that was just shaken on it and no other. -/
theorem own_of_shaken {state : State CTCPSSLClient} {loaded : Trace} {ctx pSSL identity : Nat}
    {iResult : Int} (connected : state.self.tcpClient.eStatus = .connected)
    (session : state.self.sslConnectSocket.pSSL = some pSSL)
    (found : loaded.connection state.self.tcpClient.connectSocket = some identity)
    (none : Trace.unclosed identity loaded = ∅)
    (reports : Extends (Call.Reports (some pSSL))
      (.sslConnect (some pSSL) iResult ::
        .sslSetFd (some pSSL) state.self.tcpClient.connectSocket ::
        .sslNew (some ctx) pSSL :: loaded) state.trace) :
    Trace.unclosed identity state.trace ⊆
        Trace.named state.self.sslConnectSocket.pSSL state.trace ∧
      (Trace.unclosed identity state.trace ≠ ∅ ↔ Secured state) := by
  obtain ⟨-, live, shaken, attached, connection⟩ := Trace.shaken_views reports
  have settled := Trace.shaken_unclosed found none reports
  rw [settled, session]
  by_cases succeeded : 0 < iResult
  · rw [if_pos succeeded]
    refine ⟨Finset.Subset.refl _, iff_of_true (Trace.named_nonempty ?_) ⟨connected, pSSL, identity,
      session, ?_, attached.trans found, ?_⟩⟩
    · rw [live]
      exact Finset.mem_insert_self _ _
    · rw [shaken]
      exact decide_eq_true succeeded
    · rw [connection]
      exact found
  · rw [if_neg succeeded]
    refine ⟨Finset.empty_subset _, iff_of_false (fun some => some rfl) ?_⟩
    rintro ⟨-, other, -, holds, isShaken, -⟩
    rw [session] at holds
    cases holds
    rw [shaken] at isShaken
    exact succeeded (of_decide_eq_true isShaken)

theorem connect_orderly {state : State CTCPSSLClient} (orderly : Orderly state)
    (free : ¬ Secured state) (strServer strPort : String) (resolution : Resolution)
    (answers : TlsAnswers) :
    Orderly (state.self.connect strServer strPort resolution answers state.trace).toState := by
  have calls := dial_closesInOrder orderly free strServer strPort resolution
  have exit := state.self.connect_exit strServer strPort resolution answers state.trace
  have tcpClient := state.self.connect_tcpClient strServer strPort resolution answers state.trace
  have dials := (state.self.tcpClient.connect_calls strServer strPort resolution state.trace).mono
    fun _ => Call.Dials.layer_ne
  have off := exit.offSockets
  refine ⟨Trace.closesInOrder_of_offSockets calls off, ?_⟩
  generalize state.self.connect strServer strPort resolution answers state.trace = result
    at exit tcpClient off ⊢
  intro connected identity found
  simp only [tcpClient] at connected
  have reached : (state.self.tcpClient.connect strServer strPort resolution
      state.trace).value = true := by
    rw [CTCPClient.connect_status] at connected
    by_contra failed
    rw [if_neg failed] at connected
    cases connected
  have younger : state.trace.socketClock ≤ identity := by
    obtain ⟨-, other, same, younger⟩ := reached_connection reached
    rw [tcpClient, Trace.connection_of_layer off, same] at found
    cases found
    exact younger
  have unclosed := Trace.unclosed_of_unsettled
    (dials.mono fun _ => Call.unsettled_of_layer) identity
  cases exit with
  | unreachable failed =>
      rw [failed] at reached
      cases reached
  | noContext _ _ _ _ logs =>
      have attached (ssl : Nat) :
          Trace.attached ssl result.trace = Trace.attached ssl state.trace := by
        rw [Trace.attached_of_layer (logs.mono fun _ => Call.Logs.offOpenssl) ssl]
        exact Trace.attached_of_layer dials ssl
      have same :
          Trace.unclosed identity result.trace = Trace.unclosed identity state.trace := by
        rw [Trace.unclosed_of_unsettled
          (logs.mono fun _ logs => Call.unsettled_of_layer logs.offOpenssl)]
        exact unclosed
      exact own_of_younger attached same found younger
  | notLoaded ctx _ _ _ _ _ _ files =>
      have attached (ssl : Nat) :
          Trace.attached ssl result.trace = Trace.attached ssl state.trace :=
        (Trace.loaded_attached files ssl).trans (Trace.attached_of_layer dials ssl)
      have same :
          Trace.unclosed identity result.trace = Trace.unclosed identity state.trace := by
        rw [Trace.unclosed_of_unsettled (files.mono fun _ => Call.LoadsInto.unsettled)]
        exact unclosed
      exact own_of_younger attached same found younger
  | shaken ctx pSSL iResult loaded _ _ _ _ _ self _ files _ reports =>
      have none : Trace.unclosed identity loaded = ∅ := by
        rw [Trace.unclosed_of_unsettled (files.mono fun _ => Call.LoadsInto.unsettled)]
        exact unclosed.trans (Trace.unclosed_of_le younger)
      obtain ⟨-, -, -, -, connection⟩ := Trace.shaken_views reports
      have session : result.self.sslConnectSocket.pSSL = some pSSL := by rw [self]
      rw [← tcpClient] at connected reports
      rw [connection] at found
      exact own_of_shaken connected session found none reports

theorem send_orderly {state : State CTCPSSLClient} (orderly : Orderly state) {trace : Trace}
    (exchanges : Extends (Call.Exchanges state.self.sslConnectSocket.pSSL) state.trace trace) :
    Orderly { state with trace } := by
  have passive := exchanges.mono fun _ => Call.Exchanges.passive
  have unsettled := exchanges.mono fun _ => Call.Exchanges.unsettled
  refine ⟨?_, ?_⟩
  · exact exchanges.each orderly.calls fun call _ exchanges _ => by
      cases call <;> first | exact exchanges.elim | trivial
  · intro connected identity found
    rw [Trace.connection_of_passive passive] at found
    have own := orderly.own connected identity found
    simp only [Secured, Trace.unclosed_of_unsettled unsettled, Trace.named_of_passive passive,
      Trace.handshaken_of_passive passive, Trace.attached_of_passive passive,
      Trace.connection_of_passive passive]
    exact own

/-- `ShutdownSSL` leaves nothing unclosed where the session was its own. -/
theorem shutdownSSL_unclosed {socket : SSLSocket} {trace : Trace} {identity : Nat}
    (own : Trace.unclosed identity trace ⊆ Trace.named socket.pSSL trace) :
    Trace.unclosed identity (shutdownSSL socket trace).trace = ∅ := by
  cases holds : socket.pSSL with
  | none =>
      simp only [shutdownSSL, holds]
      rw [holds] at own
      exact Finset.subset_empty.mp own
  | some pSSL =>
      simp only [shutdownSSL, holds, Trace.unclosed]
      rw [holds] at own
      exact Finset.sdiff_eq_empty_iff_subset.mpr own

theorem disconnect_orderly {state : State CTCPSSLClient} (orderly : Orderly state) :
    Orderly (state.self.disconnect state.trace).toState := by
  by_cases connected : state.self.tcpClient.eStatus = .connected
  · have off := shutdownSSL_offSockets state.self.sslConnectSocket state.trace
    simp only [disconnect, CTCPClient.disconnect, if_neg (not_not.mpr connected)]
    refine ⟨⟨?_, Trace.closesInOrder_of_offSockets orderly.calls off⟩, ?_⟩
    · intro identity found
      rw [Trace.connection_of_layer off] at found
      exact shutdownSSL_unclosed (orderly.own connected identity found).1
    · intro still
      cases still
  · have stays : (state.self.disconnect state.trace).toState = state := by
      simp only [disconnect, if_pos connected]
    rw [stays]
    exact orderly

theorem orderly_step {state : State CTCPSSLClient} (orderly : Orderly state) {op : Op}
    (keeps : op.KeepsSession state) : Orderly (step state op) := by
  cases op with
  | connect strServer strPort resolution answers =>
      exact connect_orderly orderly keeps strServer strPort resolution answers
  | send pData uSize script => exact send_orderly orderly (send_calls ..)
  | receive pData uSize bReadFully script => exact send_orderly orderly (receive_calls ..)
  | disconnect => exact disconnect_orderly orderly

/-- Some connection has been closed before its session. -/
def Disordered (state : State CTCPSSLClient) : Prop :=
  ¬ Each Call.ClosesInOrder state.trace

theorem orderly_init (secure : ASecureSocket) : Orderly (init secure) :=
  ⟨trivial, fun connected => (by cases connected)⟩

/-- A `Connect` over a session closes the descriptor first. -/
theorem disordered_connect {state : State CTCPSSLClient} (orderly : Orderly state) {op : Op}
    (unkept : ¬ op.KeepsSession state) : Disordered (step state op) := by
  cases op with
  | connect strServer strPort resolution answers =>
      have secured : Secured state := not_not.mp unkept
      obtain ⟨connected, pSSL, identity, -, -, -, found⟩ := id secured
      have unclosed := (orderly.own connected identity found).2.mpr secured
      have closes := (state.self.tcpClient.hangUp_closes connected state.trace).mono
        fun _ _ => trivial
      have dials := (state.self.tcpClient.connect_connects strServer strPort resolution
        state.trace).calls.mono fun _ _ => trivial
      have shakes := (state.self.connect_exit strServer strPort resolution answers
        state.trace).offSockets.mono fun _ _ => trivial
      obtain ⟨added, after, -⟩ := (closes.trans dials).trans shakes
      simp only [Disordered, step, after]
      exact Trace.not_closesInOrder found unclosed added
  | send => exact absurd trivial unkept
  | receive => exact absurd trivial unkept
  | disconnect => exact absurd trivial unkept

theorem disconnect_extends (client : CTCPSSLClient) (trace : Trace) :
    Extends (fun _ => True) trace (client.disconnect trace).trace := by
  simp only [disconnect]
  split
  · exact Extends.refl _ _
  · exact ((shutdownSSL_offSockets ..).mono fun _ _ => trivial).trans
      ((CTCPClient.disconnect_calls ..).mono fun _ _ => trivial)

theorem step_extends (state : State CTCPSSLClient) (op : Op) :
    Extends (fun _ => True) state.trace (step state op).trace := by
  cases op with
  | connect strServer strPort resolution answers =>
      have dials := (state.self.tcpClient.connect_calls strServer strPort resolution
        state.trace).mono fun _ _ => trivial
      exact dials.trans ((state.self.connect_exit strServer strPort resolution answers
        state.trace).offSockets.mono fun _ _ => trivial)
  | send pData uSize script => exact (send_calls ..).mono fun _ _ => trivial
  | receive pData uSize bReadFully script => exact (receive_calls ..).mono fun _ _ => trivial
  | disconnect => exact disconnect_extends state.self state.trace

theorem disordered_step {state : State CTCPSSLClient} (disordered : Disordered state) (op : Op) :
    Disordered (step state op) := by
  obtain ⟨added, after, -⟩ := step_extends state op
  intro calls
  rw [after] at calls
  exact disordered (Each.of_append calls)

/-- A run ended by the destructor closes no connection before its session exactly
when no `Connect` of it is called over a session. -/
theorem sessions_closed_first_iff (secure : ASecureSocket) (operations : List Op) :
    let last := operations.foldl step (init secure)
    Each Call.ClosesInOrder (last.self.destroy last.trace).trace ↔
      Runs.Steps step (fun state op => op.KeepsSession state) (init secure) operations := by
  intro last
  have keeps : ∀ state op, Orderly state → Op.KeepsSession state op → Orderly (step state op) :=
    fun _ _ orderly keeps => orderly_step orderly keeps
  rw [destroy_trace]
  constructor
  · intro calls
    by_contra unkept
    have disordered : Disordered last :=
      Runs.doomed_of_not_steps keeps (fun _ _ orderly unkept => disordered_connect orderly unkept)
        (fun _ op disordered => disordered_step disordered op) (orderly_init secure) unkept
    obtain ⟨added, after, -⟩ := disconnect_extends last.self last.trace
    rw [after] at calls
    exact disordered (Each.of_append calls)
  · intro steps
    have orderly : Orderly last :=
      (Runs.always_of_invariant keeps (orderly_init secure) steps).last
    exact (disconnect_orderly orderly).calls

def completedAnswers : TlsAnswers where
  ctxNew := some 1
  files := { certificate := 1, authorities := 1, privateKey := 1 }
  sslNew := 2
  handshake := 1
  verifyResult := 0
  cipher := "TLS_AES_256_GCM_SHA384"
  error := 0

/-- A second `Connect` closes the descriptor of the first one, and nothing has shut
down the session on it. -/
theorem reconnect_abandons_session :
    let secure : ASecureSocket :=
      { eSettingsFlags := .noFlags, eOpenSSLProtocol := .tls, strCAFile := ""
        strSSLCertFile := "", strSSLKeyFile := "" }
    let reconnect := Op.connect "localhost" "443" (CTCPClient.oneAddress 0) completedAnswers
    let first := step (init secure) reconnect
    let second := step first reconnect
    let trace := (second.self.destroy second.trace).trace
    ¬ Each Call.ClosesInOrder trace ∧
      (∃ later, trace = later ++ .close 3 :: first.trace) ∧
      first.trace.connection 3 = some 0 ∧ Trace.unclosed 0 first.trace = {0} := by
  intro secure reconnect first second trace
  have closes : trace = trace.take 12 ++ .close 3 :: first.trace := by decide
  have connection : first.trace.connection 3 = some 0 := by decide
  have unclosed : Trace.unclosed 0 first.trace = {0} := by decide
  refine ⟨?_, ⟨_, closes⟩, connection, unclosed⟩
  rw [closes]
  exact Trace.not_closesInOrder connection (by rw [unclosed]; decide) _

end CTCPSSLClient

end SocketCpp
