import SocketCpp.TCPSSLClient.Objects

namespace SocketCpp.CTCPSSLClient

open Data

/-! Which runs of a `CTCPSSLClient` leak an `SSL` or an `SSL_CTX`.

`Connect` overwrites the two pointers without a look at them, and `ShutdownSSL`
frees the context only next to a session.  Once a live context has lost its pointer,
its session or its connection, nothing frees it any more. -/

/-- The only live objects are those that the client's pointers name. -/
structure Referenced (state : State CTCPSSLClient) : Prop where
  sessions : ∀ pSSL ∈ state.trace.sessions, state.self.sslConnectSocket.pSSL = some pSSL
  contexts : ∀ ctx ∈ state.trace.contexts, state.self.sslConnectSocket.pCTXSSL = some ctx

/-- A `Connect` that replaces no session and does not fail between the creation of
its context and the creation of its session. -/
def Op.Tidy (state : State CTCPSSLClient) : Op → Prop
  | .connect _ _ resolution answers =>
      state.self.sslConnectSocket.pSSL = none ∧
        ¬ (resolution.Reaches ∧ answers.ctxNew.isSome ∧
          state.self.loads answers.files = false)
  | _ => True

/-- No object is live, or one session and its context are, held and connected. -/
def Clean (state : State CTCPSSLClient) : Prop :=
  (state.self.sslConnectSocket.pSSL = none ∧ state.trace.sessions = ∅ ∧
    state.trace.contexts = ∅) ∨
  ∃ pSSL ctx, state.self.sslConnectSocket.pSSL = some pSSL ∧
    state.self.sslConnectSocket.pCTXSSL = some ctx ∧
    state.self.tcpClient.eStatus = .connected ∧
    state.trace.sessions = {pSSL} ∧ state.trace.contexts = {ctx}

/-- A live context that no later `ShutdownSSL` will free. -/
def Doomed (state : State CTCPSSLClient) : Prop :=
  ∃ ctx ∈ state.trace.contexts, state.self.sslConnectSocket.pCTXSSL = some ctx →
    state.self.sslConnectSocket.pSSL = none ∨ state.self.tcpClient.eStatus = .disconnected

theorem Clean.referenced {state : State CTCPSSLClient} (clean : Clean state) :
    Referenced state := by
  rcases clean with ⟨-, sessions, contexts⟩ | ⟨pSSL, ctx, session, context, -, sessions, contexts⟩
  · refine ⟨fun other member => ?_, fun other member => ?_⟩
    · rw [sessions] at member
      cases member
    · rw [contexts] at member
      cases member
  · refine ⟨fun other member => ?_, fun other member => ?_⟩
    · rw [sessions, Finset.mem_singleton] at member
      rw [session, member]
    · rw [contexts, Finset.mem_singleton] at member
      rw [context, member]

theorem clean_connect {state : State CTCPSSLClient} (clean : Clean state)
    (strServer strPort : String) (resolution : Resolution) (answers : TlsAnswers)
    (tidy : Op.Tidy state (.connect strServer strPort resolution answers)) :
    Clean (state.self.connect strServer strPort resolution answers state.trace).toState := by
  obtain ⟨free, loads⟩ := tidy
  have exit := state.self.connect_exit strServer strPort resolution answers state.trace
  have dials := (state.self.tcpClient.connect_calls strServer strPort resolution state.trace).mono
    fun _ => Call.Dials.layer_ne
  have status := state.self.tcpClient.connect_status strServer strPort resolution state.trace
  have reaches := (state.self.tcpClient.connect_connects strServer strPort resolution
    state.trace).value
  generalize state.self.tcpClient.connect strServer strPort resolution state.trace = tcp
    at exit dials status reaches
  generalize state.self.connect strServer strPort resolution answers state.trace = result
    at exit ⊢
  have empty : tcp.trace.sessions = ∅ ∧ tcp.trace.contexts = ∅ := by
    rw [Trace.sessions_of_layer dials, Trace.contexts_of_layer dials]
    rcases clean with ⟨-, sessions, contexts⟩ | ⟨pSSL, ctx, session, -⟩
    · exact ⟨sessions, contexts⟩
    · rw [free] at session
      cases session
  cases exit with
  | unreachable _ self _ calls =>
      have off := calls.mono fun _ => Call.Logs.offOpenssl
      refine .inl ⟨by rw [self]; exact free, ?_, ?_⟩
      · exact (Trace.sessions_of_layer off).trans empty.1
      · exact (Trace.contexts_of_layer off).trans empty.2
  | noContext _ _ self _ calls =>
      have off := calls.mono fun _ => Call.Logs.offOpenssl
      refine .inl ⟨by rw [self]; exact free, ?_, ?_⟩
      · exact (Trace.sessions_of_layer off).trans empty.1
      · exact (Trace.contexts_of_layer off).trans empty.2
  | notLoaded ctx reached created _ fails _ _ _ =>
      exact absurd ⟨reaches.mp reached, created, fails⟩ loads
  | shaken ctx pSSL iResult loaded reached _ _ _ _ self _ files _ calls =>
      have shakes : Call.Shakes pSSL (.sslConnect (some pSSL) iResult) := rfl
      obtain ⟨contexts, sessions⟩ := Trace.handshake_objects shakes files calls
      rw [reached] at status
      refine .inr ⟨pSSL, ctx, by rw [self], by rw [self]; rfl, by rw [self]; exact status, ?_, ?_⟩
      · rw [sessions, empty.1]
        rfl
      · rw [contexts, empty.2]
        rfl

theorem disconnect_connected {client : CTCPSSLClient}
    (connected : client.tcpClient.eStatus = .connected) (trace : Trace) :
    (client.disconnect trace).self.sslConnectSocket =
        (shutdownSSL client.sslConnectSocket trace).self ∧
      (client.disconnect trace).trace.sessions =
        (shutdownSSL client.sslConnectSocket trace).trace.sessions ∧
      (client.disconnect trace).trace.contexts =
        (shutdownSSL client.sslConnectSocket trace).trace.contexts := by
  have closes := (client.tcpClient.disconnect_calls
    (shutdownSSL client.sslConnectSocket trace).trace).mono fun _ => Call.Dials.layer_ne
  have goes : ¬ client.tcpClient.eStatus ≠ .connected := not_not.mpr connected
  simp only [disconnect, if_neg goes]
  exact ⟨trivial, Trace.sessions_of_layer closes, Trace.contexts_of_layer closes⟩

theorem disconnect_idle {client : CTCPSSLClient}
    (idle : client.tcpClient.eStatus ≠ .connected) (trace : Trace) :
    (client.disconnect trace).toState = { self := client, trace } := by
  simp only [disconnect, if_pos idle]

theorem clean_disconnect {state : State CTCPSSLClient} (clean : Clean state) :
    (state.self.disconnect state.trace).self.sslConnectSocket.pSSL = none ∧
      (state.self.disconnect state.trace).trace.sessions = ∅ ∧
      (state.self.disconnect state.trace).trace.contexts = ∅ := by
  rcases clean with ⟨free, sessions, contexts⟩ |
    ⟨pSSL, ctx, session, context, connected, sessions, contexts⟩
  · by_cases connected : state.self.tcpClient.eStatus = .connected
    · obtain ⟨socket, sessionsAfter, contextsAfter⟩ :=
        disconnect_connected connected state.trace
      simp only [shutdownSSL, free] at socket sessionsAfter contextsAfter
      rw [socket, sessionsAfter, contextsAfter]
      exact ⟨free, sessions, contexts⟩
    · have stays := disconnect_idle connected state.trace
      have self := congrArg State.self stays
      have trace := congrArg State.trace stays
      simp only at self trace
      rw [self, trace]
      exact ⟨free, sessions, contexts⟩
  · obtain ⟨socket, sessionsAfter, contextsAfter⟩ :=
      disconnect_connected connected state.trace
    simp only [shutdownSSL, session, context] at socket sessionsAfter contextsAfter
    rw [socket, sessionsAfter, contextsAfter, Trace.sessions_shutdown, Trace.contexts_shutdown, sessions,
      contexts]
    simp

theorem Clean.of_exchanges {state : State CTCPSSLClient} (clean : Clean state)
    {pSSL : Option Nat} {trace : Trace}
    (exchanges : Extends (Call.Exchanges pSSL) state.trace trace) :
    Clean { state with trace } := by
  have passive := exchanges.mono fun _ => Call.Exchanges.passive
  simp only [Clean, Trace.sessions_of_passive passive, Trace.contexts_of_passive passive]
  exact clean

theorem clean_step {state : State CTCPSSLClient} (clean : Clean state) {op : Op}
    (tidy : op.Tidy state) : Clean (step state op) := by
  cases op with
  | connect strServer strPort resolution answers =>
      exact clean_connect clean strServer strPort resolution answers tidy
  | send pData uSize script => exact clean.of_exchanges (send_calls ..)
  | receive pData uSize bReadFully script => exact clean.of_exchanges (receive_calls ..)
  | disconnect => exact .inl (clean_disconnect clean)

/-- After a `Connect` no context that was live before will be freed: its pointer is
overwritten, or its connection is gone. -/
theorem doomed_of_live {state : State CTCPSSLClient} {live : Nat}
    (member : live ∈ state.trace.contexts) (strServer strPort : String)
    (resolution : Resolution) (answers : TlsAnswers) :
    Doomed (state.self.connect strServer strPort resolution answers state.trace).toState := by
  have exit := state.self.connect_exit strServer strPort resolution answers state.trace
  have dials := (state.self.tcpClient.connect_calls strServer strPort resolution state.trace).mono
    fun _ => Call.Dials.layer_ne
  have status := state.self.tcpClient.connect_status strServer strPort resolution state.trace
  generalize state.self.tcpClient.connect strServer strPort resolution state.trace = tcp
    at exit dials status
  generalize state.self.connect strServer strPort resolution answers state.trace = result
    at exit ⊢
  rw [← Trace.contexts_of_layer dials] at member
  cases exit with
  | unreachable failed self _ calls =>
      rw [failed] at status
      refine ⟨live, ?_, fun _ => .inr (by rw [self]; exact status)⟩
      rw [Trace.contexts_of_layer (calls.mono fun _ => Call.Logs.offOpenssl)]
      exact member
  | noContext _ _ self _ calls =>
      refine ⟨live, ?_, fun named => ?_⟩
      · rw [Trace.contexts_of_layer (calls.mono fun _ => Call.Logs.offOpenssl)]
        exact member
      · rw [self] at named
        cases named
  | notLoaded ctx _ _ fresh _ self _ calls =>
      refine ⟨live, ?_, fun named => ?_⟩
      · rw [(Trace.loaded_views calls).1]
        exact Finset.mem_insert_of_mem member
      · rw [self] at named
        cases named
        exact absurd member fresh
  | shaken ctx pSSL iResult loaded _ _ fresh _ _ self _ files _ calls =>
      refine ⟨live, ?_, fun named => ?_⟩
      · rw [(Trace.shaken_views calls).1, (Trace.loaded_views files).1]
        exact Finset.mem_insert_of_mem member
      · rw [self] at named
        cases named
        exact absurd member fresh

theorem doomed_of_not_tidy {state : State CTCPSSLClient} (clean : Clean state) {op : Op}
    (untidy : ¬ op.Tidy state) : Doomed (step state op) := by
  cases op with
  | connect strServer strPort resolution answers =>
      rcases clean with ⟨free, -, -⟩ | ⟨pSSL, ctx, -, -, -, -, contexts⟩
      · obtain ⟨reaches, created, fails⟩ := not_not.mp fun loads => untidy ⟨free, loads⟩
        have reached := (state.self.tcpClient.connect_connects strServer strPort resolution
          state.trace).value.mpr reaches
        have exit := state.self.connect_exit strServer strPort resolution answers state.trace
        simp only [step]
        generalize state.self.connect strServer strPort resolution answers state.trace = result
          at exit ⊢
        cases exit with
        | unreachable failed =>
            rw [reached] at failed
            cases failed
        | noContext _ none =>
            rw [none] at created
            cases created
        | notLoaded ctx _ _ _ _ self _ calls =>
            refine ⟨ctx, ?_, fun _ => .inl (by rw [self]; exact free)⟩
            rw [(Trace.loaded_views calls).1]
            exact Finset.mem_insert_self _ _
        | shaken _ _ _ _ _ _ _ loads =>
            rw [fails] at loads
            cases loads
      · have member : ctx ∈ state.trace.contexts := by
          rw [contexts]
          exact Finset.mem_singleton_self ctx
        exact doomed_of_live member strServer strPort resolution answers
  | send => exact absurd trivial untidy
  | receive => exact absurd trivial untidy
  | disconnect => exact absurd trivial untidy

theorem doomed_disconnect {state : State CTCPSSLClient} (doomed : Doomed state) :
    Doomed (state.self.disconnect state.trace).toState := by
  by_cases connected : state.self.tcpClient.eStatus = .connected
  · obtain ⟨ctx, member, loses⟩ := doomed
    obtain ⟨socket, -, contexts⟩ := disconnect_connected connected state.trace
    cases session : state.self.sslConnectSocket.pSSL with
    | none =>
        simp only [shutdownSSL, session] at socket contexts
        refine ⟨ctx, ?_, fun _ => .inl ?_⟩
        · rw [contexts]
          exact member
        · rw [socket]
          exact session
    | some pSSL =>
        simp only [shutdownSSL, session] at socket contexts
        have other : state.self.sslConnectSocket.pCTXSSL ≠ some ctx := by
          intro named
          rcases loses named with free | gone
          · rw [session] at free
            cases free
          · rw [connected] at gone
            cases gone
        refine ⟨ctx, ?_, fun _ => .inl (by rw [socket])⟩
        rw [contexts]
        cases named : state.self.sslConnectSocket.pCTXSSL with
        | none => exact member
        | some freed =>
            rw [Trace.contexts_shutdown]
            refine Finset.mem_erase.mpr ⟨fun same => ?_, member⟩
            rw [named, same] at other
            exact other rfl
  · rw [disconnect_idle connected state.trace]
    exact doomed

theorem Doomed.of_exchanges {state : State CTCPSSLClient} (doomed : Doomed state)
    {pSSL : Option Nat} {trace : Trace}
    (exchanges : Extends (Call.Exchanges pSSL) state.trace trace) :
    Doomed { state with trace } := by
  have passive := exchanges.mono fun _ => Call.Exchanges.passive
  simp only [Doomed, Trace.contexts_of_passive passive]
  exact doomed

theorem doomed_step {state : State CTCPSSLClient} (doomed : Doomed state) (op : Op) :
    Doomed (step state op) := by
  cases op with
  | connect strServer strPort resolution answers =>
      obtain ⟨ctx, member, -⟩ := doomed
      exact doomed_of_live member strServer strPort resolution answers
  | send pData uSize script => exact doomed.of_exchanges (send_calls ..)
  | receive pData uSize bReadFully script => exact doomed.of_exchanges (receive_calls ..)
  | disconnect => exact doomed_disconnect doomed

theorem clean_init (secure : ASecureSocket) : Clean (init secure) :=
  .inl ⟨rfl, rfl, rfl⟩

/-- A run ended by the destructor leaks nothing, and has only referenced objects on
the way, exactly when every `Connect` of it is tidy. -/
theorem nothing_leaked_iff (secure : ASecureSocket) (operations : List Op) :
    (Runs.Always step Referenced (init secure) operations ∧
      let last := operations.foldl step (init secure)
      (last.self.destroy last.trace).trace.sessions = ∅ ∧
        (last.self.destroy last.trace).trace.contexts = ∅) ↔
      Runs.Steps step (fun state op => op.Tidy state) (init secure) operations := by
  have keeps : ∀ state op, Clean state → Op.Tidy state op → Clean (step state op) :=
    fun _ _ clean tidy => clean_step clean tidy
  constructor
  · intro nothing
    by_contra untidy
    have doomed := Runs.doomed_of_not_steps keeps
      (fun _ _ clean untidy => doomed_of_not_tidy clean untidy)
      (fun _ op doomed => doomed_step doomed op) (clean_init secure) untidy
    obtain ⟨ctx, member, -⟩ := doomed_disconnect doomed
    have freed := nothing.2.2
    rw [destroy_trace] at freed
    rw [freed] at member
    cases member
  · intro tidy
    have always := Runs.always_of_invariant keeps (clean_init secure) tidy
    obtain ⟨-, sessions, contexts⟩ := clean_disconnect always.last
    refine ⟨always.mono fun _ clean => clean.referenced, ?_⟩
    intro last
    rw [destroy_trace]
    exact ⟨sessions, contexts⟩

/-- A CA file that does not load leaves a context that the destructor does not free. -/
theorem unloaded_authorities_leak_context :
    let secure : ASecureSocket :=
      { eSettingsFlags := .noFlags, eOpenSSLProtocol := .tls, strCAFile := "ca.pem"
        strSSLCertFile := "", strSSLKeyFile := "" }
    let answers : TlsAnswers :=
      { ctxNew := some 1, files := { certificate := 1, authorities := 0, privateKey := 1 }
        sslNew := 2, handshake := 1, verifyResult := 0, cipher := "", error := 0 }
    let last := step (init secure) (.connect "localhost" "443" (CTCPClient.oneAddress 0) answers)
    (last.self.destroy last.trace).trace.contexts = {1} := by
  decide

end SocketCpp.CTCPSSLClient
