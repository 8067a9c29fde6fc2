import SocketCpp.Data.Runs
import SocketCpp.TCPSSLClient.Connecting

namespace SocketCpp

open Data

/-! The `SSL` and `SSL_CTX` objects of a `CTCPSSLClient`, over whole runs.

`ShutdownSSL` is the only place that frees them, and it frees both or none.  So
nothing is ever freed twice or used after it was freed, although the context
pointer dangles from then on. -/

namespace CTCPSSLClient

/-- The invariant behind the frees: a held session is live, and so is the context
next to it, although the context pointer alone may dangle. -/
structure Held (state : State CTCPSSLClient) : Prop where
  sound : state.trace.Sound
  session : ∀ pSSL, state.self.sslConnectSocket.pSSL = some pSSL → pSSL ∈ state.trace.sessions
  context : state.self.sslConnectSocket.pSSL ≠ none →
    ∀ ctx, state.self.sslConnectSocket.pCTXSSL = some ctx → ctx ∈ state.trace.contexts

theorem Held.of_layer {state : State CTCPSSLClient} (held : Held state)
    {next : State CTCPSSLClient}
    (socket : next.self.sslConnectSocket = state.self.sslConnectSocket)
    (extended : Extends (fun call : Call => call.layer ≠ .openssl) state.trace next.trace) :
    Held next where
  sound := held.sound.of_layer extended
  session := by
    rw [socket, Trace.sessions_of_layer extended]
    exact held.session
  context := by
    rw [socket, Trace.contexts_of_layer extended]
    exact held.context

theorem Held.of_exchanges {state : State CTCPSSLClient} (held : Held state) {trace : Trace}
    (exchanges : Extends (Call.Exchanges state.self.sslConnectSocket.pSSL) state.trace trace) :
    Held { state with trace } where
  sound := held.sound.of_onlyTouches (fun _ same => by cases same) held.session
    (exchanges.mono fun _ => Call.Exchanges.onlyTouches)
  session := by
    simp only [Trace.sessions_of_passive (exchanges.mono fun _ => Call.Exchanges.passive)]
    exact held.session
  context := by
    simp only [Trace.contexts_of_passive (exchanges.mono fun _ => Call.Exchanges.passive)]
    exact held.context

theorem held_connect {state : State CTCPSSLClient} (held : Held state)
    (strServer strPort : String) (resolution : Resolution) (answers : TlsAnswers) :
    Held (state.self.connect strServer strPort resolution answers state.trace).toState := by
  have exit := state.self.connect_exit strServer strPort resolution answers state.trace
  have dials := (state.self.tcpClient.connect_calls strServer strPort resolution state.trace).mono
    fun _ => Call.Dials.layer_ne
  generalize state.self.tcpClient.connect strServer strPort resolution state.trace = tcp
    at exit dials
  generalize state.self.connect strServer strPort resolution answers state.trace = result
    at exit ⊢
  have reached : Held { self := { state.self with tcpClient := tcp.self }, trace := tcp.trace } :=
    held.of_layer rfl dials
  cases exit with
  | unreachable _ self _ calls =>
      exact reached.of_layer (by rw [self]) (calls.mono fun _ => Call.Logs.offOpenssl)
  | noContext _ _ self _ calls =>
      have noContext := reached.sound.noContext state.self.eOpenSSLProtocol.clientMethod
      have off := calls.mono fun _ => Call.Logs.offOpenssl
      refine ⟨noContext.of_layer off, ?_, ?_⟩
      · rw [self, Trace.sessions_of_layer off]
        exact reached.session
      · rw [self]
        intro _ ctx same
        cases same
  | notLoaded ctx _ _ fresh _ self _ calls =>
      obtain ⟨contexts, sessions, -, -⟩ := Trace.loaded_views calls
      refine ⟨reached.sound.loads fresh calls, ?_, ?_⟩
      · rw [self, sessions]
        exact reached.session
      · rw [self, contexts]
        intro _ other same
        cases same
        exact Finset.mem_insert_self _ _
  | shaken ctx pSSL iResult loaded _ _ fresh _ freshSession self _ files _ calls =>
      have shakes : Call.Shakes pSSL (.sslConnect (some pSSL) iResult) := rfl
      obtain ⟨contexts, sessions⟩ := Trace.handshake_objects shakes files calls
      refine ⟨reached.sound.handshakes fresh freshSession shakes files calls, ?_, ?_⟩
      · rw [self, sessions]
        intro other same
        cases same
        exact Finset.mem_insert_self _ _
      · rw [self, contexts]
        intro _ other same
        cases same
        exact Finset.mem_insert_self _ _

theorem held_shutdown {state : State CTCPSSLClient} (held : Held state) :
    Held { self := { state.self with
             sslConnectSocket := (shutdownSSL state.self.sslConnectSocket state.trace).self }
           trace := (shutdownSSL state.self.sslConnectSocket state.trace).trace } := by
  cases holds : state.self.sslConnectSocket.pSSL with
  | none =>
      simp only [shutdownSSL, holds]
      exact held
  | some pSSL =>
      simp only [shutdownSSL, holds]
      have live := held.session pSSL holds
      have liveContext := held.context (by rw [holds]; exact Option.some_ne_none pSSL)
      refine ⟨held.sound.shutdown live liveContext, ?_, ?_⟩
      · intro other same
        cases same
      · intro some
        exact absurd rfl some

theorem held_disconnect {state : State CTCPSSLClient} (held : Held state) :
    Held (state.self.disconnect state.trace).toState := by
  simp only [disconnect]
  split
  · exact held
  · exact (held_shutdown held).of_layer rfl
      ((CTCPClient.disconnect_calls _ _).mono fun _ => Call.Dials.layer_ne)

theorem held_step {state : State CTCPSSLClient} (held : Held state) (op : Op) :
    Held (step state op) := by
  cases op with
  | connect strServer strPort resolution answers =>
      exact held_connect held strServer strPort resolution answers
  | send pData uSize script => exact held.of_exchanges (send_calls ..)
  | receive pData uSize bReadFully script => exact held.of_exchanges (receive_calls ..)
  | disconnect => exact held_disconnect held

theorem held_init (secure : ASecureSocket) : Held (init secure) :=
  ⟨⟨trivial, trivial⟩, fun _ same => (by cases same), fun some => absurd rfl some⟩

/-- Neither `SSL_free` nor `SSL_CTX_free` is ever called twice for one object, and
no call is made on an object that was freed, in any run up to the destructor. -/
theorem objects_freed_once (secure : ASecureSocket) (operations : List Op) :
    let last := operations.foldl step (init secure)
    let trace := (last.self.destroy last.trace).trace
    Ledger.Disciplined (Ledger.entries Call.sessionEvents trace) ∧
      Ledger.Disciplined (Ledger.entries Call.contextEvents trace) ∧
      ∀ handle,
        (Ledger.entries Call.sessionEvents trace).count (.release handle) ≤
          (Ledger.entries Call.sessionEvents trace).count (.acquire handle) ∧
        (Ledger.entries Call.contextEvents trace).count (.release handle) ≤
          (Ledger.entries Call.contextEvents trace).count (.acquire handle) := by
  intro last trace
  have keeps : ∀ state op, Held state → Held (step state op) := fun _ op held => held_step held op
  have held : Held last := Runs.foldl_of_inductive keeps (held_init secure) operations
  have sound := (held_disconnect held).sound
  rw [← destroy_trace] at sound
  exact ⟨sound.sessions, sound.contexts, fun handle =>
    ⟨sound.sessions.releases_le handle, sound.contexts.releases_le handle⟩⟩

end CTCPSSLClient

end SocketCpp
