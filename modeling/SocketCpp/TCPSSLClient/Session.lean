import SocketCpp.Data.Runs
import SocketCpp.TCPSSLClient.Connecting

namespace SocketCpp.CTCPSSLClient

open Data

/-! What a `CTCPSSLClient` may assume when its guard lets it through, over whole runs.

`Send` and `Receive` look at the status of the TCP client only.  That status says
that a session is there exactly as long as no `Connect` reaches the server and
then fails in OpenSSL. -/

/-- A connected client has a live session, shaken on the connection it holds now. -/
def Guarded (state : State CTCPSSLClient) : Prop :=
  state.self.tcpClient.eStatus = .connected →
    ∃ pSSL, state.self.sslConnectSocket.pSSL = some pSSL ∧ pSSL ∈ state.trace.sessions ∧
      Trace.handshaken pSSL state.trace = true ∧
      ∃ identity, Trace.attached pSSL state.trace = some identity ∧
        state.trace.connection state.self.tcpClient.connectSocket = some identity

/-- A `Connect` that reaches the server also completes the handshake. -/
def Op.Completes (secure : ASecureSocket) : Op → Prop
  | .connect _ _ resolution answers => resolution.Reaches → answers.Completes secure
  | _ => True

/-- A `Connect` that returns false leaves the client not connected. -/
def Honest (state : State CTCPSSLClient) : Op → Prop
  | .connect strServer strPort resolution answers =>
      (state.self.connect strServer strPort resolution answers state.trace).value = false →
        (state.self.connect strServer strPort resolution answers
          state.trace).self.tcpClient.eStatus = .disconnected
  | _ => True

/-- A session is attached to a connection that existed before. -/
theorem attached_lt {trace : Trace} {ssl identity : Nat}
    (found : Trace.attached ssl trace = some identity) : identity < trace.socketClock := by
  induction trace with
  | nil => cases found
  | cons call earlier ih =>
      have later : Trace.socketClock earlier ≤ Trace.socketClock (call :: earlier) := by
        simp [Trace.socketClock]
      have unchanged (same : Trace.attached ssl earlier = some identity) :
          identity < Trace.socketClock (call :: earlier) :=
        Nat.lt_of_lt_of_le (ih same) later
      cases call with
      | sslNew ctx result =>
          simp only [Trace.attached] at found
          split at found
          · cases found
          · exact unchanged found
      | sslSetFd pointer fd =>
          simp only [Trace.attached] at found
          split at found
          · exact Nat.lt_of_lt_of_le (Trace.connection_lt found) later
          · exact unchanged found
      | _ => exact unchanged found

theorem step_secure (state : State CTCPSSLClient) (op : Op) :
    (step state op).self.toASecureSocket = state.self.toASecureSocket := by
  cases op with
  | connect strServer strPort resolution answers =>
      have exit := state.self.connect_exit strServer strPort resolution answers state.trace
      simp only [step]
      cases exit with
      | unreachable _ self => rw [self]
      | noContext _ _ self => rw [self]
      | notLoaded _ _ _ _ _ self => rw [self]
      | shaken _ _ _ _ _ _ _ _ _ self => rw [self]
  | send pData uSize script => rfl
  | receive pData uSize bReadFully script => rfl
  | disconnect =>
      simp only [step, disconnect]
      split <;> rfl

/-- The connection that a `Connect` has reached is younger than all sessions. -/
theorem reached_connection {client : CTCPClient} {strServer strPort : String}
    {resolution : Resolution} {trace : Trace}
    (reached : (client.connect strServer strPort resolution trace).value = true) :
    (client.connect strServer strPort resolution trace).self.eStatus = .connected ∧
      ∃ identity, (client.connect strServer strPort resolution trace).trace.connection
          (client.connect strServer strPort resolution trace).self.connectSocket = some identity ∧
        trace.socketClock ≤ identity := by
  obtain ⟨status, -, identity, found, later⟩ :=
    (client.connect_connects strServer strPort resolution trace).connected reached
  have hungUp := Trace.socketClock_mono (client.hangUp_hungUp trace).calls
  exact ⟨status, identity, found, Nat.le_trans hungUp later⟩

theorem not_guarded_of_younger {state : State CTCPSSLClient} {before : Trace} {identity : Nat}
    (connected : state.self.tcpClient.eStatus = .connected)
    (sessions : ∀ ssl, Trace.attached ssl state.trace = Trace.attached ssl before)
    (found : state.trace.connection state.self.tcpClient.connectSocket = some identity)
    (younger : before.socketClock ≤ identity) : ¬ Guarded state := by
  intro guarded
  obtain ⟨pSSL, -, -, -, other, attached, same⟩ := guarded connected
  rw [sessions] at attached
  have older := attached_lt attached
  rw [found] at same
  cases same
  omega

theorem guarded_connect_iff (state : State CTCPSSLClient) (strServer strPort : String)
    (resolution : Resolution) (answers : TlsAnswers) :
    Guarded (state.self.connect strServer strPort resolution answers state.trace).toState ↔
      (resolution.Reaches → answers.Completes state.self.toASecureSocket) := by
  have exit := state.self.connect_exit strServer strPort resolution answers state.trace
  have reaches :=
    (state.self.tcpClient.connect_connects strServer strPort resolution state.trace).value
  have dials := (state.self.tcpClient.connect_calls strServer strPort resolution state.trace).mono
    fun _ => Call.Dials.layer_ne
  generalize state.self.connect strServer strPort resolution answers state.trace = result
    at exit ⊢
  rw [← reaches]
  cases exit with
  | unreachable failed self =>
      have status := state.self.tcpClient.connect_status strServer strPort resolution state.trace
      rw [failed] at status
      refine iff_of_true ?_ fun reached => ?_
      · intro connected
        rw [self] at connected
        rw [status] at connected
        cases connected
      · rw [failed] at reached
        cases reached
  | noContext reached none self _ calls =>
      obtain ⟨status, identity, found, younger⟩ := reached_connection reached
      have sessions (ssl : Nat) :
          Trace.attached ssl result.trace = Trace.attached ssl state.trace := by
        rw [Trace.attached_of_layer (calls.mono fun _ => Call.Logs.offOpenssl) ssl]
        exact Trace.attached_of_layer dials ssl
      have connection :
          result.trace.connection result.self.tcpClient.connectSocket = some identity := by
        rw [Trace.connection_of_layer (calls.mono fun _ => Call.Logs.offSockets), self]
        exact found
      refine iff_of_false ?_ fun completes => ?_
      · exact not_guarded_of_younger (by rw [self]; exact status) sessions connection younger
      · have created := (completes reached).1
        rw [none] at created
        cases created
  | notLoaded ctx reached created fresh fails self _ calls =>
      obtain ⟨status, identity, found, younger⟩ := reached_connection reached
      have sessions (ssl : Nat) :
          Trace.attached ssl result.trace = Trace.attached ssl state.trace :=
        (Trace.loaded_attached calls ssl).trans (Trace.attached_of_layer dials ssl)
      have connection :
          result.trace.connection result.self.tcpClient.connectSocket = some identity := by
        rw [(Trace.loaded_views calls).2.2.2, self]
        exact found
      refine iff_of_false ?_ fun completes => ?_
      · exact not_guarded_of_younger (by rw [self]; exact status) sessions connection younger
      · have loads := (completes reached).2.1
        rw [fails] at loads
        cases loads
  | shaken ctx pSSL iResult loaded reached created fresh loads freshSession self _ files handshake
      calls =>
      obtain ⟨status, identity, found, -⟩ := reached_connection reached
      obtain ⟨-, live, shaken, attached, connection⟩ := Trace.shaken_views calls
      have beneath := (Trace.loaded_views files).2.2.2
      rw [Trace.handshakeResult_fresh files] at handshake
      constructor
      · intro guarded _
        obtain ⟨held, isHeld, -, isShaken, -⟩ := guarded (by rw [self]; exact status)
        rw [self] at isHeld
        cases isHeld
        rw [shaken, handshake] at isShaken
        exact ⟨created, loads, of_decide_eq_true isShaken⟩
      · intro completes _
        have succeeded := (completes reached).2.2
        refine ⟨pSSL, by rw [self], ?_, ?_, identity, ?_, ?_⟩
        · rw [live]
          exact Finset.mem_insert_self _ _
        · rw [shaken, handshake]
          exact decide_eq_true succeeded
        · rw [attached, beneath]
          exact found
        · rw [connection, beneath, self]
          exact found

theorem guarded_of_exchanges {state : State CTCPSSLClient} (guarded : Guarded state)
    {pSSL : Option Nat} {trace : Trace}
    (exchanges : Extends (Call.Exchanges pSSL) state.trace trace) :
    Guarded { state with trace } := by
  have passive := exchanges.mono fun _ => Call.Exchanges.passive
  intro connected
  obtain ⟨held, isHeld, live, shaken, identity, attached, found⟩ := guarded connected
  refine ⟨held, isHeld, ?_, ?_, identity, ?_, ?_⟩
  · rw [Trace.sessions_of_passive passive]
    exact live
  · rw [Trace.handshaken_of_passive passive]
    exact shaken
  · rw [Trace.attached_of_passive passive]
    exact attached
  · rw [Trace.connection_of_passive passive]
    exact found

theorem guarded_step {state : State CTCPSSLClient} (guarded : Guarded state) {op : Op}
    (completes : op.Completes state.self.toASecureSocket) : Guarded (step state op) := by
  cases op with
  | connect strServer strPort resolution answers =>
      exact (guarded_connect_iff state strServer strPort resolution answers).mpr completes
  | send pData uSize script => exact guarded_of_exchanges guarded (send_calls ..)
  | receive pData uSize bReadFully script => exact guarded_of_exchanges guarded (receive_calls ..)
  | disconnect =>
      intro connected
      simp only [step, disconnect, CTCPClient.disconnect] at connected
      split_ifs at connected with idle
      · exact absurd connected idle

theorem honest_of_completes {state : State CTCPSSLClient} {op : Op}
    (completes : op.Completes state.self.toASecureSocket) : Honest state op := by
  cases op with
  | connect strServer strPort resolution answers =>
      intro failed
      have value := state.self.connect_value_iff strServer strPort resolution answers state.trace
      have reaches := (state.self.tcpClient.connect_connects strServer strPort resolution
        state.trace).value
      have unreached : (state.self.tcpClient.connect strServer strPort resolution
          state.trace).value = false := by
        by_contra reached
        have reached := reaches.mp (eq_true_of_ne_false reached)
        rw [value.mpr ⟨reached, completes reached⟩] at failed
        cases failed
      rw [state.self.connect_tcpClient, CTCPClient.connect_status, unreached]
      rfl
  | send => trivial
  | receive => trivial
  | disconnect => trivial

theorem guarded_init (secure : ASecureSocket) : Guarded (init secure) := by
  intro connected
  cases connected

/-- The guard of `Send` and `Receive` stands for a live session on the held
connection, and every failed `Connect` is told as one, exactly when every `Connect`
that reaches its server also completes the handshake. -/
theorem guard_sound_iff (secure : ASecureSocket) (operations : List Op) :
    (Runs.Always step Guarded (init secure) operations ∧
        Runs.Steps step Honest (init secure) operations) ↔
      Runs.Steps step (fun _ op => op.Completes secure) (init secure) operations := by
  have start : Guarded (init secure) ∧ (init secure).self.toASecureSocket = secure :=
    ⟨guarded_init secure, rfl⟩
  have keeps : ∀ state op, (Guarded state ∧ state.self.toASecureSocket = secure) →
      Op.Completes secure op →
      Guarded (step state op) ∧ (step state op).self.toASecureSocket = secure := by
    intro state op both completes
    rw [← both.2] at completes
    exact ⟨guarded_step both.1 completes, (step_secure state op).trans both.2⟩
  have breaks : ∀ state op, (Guarded state ∧ state.self.toASecureSocket = secure) →
      ¬ Op.Completes secure op → ¬ Guarded (step state op) := by
    intro state op both fails guarded
    cases op with
    | connect strServer strPort resolution answers =>
        have completes :=
          (guarded_connect_iff state strServer strPort resolution answers).mp guarded
        rw [both.2] at completes
        exact fails completes
    | _ => exact fails trivial
  have honest : ∀ state op, (Guarded state ∧ state.self.toASecureSocket = secure) →
      Op.Completes secure op → Honest state op := by
    intro state op both completes
    rw [← both.2] at completes
    exact honest_of_completes completes
  have guards : Runs.Always step Guarded (init secure) operations ↔
      Runs.Steps step (fun _ op => op.Completes secure) (init secure) operations :=
    Runs.always_iff_steps (fun _ both => both.1) keeps breaks start
  constructor
  · intro holds
    exact guards.mp holds.1
  · intro completes
    exact ⟨guards.mpr completes, Runs.steps_of_invariant keeps honest start completes⟩

/-- A handshake that fails leaves a client that reports no connection in one that
`Send` and `Receive` take for connected. -/
theorem failed_handshake_stays_connected :
    let secure : ASecureSocket :=
      { eSettingsFlags := .noFlags, eOpenSSLProtocol := .tls, strCAFile := ""
        strSSLCertFile := "", strSSLKeyFile := "" }
    let answers : TlsAnswers :=
      { ctxNew := some 1, files := { certificate := 1, authorities := 1, privateKey := 1 }
        sslNew := 2, handshake := -1, verifyResult := 0, cipher := "", error := 1 }
    let result := (new secure).connect "localhost" "443" (CTCPClient.oneAddress 0) answers []
    result.value = false ∧ result.self.tcpClient.eStatus = .connected ∧
      result.self.sslConnectSocket.pSSL = some 2 ∧
      Trace.handshaken 2 result.trace = false := by
  decide

end SocketCpp.CTCPSSLClient
