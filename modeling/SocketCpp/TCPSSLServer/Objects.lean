import SocketCpp.TCPSSLServer.Accepting
import SocketCpp.TCPSSLServer.Pool

namespace SocketCpp

open Data

/-! Who owns the `SSL` and `SSL_CTX` objects of a server, over runs of its pool.

`ShutdownSSL` leaves the context pointer behind, and a failing `Listen` mixes old
and new fields.  A context pointer counts only next to a session. -/

/-- The context that goes with the session of an object. -/
def SSLSocket.heldContext (socket : SSLSocket) : Option Nat :=
  socket.pSSL.bind fun _ => socket.pCTXSSL

namespace ServerPool

structure OwnsObjects (pool : ServerPool) : Prop where
  sound : pool.trace.Sound
  sessions : Pool.Owned (fun slot : Slot => slot.pSSL) pool.trace.sessions pool.slots
  contexts : Pool.Owned (fun slot : Slot => slot.heldContext) pool.trace.contexts pool.slots

theorem OwnsObjects.move {pool : ServerPool} (owns : OwnsObjects pool) (target source count : Nat) :
    OwnsObjects { pool with slots := Pool.move pool.slots target source .empty, count } where
  sound := owns.sound
  sessions := owns.sessions.move target source rfl
  contexts := owns.contexts.move target source rfl

theorem OwnsObjects.of_offOpenssl {pool : ServerPool} (owns : OwnsObjects pool) {trace : Trace}
    (calls : Extends (fun call : Call => call.layer ≠ .openssl) pool.trace trace) :
    OwnsObjects { pool with trace } where
  sound := owns.sound.of_layer calls
  sessions := by
    rw [Trace.sessions_of_layer calls]
    exact owns.sessions
  contexts := by
    rw [Trace.contexts_of_layer calls]
    exact owns.contexts

theorem OwnsObjects.of_exchanges {pool : ServerPool} (owns : OwnsObjects pool) {slot : Nat}
    {trace : Trace}
    (exchanges : Extends (Call.Exchanges (pool.slots slot).pSSL) pool.trace trace) :
    OwnsObjects { pool with trace } where
  sound := owns.sound.of_onlyTouches (fun _ same => by cases same) (owns.sessions.live slot)
    (exchanges.mono fun _ => Call.Exchanges.onlyTouches)
  sessions := by
    rw [Trace.sessions_of_passive (exchanges.mono fun _ => Call.Exchanges.passive)]
    exact owns.sessions
  contexts := by
    rw [Trace.contexts_of_passive (exchanges.mono fun _ => Call.Exchanges.passive)]
    exact owns.contexts

theorem owns_disconnect {pool : ServerPool} (owns : OwnsObjects pool) (slot : Nat) :
    OwnsObjects (pool.disconnected slot
      (pool.server.disconnect (pool.slots slot).toSSLSocket pool.trace)) := by
  cases holds : (pool.slots slot).pSSL with
  | none =>
      have closes := (Extends.refl (fun call : Call => call.layer ≠ .openssl) pool.trace).cons
        (.close (pool.slots slot).sockFd) (by simp [Call.layer])
      simp only [disconnected, CTCPSSLServer.disconnect, shutdownSSL, holds, CTCPServer.disconnect]
      refine ⟨owns.sound.of_layer closes, ?_, ?_⟩
      · rw [Trace.sessions_of_layer closes]
        exact owns.sessions.keep slot rfl
      · rw [Trace.contexts_of_layer closes]
        exact owns.contexts.keep slot rfl
  | some pSSL =>
      have live := owns.sessions.live slot pSSL holds
      have context : (pool.slots slot).heldContext = (pool.slots slot).pCTXSSL := by
        simp [SSLSocket.heldContext, holds]
      have liveContext (ctx : Nat) (named : (pool.slots slot).pCTXSSL = some ctx) :
          ctx ∈ pool.trace.contexts :=
        owns.contexts.live slot ctx (context.trans named)
      simp only [disconnected, CTCPSSLServer.disconnect, shutdownSSL, holds, CTCPServer.disconnect]
      refine ⟨(owns.sound.shutdown live liveContext).of_layer
        ((Extends.refl _ _).cons (Call.close (pool.slots slot).sockFd) (by simp [Call.layer])),
        ?_, ?_⟩
      · exact owns.sessions.release holds rfl
      · cases named : (pool.slots slot).pCTXSSL with
        | none => exact owns.contexts.clear slot rfl
        | some ctx => exact owns.contexts.release (context.trans named) rfl

/-- A `Listen` either keeps the session of its object or gives it a new one. -/
theorem owns_listen {pool : ServerPool} (owns : OwnsObjects pool) (slot msec : Nat)
    (tcpAnswers : ListenAnswers) (answers : AcceptAnswers) :
    OwnsObjects (pool.listened slot (pool.server.listen (pool.slots slot).toSSLSocket msec
      tcpAnswers answers pool.trace)) := by
  have exit := pool.server.listen_exit (pool.slots slot).toSSLSocket msec tcpAnswers answers
    pool.trace
  have off := pool.server.tcpServer.listen_offOpenssl msec tcpAnswers pool.trace
  generalize pool.server.tcpServer.listen msec tcpAnswers pool.trace = tcp at exit off
  generalize pool.server.listen (pool.slots slot).toSSLSocket msec tcpAnswers answers pool.trace =
    result at exit ⊢
  have sound := owns.sound.of_layer off
  have sessions := owns.sessions
  have contexts := owns.contexts
  rw [← Trace.sessions_of_layer off] at sessions
  rw [← Trace.contexts_of_layer off] at contexts
  cases exit with
  | notAccepted _ _ socket calls =>
      have logs := calls.mono fun _ => Call.Logs.offOpenssl
      refine ⟨sound.of_layer logs, ?_, ?_⟩
      · simp only [listened, Trace.sessions_of_layer logs]
        exact sessions.keep slot (by rw [socket])
      · simp only [listened, Trace.contexts_of_layer logs]
        exact contexts.keep slot (by rw [socket]; rfl)
  | noContext _ _ _ socket calls =>
      have logs := calls.mono fun _ => Call.Logs.offOpenssl
      have none := sound.noContext pool.server.eOpenSSLProtocol.serverMethod
      refine ⟨none.of_layer logs, ?_, ?_⟩
      · simp only [listened, Trace.sessions_of_layer logs]
        exact sessions.keep slot (by rw [socket]; rfl)
      · simp only [listened, Trace.contexts_of_layer logs]
        refine contexts.clear slot ?_
        rw [socket]
        exact Option.bind_fun_none _
  | notLoaded ctx _ fresh _ _ socket calls =>
      obtain ⟨loadedContexts, loadedSessions, -, -⟩ := Trace.loaded_views calls
      refine ⟨sound.loads fresh calls, ?_, ?_⟩
      · simp only [listened, loadedSessions]
        exact sessions.keep slot (by rw [socket]; rfl)
      · simp only [listened, loadedContexts]
        have held : result.clientSocket.heldContext =
            (pool.slots slot).pSSL.bind fun _ => some ctx := by
          rw [socket]
          rfl
        cases holds : (pool.slots slot).pSSL with
        | none =>
            rw [holds] at held
            exact (contexts.mono (Finset.subset_insert ctx _)).clear slot held
        | some pSSL =>
            rw [holds] at held
            exact contexts.acquire slot held fresh
  | refused ctx pSSL loaded shaken _ fresh freshSession _ _ socket files calls trace =>
      have shakes : Call.Shakes pSSL (.sslAccept (some pSSL) answers.handshake) := rfl
      obtain ⟨shakenContexts, shakenSessions⟩ := Trace.handshake_objects shakes files calls
      have shaken := sound.handshakes fresh freshSession shakes files calls
      rw [(Trace.loaded_views files).2.1] at freshSession
      refine ⟨?_, ?_, ?_⟩
      · rw [listened, trace]
        refine shaken.shutdown ?_ ?_
        · rw [shakenSessions]
          exact Finset.mem_insert_self _ _
        · intro other same
          cases same
          rw [shakenContexts]
          exact Finset.mem_insert_self _ _
      · simp only [listened, trace, Trace.sessions_shutdown]
        rw [shakenSessions, Finset.erase_insert freshSession]
        exact sessions.clear slot (by rw [socket])
      · simp only [listened, trace, Trace.contexts_shutdown]
        rw [shakenContexts, Finset.erase_insert fresh]
        exact contexts.clear slot (by rw [socket]; rfl)
  | secured ctx pSSL loaded _ fresh freshSession _ _ socket files trace =>
      have shakes : Call.Shakes pSSL (.sslAccept (some pSSL) answers.handshake) := rfl
      have calls := Extends.refl (Call.Reports (some pSSL)) result.trace
      nth_rewrite 1 [trace] at calls
      obtain ⟨shakenContexts, shakenSessions⟩ := Trace.handshake_objects shakes files calls
      refine ⟨sound.handshakes fresh freshSession shakes files calls, ?_, ?_⟩
      · simp only [listened, shakenSessions]
        rw [(Trace.loaded_views files).2.1] at freshSession
        exact sessions.acquire slot (by rw [socket]) freshSession
      · simp only [listened, shakenContexts]
        exact contexts.acquire slot (by rw [socket]; rfl) fresh

theorem owns_step {pool : ServerPool} (owns : OwnsObjects pool) (op : Op) :
    OwnsObjects (step pool op) := by
  apply step_rule op owns
  · exact ⟨owns.sound, owns.sessions.clear pool.count rfl, owns.contexts.clear pool.count rfl⟩
  · exact owns.move
  · exact owns_listen owns
  · exact fun _ _ exchanges => owns.of_exchanges exchanges
  · exact fun slot _ _ => owns_disconnect owns slot

theorem owns_init (server : CTCPSSLServer) : OwnsObjects (init server) where
  sound := ⟨trivial, trivial⟩
  sessions := ⟨fun _ _ _ holds => (by cases holds), fun _ _ holds => (by cases holds)⟩
  contexts := ⟨fun _ _ _ holds => (by cases holds), fun _ _ holds => (by cases holds)⟩

/-- In every run of a pool each session and each context next to one is live and held
by one object, and nothing is freed twice or used after it was freed. -/
theorem objects_owned (server : CTCPSSLServer) (operations : List Op) :
    Runs.Always step OwnsObjects (init server) operations := by
  have keeps : ∀ pool op, OwnsObjects pool → OwnsObjects (step pool op) :=
    fun _ op owns => owns_step owns op
  exact Runs.always_of_inductive keeps (owns_init server) operations

end ServerPool

end SocketCpp
