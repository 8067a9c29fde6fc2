import SocketCpp.Transfer.Loops

namespace SocketCpp

open Data

/-! The `SSL` and `SSL_CTX` objects that the two secure classes set up and free. -/

def Call.Reports (pSSL : Option Nat) : Call → Prop
  | .oLog _ | .errPrintErrors => True
  | .sslGetCipher pointer | .sslGetError pointer _ => pointer = pSSL
  | _ => False

theorem Call.Reports.passive {pSSL : Option Nat} {call : Call} (reports : call.Reports pSSL) :
    call.passive = true := by
  cases call <;> first | exact reports.elim | rfl

theorem Call.LoadsInto.passive {ctx : Option Nat} {call : Call} (loads : call.LoadsInto ctx) :
    call.passive = true := by
  cases call <;> first | exact loads.elim | rfl

theorem Call.Exchanges.passive {pSSL : Option Nat} {call : Call} (exchanges : call.Exchanges pSSL) :
    call.passive = true := by
  cases call <;> first | exact exchanges.elim | rfl

theorem Call.Exchanges.layer_ne {pSSL : Option Nat} {call : Call}
    (exchanges : call.Exchanges pSSL) : call.layer ≠ .sockets := by
  cases call <;> first | exact exchanges.elim | simp [Call.layer]

theorem Call.Reports.layer_ne {pSSL : Option Nat} {call : Call} (reports : call.Reports pSSL) :
    call.layer ≠ .sockets := by
  cases call <;> first | exact reports.elim | simp [Call.layer]

theorem Call.LoadsInto.layer_ne {ctx : Option Nat} {call : Call} (loads : call.LoadsInto ctx) :
    call.layer ≠ .sockets := by
  cases call <;> first | exact loads.elim | simp [Call.layer]

/-- A handshake of one session, from either side. -/
def Call.Shakes (pSSL : Nat) : Call → Prop
  | .sslConnect pointer _ | .sslAccept pointer _ => pointer = some pSSL
  | _ => False

/-- What a call does to the live objects: nothing, or one use of `pointer`. -/
def Call.OnlyTouches (events : Call → List (Ledger.Event Nat)) (pointer : Option Nat)
    (call : Call) : Prop :=
  events call = [] ∨ events call = touchIfAny pointer

theorem Call.LoadsInto.onlyTouches {ctx : Option Nat} {call : Call} (loads : call.LoadsInto ctx) :
    call.OnlyTouches Call.contextEvents ctx ∧ call.OnlyTouches Call.sessionEvents none := by
  cases call with
  | oLog => exact ⟨.inl rfl, .inl rfl⟩
  | sslCtxUseCertificateFile | sslCtxLoadVerifyLocations | sslCtxSetVerifyDepth
  | sslCtxUsePrivateKeyFile =>
      cases loads
      exact ⟨.inr rfl, .inl rfl⟩
  | _ => exact loads.elim

theorem Call.Reports.onlyTouches {pSSL : Option Nat} {call : Call} (reports : call.Reports pSSL) :
    call.OnlyTouches Call.contextEvents none ∧ call.OnlyTouches Call.sessionEvents pSSL := by
  cases call with
  | oLog | errPrintErrors => exact ⟨.inl rfl, .inl rfl⟩
  | sslGetCipher | sslGetError =>
      cases reports
      exact ⟨.inl rfl, .inr rfl⟩
  | _ => exact reports.elim

theorem Call.Exchanges.onlyTouches {pSSL : Option Nat} {call : Call}
    (exchanges : call.Exchanges pSSL) :
    call.OnlyTouches Call.contextEvents none ∧ call.OnlyTouches Call.sessionEvents pSSL := by
  cases call with
  | oLog => exact ⟨.inl rfl, .inl rfl⟩
  | sslWrite | sslRead | sslGetError =>
      cases exchanges
      exact ⟨.inl rfl, .inr rfl⟩
  | _ => exact exchanges.elim

theorem shutdownSSL_sockFd (socket : SSLSocket) (trace : Trace) :
    (shutdownSSL socket trace).self.sockFd = socket.sockFd := by
  unfold shutdownSSL
  split <;> rfl

theorem shutdownSSL_offSockets (socket : SSLSocket) (trace : Trace) :
    Extends (fun call : Call => call.layer ≠ .sockets) trace (shutdownSSL socket trace).trace := by
  have start := Extends.refl (fun call : Call => call.layer ≠ .sockets) trace
  cases holds : socket.pSSL with
  | none =>
      simp only [shutdownSSL, holds]
      exact start
  | some pSSL =>
      simp only [shutdownSSL, holds]
      have shut := start.cons (.sslShutdown (some pSSL)) (by simp [Call.layer])
      have freed := shut.cons (.sslFree (some pSSL)) (by simp [Call.layer])
      exact freed.cons (.sslCtxFree socket.pCTXSSL) (by simp [Call.layer])

namespace Trace

/-! What OpenSSL knows after a context has been set up. -/

theorem loaded_views {before loaded : Trace} {method : SSLMethod} {ctx : Nat}
    (files : Extends (Call.LoadsInto (some ctx)) (.sslCtxNew method (some ctx) :: before) loaded) :
    loaded.contexts = insert ctx before.contexts ∧ loaded.sessions = before.sessions ∧
      verifyMode ctx loaded = .verifyNone ∧
      ∀ fd, loaded.connection fd = before.connection fd := by
  have passive := files.mono fun _ => Call.LoadsInto.passive
  refine ⟨?_, ?_, ?_, fun fd => ?_⟩
  · rw [contexts_of_passive passive]
    simp [contexts, Call.contextEvents, acquireIfAny]
  · rw [sessions_of_passive passive]
    simp [sessions, Call.sessionEvents]
  · rw [verifyMode_of_passive passive]
    simp [verifyMode]
  · rw [connection_of_passive passive]
    simp [connection, Call.socketEvents]

theorem loaded_attached {before loaded : Trace} {method : SSLMethod} {ctx : Nat}
    (files : Extends (Call.LoadsInto (some ctx)) (.sslCtxNew method (some ctx) :: before) loaded)
    (ssl : Nat) : attached ssl loaded = attached ssl before := by
  rw [attached_of_passive (files.mono fun _ => Call.LoadsInto.passive)]
  rfl

/-- Nothing is freed twice and nothing is used after it was freed. -/
structure Sound (trace : Trace) : Prop where
  sessions : Ledger.Disciplined (Ledger.entries Call.sessionEvents trace)
  contexts : Ledger.Disciplined (Ledger.entries Call.contextEvents trace)

variable {before after : Trace}

theorem disciplined_of_onlyTouches {events : Call → List (Ledger.Event Nat)}
    {pointer : Option Nat} (disciplined : Ledger.Disciplined (Ledger.entries events before))
    (live : ∀ handle, pointer = some handle →
      handle ∈ Ledger.held (Ledger.entries events before))
    (extended : Extends (Call.OnlyTouches events pointer) before after) :
    Ledger.Disciplined (Ledger.entries events after) := by
  refine Ledger.disciplined_of_uses (extended.mono fun call touches => ?_) disciplined
  intro event member
  rcases touches with none | one
  · rw [none] at member
    cases member
  · rw [one] at member
    cases pointer with
    | none => cases member
    | some handle => exact ⟨handle, live handle rfl, List.mem_singleton.mp member⟩

theorem Sound.of_onlyTouches (sound : before.Sound) {ctx pSSL : Option Nat}
    (liveContext : ∀ handle, ctx = some handle → handle ∈ before.contexts)
    (liveSession : ∀ handle, pSSL = some handle → handle ∈ before.sessions)
    (extended : Extends (fun call => call.OnlyTouches Call.contextEvents ctx ∧
      call.OnlyTouches Call.sessionEvents pSSL) before after) : after.Sound where
  sessions := disciplined_of_onlyTouches sound.sessions liveSession
    (extended.mono fun _ both => both.2)
  contexts := disciplined_of_onlyTouches sound.contexts liveContext
    (extended.mono fun _ both => both.1)

theorem Sound.of_layer (sound : before.Sound)
    (extended : Extends (fun call : Call => call.layer ≠ .openssl) before after) : after.Sound where
  sessions := by
    rw [sessionEntries_of_layer extended]
    exact sound.sessions
  contexts := by
    rw [contextEntries_of_layer extended]
    exact sound.contexts

theorem Sound.noContext (sound : before.Sound) (method : SSLMethod) :
    Sound (.sslCtxNew method none :: before) :=
  ⟨sound.sessions, sound.contexts⟩

/-- A fresh context is configured from files. -/
theorem Sound.loads (sound : before.Sound) {method : SSLMethod} {ctx : Nat}
    (fresh : ctx ∉ before.contexts)
    (files : Extends (Call.LoadsInto (some ctx)) (.sslCtxNew method (some ctx) :: before) after) :
    after.Sound := by
  have created : Sound (.sslCtxNew method (some ctx) :: before) :=
    ⟨sound.sessions, fresh, sound.contexts⟩
  refine created.of_onlyTouches ?_ ?_ (files.mono fun _ => Call.LoadsInto.onlyTouches)
  · intro handle same
    cases same
    exact Finset.mem_insert_self _ _
  · intro handle same
    cases same

/-- A fresh session of a live context is attached and shaken. -/
theorem Sound.shaken (sound : before.Sound) {ctx pSSL : Nat} {fd : Socket} {handshake : Call}
    (live : ctx ∈ before.contexts) (fresh : pSSL ∉ before.sessions) (shakes : handshake.Shakes pSSL)
    (calls : Extends (Call.Reports (some pSSL))
      (handshake :: .sslSetFd (some pSSL) fd :: .sslNew (some ctx) pSSL :: before) after) :
    after.Sound := by
  have created : pSSL ∈ Ledger.held (Ledger.entries Call.sessionEvents
      (.sslNew (some ctx) pSSL :: before)) := Finset.mem_insert_self _ _
  have attached : Sound (.sslSetFd (some pSSL) fd :: .sslNew (some ctx) pSSL :: before) :=
    ⟨⟨created, fresh, sound.sessions⟩, live, sound.contexts⟩
  have touches : handshake.OnlyTouches Call.contextEvents none ∧
      handshake.OnlyTouches Call.sessionEvents (some pSSL) := by
    cases handshake with
    | sslConnect | sslAccept =>
        cases shakes
        exact ⟨.inl rfl, .inr rfl⟩
    | _ => exact shakes.elim
  have shaken := ((Extends.refl _ _).cons handshake touches).trans
    (calls.mono fun _ => Call.Reports.onlyTouches)
  refine attached.of_onlyTouches ?_ ?_ shaken
  · intro handle same
    cases same
  · intro handle same
    cases same
    exact created

theorem shaken_objects {ctx pSSL : Nat} {fd : Socket} {handshake : Call}
    (shakes : handshake.Shakes pSSL)
    (calls : Extends (Call.Reports (some pSSL))
      (handshake :: .sslSetFd (some pSSL) fd :: .sslNew (some ctx) pSSL :: before) after) :
    after.contexts = before.contexts ∧ after.sessions = insert pSSL before.sessions := by
  have passive := calls.mono fun _ => Call.Reports.passive
  rw [contexts_of_passive passive, sessions_of_passive passive]
  cases handshake with
  | sslConnect | sslAccept =>
      cases shakes
      exact ⟨rfl, rfl⟩
  | _ => exact shakes.elim

section Handshake

variable {loaded : Trace} {method : SSLMethod} {ctx pSSL : Nat} {fd : Socket} {handshake : Call}

/-- From the creation of a context to the reports on the handshake of a session of it
one object of each kind becomes live. -/
theorem handshake_objects (shakes : handshake.Shakes pSSL)
    (files : Extends (Call.LoadsInto (some ctx)) (.sslCtxNew method (some ctx) :: before) loaded)
    (calls : Extends (Call.Reports (some pSSL))
      (handshake :: .sslSetFd (some pSSL) fd :: .sslNew (some ctx) pSSL :: loaded) after) :
    after.contexts = insert ctx before.contexts ∧ after.sessions = insert pSSL before.sessions := by
  obtain ⟨loadedContexts, loadedSessions, -, -⟩ := loaded_views files
  obtain ⟨shakenContexts, shakenSessions⟩ := shaken_objects shakes calls
  rw [loadedContexts] at shakenContexts
  rw [loadedSessions] at shakenSessions
  exact ⟨shakenContexts, shakenSessions⟩

theorem Sound.handshakes (sound : before.Sound) (fresh : ctx ∉ before.contexts)
    (freshSession : pSSL ∉ loaded.sessions) (shakes : handshake.Shakes pSSL)
    (files : Extends (Call.LoadsInto (some ctx)) (.sslCtxNew method (some ctx) :: before) loaded)
    (calls : Extends (Call.Reports (some pSSL))
      (handshake :: .sslSetFd (some pSSL) fd :: .sslNew (some ctx) pSSL :: loaded) after) :
    after.Sound := by
  have live : ctx ∈ loaded.contexts := by
    rw [(loaded_views files).1]
    exact Finset.mem_insert_self _ _
  exact (sound.loads fresh files).shaken live freshSession shakes calls

end Handshake

theorem contexts_shutdown (earlier : Trace) (pSSL ctx : Nat) :
    contexts (.sslCtxFree (some ctx) :: .sslFree (some pSSL) :: .sslShutdown (some pSSL) ::
      earlier) = earlier.contexts.erase ctx := rfl

theorem sessions_shutdown (earlier : Trace) (pSSL : Nat) (ctx : Option Nat) :
    sessions (.sslCtxFree ctx :: .sslFree (some pSSL) :: .sslShutdown (some pSSL) ::
      earlier) = earlier.sessions.erase pSSL := rfl

/-- A session and its context are shut down together. -/
theorem Sound.shutdown (sound : before.Sound) {pSSL : Nat} {ctx : Option Nat}
    (live : pSSL ∈ before.sessions) (liveContext : ∀ handle, ctx = some handle →
      handle ∈ before.contexts) :
    Sound (.sslCtxFree ctx :: .sslFree (some pSSL) :: .sslShutdown (some pSSL) :: before) := by
  refine ⟨⟨live, live, sound.sessions⟩, ?_⟩
  cases ctx with
  | none => exact sound.contexts
  | some handle => exact ⟨liveContext handle rfl, sound.contexts⟩

end Trace

end SocketCpp
