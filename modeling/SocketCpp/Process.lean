import SocketCpp.Data.Sharing
import SocketCpp.Process.Servers

namespace SocketCpp

open Data

/-! Several clients and servers in one process.

Each of them is a run of its own up to its destructor, and their calls interleave in
any order.  They share the descriptors of the process and the objects of OpenSSL, which
give out no handle that is in use. -/

/-- An object of the process with all that is done to it.  The timeouts and the files of a
secure one are set in between. -/
inductive Component where
  | client (eSettings : SettingsFlag) (operations : List CTCPClient.Op)
  | secureClient (secure : ASecureSocket) (operations : List CTCPSSLClient.Request)
  | server (strPort : String) (eSettings : SettingsFlag) (operations : List CTCPServer.Request)
  | secureServer (strPort : String) (secure : ASecureSocket)
      (operations : List ServerPool.Request)

namespace Component

/-- All calls of the object, up to its destructor. -/
def trace : Component → Trace
  | client eSettings operations =>
      let last := operations.foldl CTCPClient.step (CTCPClient.init eSettings)
      (last.self.destroy last.trace).trace
  | secureClient secure operations =>
      let last := operations.foldl CTCPSSLClient.request (CTCPSSLClient.init secure)
      (last.self.destroy last.trace).trace
  | server strPort eSettings operations =>
      let last := operations.foldl CTCPServer.serve (CTCPServer.init strPort eSettings)
      (last.self.destroy last.trace).trace
  | secureServer strPort secure operations =>
      let last := operations.foldl ServerPool.request (ServerPool.init (.new strPort secure))
      (last.server.destroy last.trace).trace

/-- What the program owes to the servers: it uses and disconnects only clients that they
have accepted and that it has not disconnected before. -/
def Respects : Component → Prop
  | client .. | secureClient .. => True
  | server strPort eSettings operations =>
      Runs.Steps CTCPServer.serve (fun state request => request.Respects state)
        (CTCPServer.init strPort eSettings) operations
  | secureServer strPort secure operations =>
      Runs.Steps ServerPool.request (fun pool request => request.Respects pool)
        (ServerPool.init (.new strPort secure)) operations

/-- A timeout is set through a client only while it is connected or has no descriptor, and
through a server only for a client that it has open. -/
def SetsOpen : Component → Prop
  | client eSettings operations =>
      Runs.Steps CTCPClient.step (fun state op => op.SetsOpen state) (CTCPClient.init eSettings)
        operations
  | secureClient secure operations =>
      Runs.Steps CTCPSSLClient.request (fun state request => request.SetsOpen state)
        (CTCPSSLClient.init secure) operations
  | server strPort eSettings operations =>
      Runs.Steps CTCPServer.serve (fun state request => request.SetsOpen state)
        (CTCPServer.init strPort eSettings) operations
  | secureServer strPort secure operations =>
      Runs.Steps ServerPool.request (fun pool request => request.SetsOpen pool)
        (ServerPool.init (.new strPort secure)) operations

def IsClient : Component → Prop
  | client .. | secureClient .. => True
  | server .. | secureServer .. => False

/-- The destructor of a client leaves nothing open. -/
theorem vacant (component : Component) (isClient : component.IsClient)
    (sets : component.SetsOpen) : component.trace.Vacant true := by
  cases component with
  | client eSettings operations =>
      have keeps := fun state op (usage : CTCPClient.Using true (State.self state) state.trace)
        (sets : CTCPClient.Op.SetsOpen state op) => CTCPClient.using_step usage fun _ => sets
      exact CTCPClient.using_destroy
        (Runs.always_of_invariant keeps (CTCPClient.using_new _ rfl) sets).last
  | secureClient secure operations =>
      have keeps := fun state request
        (usage : CTCPClient.Using true (CTCPSSLClient.tcpClient (State.self state)) state.trace)
        (sets : CTCPSSLClient.Request.SetsOpen state request) =>
          CTCPSSLClient.tcp_using_request usage fun _ => sets
      exact CTCPSSLClient.vacant_destroy
        (Runs.always_of_invariant keeps (CTCPClient.using_new _ rfl) sets).last
  | server | secureServer => exact isClient.elim

theorem proper (component : Component) (respects : component.Respects)
    (sets : component.SetsOpen) : component.trace.Proper true := by
  cases component with
  | client eSettings operations => exact (vacant (.client eSettings operations) trivial sets).proper
  | secureClient secure operations =>
      exact (vacant (.secureClient secure operations) trivial sets).proper
  | server strPort eSettings operations =>
      have keeps := fun state request
        (attends : CTCPServer.Attends true (State.self state) state.trace)
        (allowed : CTCPServer.Request.Respects state request ∧
          CTCPServer.Request.SetsOpen state request) =>
            CTCPServer.attends_serve attends allowed.1 fun _ => allowed.2
      exact CTCPServer.proper_destroy (Runs.always_of_invariant keeps
        (CTCPServer.attends_init strPort eSettings) (Runs.steps_and respects sets)).last
  | secureServer strPort secure operations =>
      have keeps := fun pool request (attended : ServerPool.Attended true pool)
        (allowed : ServerPool.Request.Respects pool request ∧
          ServerPool.Request.SetsOpen pool request) =>
            ServerPool.attended_request attended allowed.1 fun _ => allowed.2
      exact CTCPServer.proper_destroy (Runs.always_of_invariant keeps
        (ServerPool.attended_init strPort secure) (Runs.steps_and respects sets)).last.attends

/-- No object of OpenSSL is freed twice or used after it was freed. -/
theorem sound (component : Component) : component.trace.Sound := by
  have nothing : Trace.Sound [] := ⟨trivial, trivial⟩
  cases component with
  | client eSettings operations =>
      have keeps := fun state op (sound : Trace.Sound (State.trace state)) =>
        sound.of_layer (CTCPClient.step_offOpenssl state op)
      have last := @Runs.foldl_of_inductive _ _ _ (fun state : State CTCPClient => state.trace.Sound)
        keeps (CTCPClient.init eSettings) nothing operations
      rw [trace, CTCPClient.destroy_eq_disconnect]
      exact last.of_layer ((CTCPClient.disconnect_calls ..).mono fun _ => Call.Dials.layer_ne)
  | secureClient secure operations =>
      have keeps := fun state request (held : CTCPSSLClient.Held state) =>
        CTCPSSLClient.held_request held request
      have last := Runs.foldl_of_inductive keeps (CTCPSSLClient.held_init secure) operations
      rw [trace, CTCPSSLClient.destroy_trace]
      exact (CTCPSSLClient.held_disconnect last).sound
  | server strPort eSettings operations =>
      have keeps := fun state request (sound : Trace.Sound (State.trace state)) =>
        sound.of_layer (CTCPServer.serve_offOpenssl state request)
      have last := @Runs.foldl_of_inductive _ _ _ (fun state : State CTCPServer => state.trace.Sound)
        keeps (CTCPServer.init strPort eSettings) nothing operations
      exact last.of_layer (Extends.cons_iff.mpr (by simp [Call.layer]))
  | secureServer strPort secure operations =>
      have keeps := fun pool request (owns : ServerPool.OwnsObjects pool) =>
        ServerPool.owns_objects_request owns request
      have last := Runs.foldl_of_inductive keeps (ServerPool.owns_init (.new strPort secure))
        operations
      exact last.sound.of_layer (Extends.cons_iff.mpr (by simp [Call.layer]))

end Component

namespace Process

variable {ι : Type} [DecidableEq ι] {components : ι → Component} {history : List (ι × Call)}

/-- The same for the objects of OpenSSL, whatever the program does with its servers. -/
theorem objects_apart
    (parts : ∀ owner, Ledger.callsOf owner history <:+ (components owner).trace)
    (sessions : Ledger.Provided Call.sessionEvents history)
    (contexts : Ledger.Provided Call.contextEvents history) :
    (Ledger.Apart Call.sessionEvents history ∧ Ledger.Apart Call.contextEvents history) ∧
      Ledger.Disciplined (Ledger.entries (fun entry : ι × Call => entry.2.sessionEvents) history) ∧
      Ledger.Disciplined
        (Ledger.entries (fun entry : ι × Call => entry.2.contextEvents) history) := by
  have split (owner : ι) : Trace.Sound (Ledger.callsOf owner history) := by
    obtain ⟨later, whole⟩ := parts owner
    have sound := (components owner).sound
    rw [← whole] at sound
    have sessions := sound.sessions
    have contexts := sound.contexts
    rw [Ledger.entries_append] at sessions contexts
    exact ⟨Each.of_append sessions, Each.of_append contexts⟩
  obtain ⟨apartSessions, disciplinedSessions, -⟩ :=
    Ledger.shared (fun owner => (split owner).sessions) sessions
  obtain ⟨apartContexts, disciplinedContexts, -⟩ :=
    Ledger.shared (fun owner => (split owner).contexts) contexts
  exact ⟨⟨apartSessions, apartContexts⟩, disciplinedSessions, disciplinedContexts⟩

/-- Two secure clients of different numbers. -/
def securePair (left : Bool) : Component :=
  .secureClient
    { eSettingsFlags := .noFlags, eOpenSSLProtocol := .tls, strCAFile := ""
      strSSLCertFile := "", strSSLKeyFile := "" }
    [.op (.connect "localhost" "443"
      { CTCPClient.oneAddress 0 with
        attempts := [{ entry := CTCPClient.loopbackEntry, socket := some (if left then 3 else 4)
                       connect := 0 }] }
      { CTCPSSLClient.completedAnswers with
        ctxNew := some (if left then 1 else 11), sslNew := if left then 2 else 12 })]

/-- One of them comes and goes while the other one is connected. -/
def securePairHistory : List (Bool × Call) :=
  let calls := (securePair true).trace
  (calls.take 4).map (Prod.mk true) ++ (securePair false).trace.map (Prod.mk false) ++
    (calls.drop 4).map (Prod.mk true)

theorem objects_apart_two_sessions :
    securePairHistory.count (true, .sslFree (some 2)) = 1 ∧
      securePairHistory.count (false, .sslFree (some 12)) = 1 ∧
      Ledger.Apart Call.sessionEvents securePairHistory := by
  have sessions : Ledger.Provided Call.sessionEvents securePairHistory := by
    unfold Ledger.Provided
    decide
  have contexts : Ledger.Provided Call.contextEvents securePairHistory := by
    unfold Ledger.Provided
    decide
  have whole (owner : Bool) :
      Ledger.callsOf owner securePairHistory = (securePair owner).trace := by
    cases owner <;> decide
  have parts (owner : Bool) :
      Ledger.callsOf owner securePairHistory <:+ (securePair owner).trace := by
    rw [whole]
  exact ⟨by decide, by decide, (objects_apart parts sessions contexts).1.1⟩

end Process

end SocketCpp
