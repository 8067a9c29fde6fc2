import SocketCpp.TCPClient

namespace SocketCpp

open Data

/-! What one `Connect` of a `CTCPClient` does to its descriptors. -/

def Call.Dials : Call → Prop
  | .oLog _ | .getaddrinfo .. | .freeaddrinfo _ | .socket .. | .connect .. | .close _ => True
  | _ => False

theorem Call.Dials.layer_ne {call : Call} (dials : call.Dials) : call.layer ≠ .openssl := by
  cases call <;> first | exact dials.elim | simp [Call.layer]

/-- The calls around a resolution, which concern no descriptor. -/
def Call.Resolves : Call → Prop
  | .oLog _ | .getaddrinfo .. | .freeaddrinfo _ => True
  | _ => False

theorem Call.Resolves.dials {call : Call} (resolves : call.Resolves) : call.Dials := by
  cases call <;> first | exact resolves.elim | trivial

theorem Call.Resolves.quiet {call : Call} (resolves : call.Resolves) : call.socketEvents = [] := by
  cases call <;> first | exact resolves.elim | rfl

def AddrAttempt.Succeeds (attempt : AddrAttempt) : Prop :=
  attempt.socket.isSome ∧ 0 ≤ attempt.connect

/-- The attempt got a descriptor and was refused, so that the descriptor was closed. -/
def AddrAttempt.Refused (attempt : AddrAttempt) : Prop :=
  attempt.socket.isSome ∧ attempt.connect < 0

/-- The resolution works and some entry of its list gets a connection. -/
def Resolution.Reaches (resolution : Resolution) : Prop :=
  resolution.code = 0 ∧ ∃ attempt ∈ resolution.attempts, attempt.Succeeds

/-- No entry of the list gets a connection, and the last one is refused. -/
def Resolution.RefusedLast (resolution : Resolution) : Prop :=
  resolution.code = 0 ∧ (∀ attempt ∈ resolution.attempts, ¬ attempt.Succeeds) ∧
    ∃ last ∈ resolution.attempts.getLast?, last.Refused

instance (attempt : AddrAttempt) : Decidable attempt.Succeeds :=
  inferInstanceAs (Decidable (_ ∧ _))

instance (attempt : AddrAttempt) : Decidable attempt.Refused :=
  inferInstanceAs (Decidable (_ ∧ _))

namespace CTCPClient

/-- What the loop over the address list does. -/
structure Dialed (client : CTCPClient) (attempts : List AddrAttempt) (trace : Trace)
    (result : Result CTCPClient Bool) : Prop where
  flags : result.self.eSettingsFlags = client.eSettingsFlags
  list : result.self.pResultAddrInfo = client.pResultAddrInfo
  value : result.value = true ↔ ∃ attempt ∈ attempts, attempt.Succeeds
  calls : Extends Call.Dials trace result.trace
  connected : result.value = true →
    result.self.eStatus = .connected ∧
      result.self.connectSocket ∈ result.trace.sockets ∧
      ∃ identity, result.trace.connection result.self.connectSocket = some identity ∧
        trace.socketClock ≤ identity
  failed : result.value = false →
    result.self.eStatus = client.eStatus ∧ result.trace.sockets = trace.sockets ∧
      match attempts.getLast? with
      | none => result.self.connectSocket = client.connectSocket
      | some last =>
          (last.socket = none → result.self.connectSocket = invalidSocket) ∧
            (last.socket.isSome → 0 ≤ result.self.connectSocket ∧
              result.self.connectSocket ∉ trace.sockets)

theorem Dialed.skip {client moved : CTCPClient} {attempt : AddrAttempt}
    {rest : List AddrAttempt} {trace later : Trace} {result : Result CTCPClient Bool}
    (dialed : moved.Dialed rest later result)
    (flags : moved.eSettingsFlags = client.eSettingsFlags)
    (list : moved.pResultAddrInfo = client.pResultAddrInfo)
    (status : moved.eStatus = client.eStatus) (sockets : later.sockets = trace.sockets)
    (calls : Extends Call.Dials trace later) (fails : ¬ attempt.Succeeds)
    (none : attempt.socket = none → moved.connectSocket = invalidSocket)
    (some : attempt.socket.isSome → 0 ≤ moved.connectSocket ∧
      moved.connectSocket ∉ trace.sockets) :
    client.Dialed (attempt :: rest) trace result where
  flags := dialed.flags.trans flags
  list := dialed.list.trans list
  value := by
    rw [dialed.value]
    simp [fails]
  calls := calls.trans dialed.calls
  connected := by
    intro succeeded
    obtain ⟨connected, isOpen, identity, found, later_le⟩ := dialed.connected succeeded
    exact ⟨connected, isOpen, identity, found,
      Nat.le_trans (Trace.socketClock_mono calls) later_le⟩
  failed := by
    intro failed
    obtain ⟨unchanged, same, last⟩ := dialed.failed failed
    refine ⟨unchanged.trans status, same.trans sockets, ?_⟩
    rw [sockets] at last
    cases final : rest.getLast? with
    | none =>
        rw [final] at last
        rw [List.getLast?_eq_none_iff.mp final]
        simp only at last
        simp only [List.getLast?_singleton, last]
        exact ⟨none, some⟩
    | some finalAttempt =>
        rw [final] at last
        simpa only [List.getLast?_cons, final, Option.getD_some] using last

theorem tryAddresses_dialed (client : CTCPClient) (attempts : List AddrAttempt) (trace : Trace) :
    client.Dialed attempts trace (client.tryAddresses attempts trace) := by
  induction attempts generalizing client trace with
  | nil =>
      refine ⟨rfl, rfl, by simp [tryAddresses], Extends.refl _ _, by simp [tryAddresses], ?_⟩
      intro _
      exact ⟨rfl, rfl, rfl⟩
  | cons attempt rest ih =>
      have created := (Extends.refl Call.Dials trace).cons
        (.socket attempt.entry.aiFamily attempt.entry.aiSocktype attempt.entry.aiProtocol
          (trace.newSocket attempt.socket)) trivial
      simp only [tryAddresses]
      cases answer : attempt.socket with
      | none =>
          have negative : trace.newSocket none < 0 := show invalidSocket < 0 by decide
          rw [answer] at created
          rw [if_pos negative]
          refine (ih _ _).skip rfl rfl rfl
            (Trace.sockets_socket_failed trace _ _ _ negative) created ?_ ?_ ?_
          · simp [AddrAttempt.Succeeds, answer]
          · intro _
            rfl
          · simp [answer]
      | some named =>
          have valid := trace.newSocket_some_nonneg named
          have fresh := trace.newSocket_some_not_mem named
          rw [answer] at created
          rw [if_neg (Int.not_lt.mpr valid)]
          have tried := created.cons
            (.connect (trace.newSocket (some named)) attempt.entry.aiAddr attempt.connect) trivial
          by_cases accepted : 0 ≤ attempt.connect
          · rw [if_pos accepted]
            refine ⟨rfl, rfl, ?_, tried, ?_, by simp⟩
            · simp [AddrAttempt.Succeeds, answer, accepted]
            · intro _
              refine ⟨rfl, ?_, trace.socketClock, ?_, Nat.le_refl _⟩
              · simp only [Trace.sockets_connect, Trace.sockets_socket trace _ _ _ valid]
                exact Finset.mem_insert_self _ _
              · rw [Trace.connection_connect, Trace.connection_socket trace _ _ _ valid]
          · rw [if_neg accepted]
            have closed := tried.cons (.close (trace.newSocket (some named))) trivial
            refine (ih _ _).skip rfl rfl rfl ?_ closed ?_ ?_ ?_
            · rw [Trace.sockets_close, Trace.sockets_connect,
                Trace.sockets_socket trace _ _ _ valid, Finset.erase_insert fresh]
            · simp [AddrAttempt.Succeeds, accepted]
            · simp [answer]
            · intro _
              exact ⟨valid, fresh⟩

theorem freeAddrInfo_calls (client : CTCPClient) (trace : Trace) :
    Extends Call.Resolves trace (client.freeAddrInfo trace).trace := by
  have start := Extends.refl Call.Resolves trace
  simp only [freeAddrInfo]
  split
  · exact start.cons (.freeaddrinfo client.pResultAddrInfo) trivial
  · exact start

theorem freeAddrInfo_self (client : CTCPClient) (trace : Trace) :
    (client.freeAddrInfo trace).self.eSettingsFlags = client.eSettingsFlags ∧
      (client.freeAddrInfo trace).self.eStatus = client.eStatus ∧
      (client.freeAddrInfo trace).self.connectSocket = client.connectSocket := by
  simp only [freeAddrInfo]
  split <;> exact ⟨rfl, rfl, rfl⟩

/-- What `Connect` does from the resolution on. -/
structure Connects (client : CTCPClient) (resolution : Resolution) (trace : Trace)
    (result : Result CTCPClient Bool) : Prop where
  flags : result.self.eSettingsFlags = client.eSettingsFlags
  value : result.value = true ↔ resolution.Reaches
  calls : Extends Call.Dials trace result.trace
  connected : result.value = true →
    result.self.eStatus = .connected ∧
      result.self.connectSocket ∈ result.trace.sockets ∧
      ∃ identity, result.trace.connection result.self.connectSocket = some identity ∧
        trace.socketClock ≤ identity
  failed : result.value = false →
    result.self.eStatus = client.eStatus ∧ result.trace.sockets = trace.sockets ∧
      (resolution.RefusedLast → 0 ≤ result.self.connectSocket ∧
        result.self.connectSocket ∉ trace.sockets) ∧
      (¬ resolution.RefusedLast → result.self.connectSocket = client.connectSocket ∨
        result.self.connectSocket = invalidSocket)

theorem Dialed.left {client : CTCPClient} {resolution : Resolution} {trace : Trace}
    {result : Result CTCPClient Bool} (dialed : client.Dialed resolution.attempts trace result)
    (resolved : resolution.code = 0) (failed : result.value = false) :
    (resolution.RefusedLast → 0 ≤ result.self.connectSocket ∧
      result.self.connectSocket ∉ trace.sockets) ∧
    (¬ resolution.RefusedLast → result.self.connectSocket = client.connectSocket ∨
      result.self.connectSocket = invalidSocket) := by
  have none : ∀ attempt ∈ resolution.attempts, ¬ attempt.Succeeds := by
    intro attempt member succeeds
    have value := dialed.value.mpr ⟨attempt, member, succeeds⟩
    rw [failed] at value
    cases value
  have left := (dialed.failed failed).2.2
  cases found : resolution.attempts.getLast? with
  | none =>
      rw [found] at left
      refine ⟨?_, fun _ => .inl left⟩
      rintro ⟨-, -, last, member, -⟩
      rw [found] at member
      cases member
  | some last =>
      rw [found] at left
      have member := List.mem_of_getLast? found
      refine ⟨?_, ?_⟩
      · rintro ⟨-, -, other, isLast, refused⟩
        rw [found] at isLast
        cases isLast
        exact left.2 refused.1
      · intro notRefused
        cases answer : last.socket with
        | none => exact .inr (left.1 answer)
        | some named =>
            have created : last.socket.isSome := by rw [answer]; rfl
            have refused : last.connect < 0 :=
              Int.not_le.mp fun accepted => none last member ⟨created, accepted⟩
            exact absurd ⟨resolved, none, last, found, created, refused⟩ notRefused

theorem resolveAndConnect_connects (client : CTCPClient) (strServer strPort : String)
    (resolution : Resolution) (trace : Trace) :
    client.Connects resolution trace
      (client.resolveAndConnect strServer strPort resolution trace) := by
  have asks (list : Option Nat) : Extends Call.Resolves trace
      (.getaddrinfo strServer strPort afInet sockStream resolution.code list :: trace) :=
    (Extends.refl _ trace).cons
      (.getaddrinfo strServer strPort afInet sockStream resolution.code list) trivial
  simp only [resolveAndConnect]
  by_cases unresolved : resolution.code ≠ 0
  · rw [if_pos unresolved]
    have logged := Trace.oLog_extends (asks none) client.eSettingsFlags
      ("[TCPClient][Error] getaddrinfo failed : " ++ resolution.reason) trivial
    have resolves := logged.trans (client.freeAddrInfo_calls _)
    obtain ⟨flags, status, socket⟩ := client.freeAddrInfo_self
      (Trace.oLog (.getaddrinfo strServer strPort afInet sockStream resolution.code none :: trace)
        client.eSettingsFlags ("[TCPClient][Error] getaddrinfo failed : " ++ resolution.reason))
    have sockets := Trace.sockets_of_quiet (resolves.mono fun _ => Call.Resolves.quiet)
    refine ⟨flags, ?_, resolves.mono fun _ => Call.Resolves.dials, by simp, ?_⟩
    · simp only [Bool.false_eq_true, false_iff]
      exact fun reaches => unresolved reaches.1
    · intro _
      exact ⟨status, sockets, fun refused => absurd refused.1 unresolved, fun _ => .inl socket⟩
  · rw [if_neg unresolved]
    have resolved : resolution.code = 0 := not_not.mp unresolved
    generalize some (trace.newList resolution.list) = list
    have asked := asks list
    have dialed := tryAddresses_dialed { client with pResultAddrInfo := list } resolution.attempts
      (.getaddrinfo strServer strPort afInet sockStream resolution.code list :: trace)
    generalize tryAddresses { client with pResultAddrInfo := list } resolution.attempts
      (.getaddrinfo strServer strPort afInet sockStream resolution.code list :: trace) = tried
      at dialed ⊢
    have frees := tried.self.freeAddrInfo_calls tried.trace
    obtain ⟨flags, status, socket⟩ := tried.self.freeAddrInfo_self tried.trace
    have before := Trace.sockets_of_quiet (asked.mono fun _ => Call.Resolves.quiet)
    have dials := (asked.mono fun _ => Call.Resolves.dials).trans dialed.calls
    cases value : tried.value with
    | true =>
        rw [if_pos rfl]
        obtain ⟨connected, isOpen, identity, found, later⟩ := dialed.connected value
        have quiet := frees.mono fun _ => Call.Resolves.quiet
        refine ⟨flags.trans dialed.flags, ?_, dials.trans (frees.mono fun _ => Call.Resolves.dials),
          ?_, by simp⟩
        · have some := dialed.value.mp value
          exact ⟨fun _ => ⟨resolved, some⟩, fun _ => rfl⟩
        · intro _
          refine ⟨status.trans connected, ?_, identity, ?_, ?_⟩
          · rw [socket, Trace.sockets_of_quiet quiet]
            exact isOpen
          · rw [socket, Trace.connection_of_quiet quiet]
            exact found
          · exact Nat.le_trans (Trace.socketClock_mono asked) later
    | false =>
        rw [if_neg Bool.false_ne_true]
        obtain ⟨unchanged, same, -⟩ := dialed.failed value
        have left := dialed.left resolved value
        have logs := Trace.oLog_extends frees client.eSettingsFlags
          "[TCPClient][Error] no such host." trivial
        refine ⟨flags.trans dialed.flags, ?_, dials.trans (logs.mono fun _ => Call.Resolves.dials),
          by simp, ?_⟩
        · simp only [Bool.false_eq_true, false_iff]
          intro reaches
          have some := dialed.value.mpr reaches.2
          rw [value] at some
          cases some
        · intro _
          rw [before] at left
          refine ⟨status.trans unchanged, ?_, ?_, ?_⟩
          · rw [Trace.sockets_of_quiet (logs.mono fun _ => Call.Resolves.quiet), same, before]
          · rw [socket]
            exact left.1
          · rw [socket]
            exact left.2

structure HungUp (client : CTCPClient) (trace : Trace) (state : State CTCPClient) : Prop where
  flags : state.self.eSettingsFlags = client.eSettingsFlags
  status : state.self.eStatus = .disconnected
  calls : Extends Call.Dials trace state.trace
  closed : client.eStatus = .connected → state.self.connectSocket = invalidSocket ∧
    state.trace.sockets = trace.sockets.erase client.connectSocket
  idle : client.eStatus = .disconnected → state = { self := client, trace }

theorem hangUp_hungUp (client : CTCPClient) (trace : Trace) :
    client.HungUp trace (client.hangUp trace) := by
  cases status : client.eStatus with
  | connected =>
      have closes := (Extends.refl Call.Dials trace).cons (.close client.connectSocket) trivial
      have logs := Trace.oLog_extends (Extends.refl Call.Resolves
          (.close client.connectSocket :: trace)) client.eSettingsFlags
        ("[TCPClient][Warning] Opening a new connexion. " ++
          "The last one was automatically closed.") trivial
      have hangsUp : client.hangUp trace =
          { self := { client with eStatus := .disconnected, connectSocket := invalidSocket }
            trace := Trace.oLog (.close client.connectSocket :: trace) client.eSettingsFlags
              ("[TCPClient][Warning] Opening a new connexion. " ++
                "The last one was automatically closed.") } := by
        simp [hangUp, disconnect, status]
      rw [hangsUp]
      refine ⟨rfl, rfl, closes.trans (logs.mono fun _ => Call.Resolves.dials), fun _ => ⟨rfl, ?_⟩,
        fun idle => ?_⟩
      · rw [Trace.sockets_of_quiet (logs.mono fun _ => Call.Resolves.quiet), Trace.sockets_close]
      · rw [status] at idle
        cases idle
  | disconnected =>
      have stays : client.hangUp trace = { self := client, trace } := by simp [hangUp, status]
      rw [stays]
      refine ⟨rfl, status, Extends.refl _ _, fun connected => ?_, fun _ => rfl⟩
      rw [status] at connected
      cases connected

theorem hangUp_closes (client : CTCPClient) (connected : client.eStatus = .connected)
    (trace : Trace) :
    Extends Call.Resolves (.close client.connectSocket :: trace) (client.hangUp trace).trace := by
  have logs := Trace.oLog_extends (Extends.refl Call.Resolves
      (.close client.connectSocket :: trace)) client.eSettingsFlags
    ("[TCPClient][Warning] Opening a new connexion. " ++
      "The last one was automatically closed.") trivial
  simp only [hangUp, disconnect, if_pos connected, if_neg (not_not.mpr connected)]
  exact logs

theorem connect_connects (client : CTCPClient) (strServer strPort : String)
    (resolution : Resolution) (trace : Trace) :
    (client.hangUp trace).self.Connects resolution (client.hangUp trace).trace
      (client.connect strServer strPort resolution trace) :=
  resolveAndConnect_connects _ strServer strPort resolution _

theorem connect_calls (client : CTCPClient) (strServer strPort : String)
    (resolution : Resolution) (trace : Trace) :
    Extends Call.Dials trace (client.connect strServer strPort resolution trace).trace :=
  (client.hangUp_hungUp trace).calls.trans
    (client.connect_connects strServer strPort resolution trace).calls

theorem connect_status (client : CTCPClient) (strServer strPort : String)
    (resolution : Resolution) (trace : Trace) :
    (client.connect strServer strPort resolution trace).self.eStatus =
      if (client.connect strServer strPort resolution trace).value then .connected
      else .disconnected := by
  have connects := client.connect_connects strServer strPort resolution trace
  cases value : (client.connect strServer strPort resolution trace).value with
  | true => exact (connects.connected value).1
  | false => exact (connects.failed value).1.trans (client.hangUp_hungUp trace).status

/-! What `Connect` keeps: a property of the trace that every attempt without success
keeps still holds in front of the attempt that succeeds. -/

/-- The calls of an attempt that gets a descriptor, up to its `connect`. -/
def attemptCalls (entry : AddrInfo) (fd : Socket) (iConRet : Int) (earlier : Trace) : Trace :=
  .connect fd entry.aiAddr iConRet ::
    .socket entry.aiFamily entry.aiSocktype entry.aiProtocol fd :: earlier

section Rules

variable {good : Trace → Prop}
  (failed : ∀ (entry : AddrInfo) earlier, good earlier →
    good (.socket entry.aiFamily entry.aiSocktype entry.aiProtocol invalidSocket :: earlier))
  (refused : ∀ entry named iConRet earlier, good earlier →
    good (.close (Trace.newSocket earlier (some named)) ::
      attemptCalls entry (Trace.newSocket earlier (some named)) iConRet earlier))

include failed refused

theorem tryAddresses_rule (client : CTCPClient) (attempts : List AddrAttempt) {trace : Trace}
    (start : good trace) :
    ((client.tryAddresses attempts trace).value = false →
      good (client.tryAddresses attempts trace).trace) ∧
    ((client.tryAddresses attempts trace).value = true →
      ∃ entry named iConRet earlier, good earlier ∧
        (client.tryAddresses attempts trace).self.connectSocket =
          Trace.newSocket earlier (some named) ∧
        (client.tryAddresses attempts trace).trace =
          attemptCalls entry (Trace.newSocket earlier (some named)) iConRet earlier) := by
  induction attempts generalizing client trace with
  | nil => exact ⟨fun _ => start, fun succeeded => (by cases succeeded)⟩
  | cons attempt rest ih =>
      simp only [tryAddresses]
      cases answer : attempt.socket with
      | none =>
          have negative : trace.newSocket none < 0 := show invalidSocket < 0 by decide
          rw [if_pos negative]
          exact ih _ (failed attempt.entry trace start)
      | some named =>
          have valid := trace.newSocket_some_nonneg named
          rw [if_neg (Int.not_lt.mpr valid)]
          by_cases accepted : 0 ≤ attempt.connect
          · rw [if_pos accepted]
            exact ⟨fun refusal => (by cases refusal),
              fun _ => ⟨attempt.entry, named, attempt.connect, trace, start, rfl, rfl⟩⟩
          · rw [if_neg accepted]
            exact ih _ (refused attempt.entry named attempt.connect trace start)

theorem resolveAndConnect_rule
    (resolves : ∀ call earlier, Call.Resolves call → good earlier → good (call :: earlier))
    (client : CTCPClient) (strServer strPort : String) (resolution : Resolution) {trace : Trace}
    (start : good trace) :
    ((client.resolveAndConnect strServer strPort resolution trace).value = false →
      good (client.resolveAndConnect strServer strPort resolution trace).trace) ∧
    ((client.resolveAndConnect strServer strPort resolution trace).value = true →
      ∃ entry named iConRet earlier, good earlier ∧
        (client.resolveAndConnect strServer strPort resolution trace).self.connectSocket =
          Trace.newSocket earlier (some named) ∧
        Extends Call.Resolves
          (attemptCalls entry (Trace.newSocket earlier (some named)) iConRet earlier)
          (client.resolveAndConnect strServer strPort resolution trace).trace) := by
  have asks (list : Option Nat) : good
      (.getaddrinfo strServer strPort afInet sockStream resolution.code list :: trace) :=
    resolves _ trace trivial start
  simp only [resolveAndConnect]
  by_cases unresolved : resolution.code ≠ 0
  · rw [if_pos unresolved]
    have logged := Trace.oLog_extends (Extends.refl Call.Resolves
      (.getaddrinfo strServer strPort afInet sockStream resolution.code none :: trace))
      client.eSettingsFlags ("[TCPClient][Error] getaddrinfo failed : " ++ resolution.reason)
      trivial
    have frees := logged.trans (client.freeAddrInfo_calls _)
    exact ⟨fun _ => frees.keeps (asks none) resolves, fun succeeded => (by cases succeeded)⟩
  · rw [if_neg unresolved]
    generalize some (trace.newList resolution.list) = list
    have tried := tryAddresses_rule failed refused { client with pResultAddrInfo := list }
      resolution.attempts (asks list)
    generalize tryAddresses { client with pResultAddrInfo := list } resolution.attempts
      (.getaddrinfo strServer strPort afInet sockStream resolution.code list :: trace) = loop
      at tried ⊢
    have frees := loop.self.freeAddrInfo_calls loop.trace
    cases value : loop.value with
    | true =>
        rw [if_pos rfl]
        obtain ⟨entry, named, iConRet, earlier, kept, socket, calls⟩ := tried.2 value
        have same := (loop.self.freeAddrInfo_self loop.trace).2.2
        refine ⟨fun failure => (by cases failure), fun _ =>
          ⟨entry, named, iConRet, earlier, kept, same.trans socket, ?_⟩⟩
        rw [← calls]
        exact frees
    | false =>
        rw [if_neg Bool.false_ne_true]
        have logs := Trace.oLog_extends frees client.eSettingsFlags
          "[TCPClient][Error] no such host." trivial
        exact ⟨fun _ => logs.keeps (tried.1 value) resolves, fun succeeded => (by cases succeeded)⟩

theorem connect_rule
    (resolves : ∀ call earlier, Call.Resolves call → good earlier → good (call :: earlier))
    (client : CTCPClient) (strServer strPort : String) (resolution : Resolution) {trace : Trace}
    (idle : client.eStatus = .disconnected → good trace)
    (closes : client.eStatus = .connected → good (.close client.connectSocket :: trace)) :
    ((client.connect strServer strPort resolution trace).value = false →
      good (client.connect strServer strPort resolution trace).trace) ∧
    ((client.connect strServer strPort resolution trace).value = true →
      ∃ entry named iConRet earlier, good earlier ∧
        (client.connect strServer strPort resolution trace).self.connectSocket =
          Trace.newSocket earlier (some named) ∧
        Extends Call.Resolves
          (attemptCalls entry (Trace.newSocket earlier (some named)) iConRet earlier)
          (client.connect strServer strPort resolution trace).trace) := by
  have hungUp : good (client.hangUp trace).trace := by
    cases status : client.eStatus with
    | connected => exact (client.hangUp_closes status trace).keeps (closes status) resolves
    | disconnected =>
        rw [(client.hangUp_hungUp trace).idle status]
        exact idle status
  exact resolveAndConnect_rule failed refused resolves _ strServer strPort resolution hungUp

end Rules

/-! What the other methods call. -/

theorem disconnect_calls (client : CTCPClient) (trace : Trace) :
    Extends Call.Dials trace (client.disconnect trace).trace := by
  have start := Extends.refl Call.Dials trace
  simp only [disconnect]
  split
  · exact start
  · exact start.cons (.close client.connectSocket) trivial

theorem send_calls (client : CTCPClient) (pData : Option (Buffer UInt8)) (uSize : Nat)
    (script : List SendAnswer) (trace : Trace) :
    Extends (Call.Transfers client.connectSocket) trace
      (sentTrace (client.send pData uSize script trace)) := by
  have start := Extends.refl (Call.Transfers client.connectSocket) trace
  have runs := CallLoop.run_extends SendState.trace (fun result : Sent => result.trace)
    (fun state answer => sendTurn_extends client.eSettingsFlags uSize client.connectSocket
      "[TCPClient][Error] Socket error in call to send." state answer) (.start trace) script
  simp only [send, sendEntry]
  split_ifs
  · exact start
  · exact Trace.oLog_extends start _ _ trivial
  · exact runs

theorem receive_calls (client : CTCPClient) (pData : Option (Buffer UInt8)) (uSize : Nat)
    (bReadFully : Bool) (script : List RecvAnswer) (trace : Trace) :
    Extends (Call.Transfers client.connectSocket) trace
      (receivedTrace (client.receive pData uSize bReadFully script trace)) := by
  have start := Extends.refl (Call.Transfers client.connectSocket) trace
  have runs := CallLoop.run_extends ReceiveState.trace (fun result : Received => result.trace)
    (fun state answer => recvTurn_extends uSize client.connectSocket bReadFully state answer)
    (.start pData trace) script
  simp only [receive, receiveEntry]
  split_ifs
  · exact start
  · exact Trace.oLog_extends start _ _ trivial
  · exact runs

def loopbackEntry : AddrInfo where
  aiFamily := afInet
  aiSocktype := sockStream
  aiProtocol := 0
  aiAddr := { sinFamily := afInet, sinAddr := 2130706433, sinPort := 80 }

def oneAddress (iConRet : Int) : Resolution where
  code := 0
  reason := ""
  list := 1
  attempts := [{ entry := loopbackEntry, socket := some 3, connect := iConRet }]

end CTCPClient

end SocketCpp
