import SocketCpp.TCPClient.Connecting

namespace SocketCpp

open Data

/-! Which address of the list a `Connect` takes.

The calls of a `Connect` are the close of the old connection, the resolution, the
attempts in list order up to the first that succeeds, and the release of the list. -/

/-- The calls without the messages between them, oldest first. -/
def Trace.performed : Trace → List Call
  | [] => []
  | .oLog _ :: earlier => performed earlier
  | call :: earlier => performed earlier ++ [call]

/-- The calls of an attempt that `socket` answers with `fd`, oldest first. -/
def AddrAttempt.calls (attempt : AddrAttempt) (fd : Socket) : List Call :=
  .socket attempt.entry.aiFamily attempt.entry.aiSocktype attempt.entry.aiProtocol fd ::
    if attempt.socket = none then []
    else .connect fd attempt.entry.aiAddr attempt.connect ::
      if 0 ≤ attempt.connect then [] else [.close fd]

/-- Attempts made one after the other, each of them once. -/
inductive Tried : List AddrAttempt → List Call → Prop where
  | nil : Tried [] []
  | cons {attempt : AddrAttempt} {fd : Socket} {rest : List AddrAttempt} {calls : List Call}
      (created : 0 ≤ fd ↔ attempt.socket.isSome) (tried : Tried rest calls) :
      Tried (attempt :: rest) (attempt.calls fd ++ calls)

/-- The two ways through an address list: up to the first entry that gets a connection,
or past the last entry, which leaves the status as it was. -/
inductive FirstAddress (eStatus : SocketStatus) (attempts : List AddrAttempt) (calls : List Call)
    (result : Result CTCPClient Bool) : Prop where
  | connected (before after : List AddrAttempt) (first : AddrAttempt) (tried : List Call)
      (split : attempts = before ++ first :: after)
      (fails : ∀ attempt ∈ before, ¬ attempt.Succeeds) (succeeds : first.Succeeds)
      (valid : 0 ≤ result.self.connectSocket) (beforeTried : Tried before tried)
      (made : calls = tried ++ first.calls result.self.connectSocket)
      (status : result.self.eStatus = .connected) (value : result.value = true)
  | exhausted (fails : ∀ attempt ∈ attempts, ¬ attempt.Succeeds) (tried : Tried attempts calls)
      (status : result.self.eStatus = eStatus) (value : result.value = false)

namespace Trace

theorem performed_cons {call : Call} (acts : ¬ call.Logs) (earlier : Trace) :
    performed (call :: earlier) = performed earlier ++ [call] := by
  cases call <;> first | rfl | exact absurd trivial acts

theorem performed_oLog (trace : Trace) (flags : SettingsFlag) (message : String) :
    (trace.oLog flags message).performed = trace.performed := by
  unfold oLog
  split
  · rfl
  · rfl

end Trace

namespace FirstAddress

variable {eStatus : SocketStatus} {attempts : List AddrAttempt} {calls : List Call}
  {result : Result CTCPClient Bool}

theorem value_iff (first : FirstAddress eStatus attempts calls result) :
    result.value = true ↔ ∃ attempt ∈ attempts, attempt.Succeeds := by
  cases first with
  | connected before after first tried split fails succeeds valid beforeTried made status value =>
      refine iff_of_true value ⟨first, ?_, succeeds⟩
      rw [split]
      exact List.mem_append_right before List.mem_cons_self
  | exhausted fails tried status value =>
      rw [value]
      exact iff_of_false nofun fun ⟨attempt, member, succeeds⟩ => fails attempt member succeeds

/-- An attempt that fails goes in front of what the rest of the list does. -/
theorem skip {attempt : AddrAttempt} {fd : Socket}
    (first : FirstAddress eStatus attempts calls result)
    (created : 0 ≤ fd ↔ attempt.socket.isSome) (failed : ¬ attempt.Succeeds) :
    FirstAddress eStatus (attempt :: attempts) (attempt.calls fd ++ calls) result := by
  cases first with
  | connected before after first tried split fails succeeds valid beforeTried made connected value =>
      refine .connected (attempt :: before) after first (attempt.calls fd ++ tried) ?_ ?_ succeeds
        valid (.cons created beforeTried) ?_ connected value
      · rw [split, List.cons_append]
      · exact List.forall_mem_cons.mpr ⟨failed, fails⟩
      · rw [made, List.append_assoc]
  | exhausted fails tried status value =>
      exact .exhausted (List.forall_mem_cons.mpr ⟨failed, fails⟩) (.cons created tried) status value

/-- What follows the loop leaves the fields alone that it is about. -/
theorem of_same {other : Result CTCPClient Bool}
    (first : FirstAddress eStatus attempts calls result)
    (socket : other.self.connectSocket = result.self.connectSocket)
    (status : other.self.eStatus = result.self.eStatus) (value : other.value = result.value) :
    FirstAddress eStatus attempts calls other := by
  cases first with
  | connected before after first tried split fails succeeds valid beforeTried made connected isTrue =>
      rw [← socket] at valid made
      exact .connected before after first tried split fails succeeds valid beforeTried made
        (status.trans connected) (value.trans isTrue)
  | exhausted fails tried unchanged isFalse =>
      exact .exhausted fails tried (status.trans unchanged) (value.trans isFalse)

end FirstAddress

namespace CTCPClient

theorem tryAddresses_first (client : CTCPClient) (attempts : List AddrAttempt) (trace : Trace) :
    ∃ calls, (client.tryAddresses attempts trace).trace.performed = trace.performed ++ calls ∧
      FirstAddress client.eStatus attempts calls (client.tryAddresses attempts trace) := by
  induction attempts generalizing client trace with
  | nil => exact ⟨[], (List.append_nil _).symm, .exhausted nofun .nil rfl rfl⟩
  | cons attempt rest ih =>
      simp only [tryAddresses]
      cases answer : attempt.socket with
      | none =>
          have negative : trace.newSocket none < 0 := show invalidSocket < 0 by decide
          rw [if_pos negative]
          obtain ⟨calls, performed, first⟩ :=
            ih { client with connectSocket := trace.newSocket none } (.socket attempt.entry.aiFamily
              attempt.entry.aiSocktype attempt.entry.aiProtocol (trace.newSocket none) :: trace)
          refine ⟨attempt.calls (trace.newSocket none) ++ calls, ?_, first.skip ?_ ?_⟩
          · simp [performed, Trace.performed, AddrAttempt.calls, answer]
          · simp [answer, negative]
          · simp [AddrAttempt.Succeeds, answer]
      | some named =>
          have valid := trace.newSocket_some_nonneg named
          generalize trace.newSocket (some named) = fd at valid ⊢
          have created : 0 ≤ fd ↔ attempt.socket.isSome := by simp [answer, valid]
          have isSome : ¬ attempt.socket = none := by simp [answer]
          rw [if_neg (Int.not_lt.mpr valid)]
          by_cases accepted : 0 ≤ attempt.connect
          · rw [if_pos accepted]
            refine ⟨attempt.calls fd, ?_, .connected [] rest attempt [] rfl nofun ?_ valid .nil rfl
              rfl rfl⟩
            · simp [Trace.performed, AddrAttempt.calls, isSome, accepted]
            · exact ⟨created.mp valid, accepted⟩
          · rw [if_neg accepted]
            obtain ⟨calls, performed, first⟩ := ih { client with connectSocket := fd }
              (.close fd :: .connect fd attempt.entry.aiAddr attempt.connect ::
                .socket attempt.entry.aiFamily attempt.entry.aiSocktype attempt.entry.aiProtocol fd ::
                trace)
            refine ⟨attempt.calls fd ++ calls, ?_, first.skip created ?_⟩
            · simp [performed, Trace.performed, AddrAttempt.calls, isSome, accepted]
            · exact fun succeeds => accepted succeeds.2

/-- The calls that close the connection a `Connect` starts from. -/
def closings (client : CTCPClient) : List Call :=
  if client.eStatus = .connected then [.close client.connectSocket] else []

theorem hangUp_performed (client : CTCPClient) (trace : Trace) :
    (client.hangUp trace).trace.performed = trace.performed ++ client.closings := by
  by_cases connected : client.eStatus = .connected
  · simp [hangUp, disconnect, closings, connected, Trace.performed_oLog, Trace.performed]
  · simp [hangUp, closings, connected]

/-- The release of a list that was obtained. -/
theorem freeAddrInfo_performed {client : CTCPClient} {list : Option Nat}
    (obtained : client.pResultAddrInfo = list) (some : list ≠ none) (trace : Trace) :
    (client.freeAddrInfo trace).trace.performed = trace.performed ++ [.freeaddrinfo list] := by
  subst obtained
  simp [freeAddrInfo, some, Trace.performed]

/-- What a `Connect` does with the list it was given. -/
structure PicksFirst (client : CTCPClient) (strServer strPort : String) (resolution : Resolution)
    (trace : Trace) (result : Result CTCPClient Bool) : Prop where
  value : result.value = true ↔ ∃ attempt ∈ resolution.attempts, attempt.Succeeds
  calls : ∃ list calls,
    result.trace.performed = trace.performed ++ client.closings ++
      .getaddrinfo strServer strPort afInet sockStream 0 list :: calls ++ [.freeaddrinfo list] ∧
    FirstAddress .disconnected resolution.attempts calls result

/-- `Connect` takes the first address of its list that works: from every state of the
client, whose old connection is closed first. -/
theorem connect_picks_first (client : CTCPClient) (strServer strPort : String)
    (resolution : Resolution) (resolved : resolution.code = 0) (trace : Trace) :
    client.PicksFirst strServer strPort resolution trace
      (client.connect strServer strPort resolution trace) := by
  have hungUp := client.hangUp_hungUp trace
  have closed := client.hangUp_performed trace
  simp only [connect, resolveAndConnect, resolved, ne_eq, not_true, if_false]
  generalize client.hangUp trace = start at hungUp closed ⊢
  generalize named : some (start.trace.newList resolution.list) = list
  have obtained : list ≠ none := by simp [← named]
  obtain ⟨calls, performed, first⟩ := { start.self with pResultAddrInfo := list }.tryAddresses_first
    resolution.attempts (.getaddrinfo strServer strPort afInet sockStream 0 list :: start.trace)
  have dialed := { start.self with pResultAddrInfo := list }.tryAddresses_dialed
    resolution.attempts (.getaddrinfo strServer strPort afInet sockStream 0 list :: start.trace)
  generalize tryAddresses _ _ _ = loop at performed first dialed ⊢
  have freed := freeAddrInfo_performed dialed.list obtained loop.trace
  have unchanged := loop.self.freeAddrInfo_self loop.trace
  rw [performed, Trace.performed_cons id, closed] at freed
  simp only [hungUp.status] at first
  cases value : loop.value with
  | true =>
      have same : FirstAddress .disconnected resolution.attempts calls
          { loop.self.freeAddrInfo loop.trace with value := true } :=
        first.of_same unchanged.2.2 unchanged.2.1 value.symm
      rw [if_pos rfl]
      exact ⟨same.value_iff, list, calls, by simpa using freed, same⟩
  | false =>
      have same : FirstAddress .disconnected resolution.attempts calls
          { self := (loop.self.freeAddrInfo loop.trace).self
            trace := (loop.self.freeAddrInfo loop.trace).trace.oLog start.self.eSettingsFlags
              "[TCPClient][Error] no such host."
            value := false } :=
        first.of_same unchanged.2.2 unchanged.2.1 value.symm
      rw [if_neg Bool.false_ne_true]
      refine ⟨same.value_iff, list, calls, ?_, same⟩
      rw [Trace.performed_oLog]
      simpa using freed

/-- A connected client whose first two addresses fail in the two ways there are. -/
theorem connect_picks_third :
    let attempts := [
      { entry := loopbackEntry, socket := none, connect := 0 },
      { entry := loopbackEntry, socket := some 5, connect := -1 },
      { entry := loopbackEntry, socket := some 5, connect := 0 }]
    let resolution : Resolution := { code := 0, reason := "", list := 1, attempts }
    let client : CTCPClient :=
      { new .noFlags with eStatus := .connected, connectSocket := 3 }
    resolution.code = 0 ∧ client.PicksFirst "localhost" "80" resolution []
      (client.connect "localhost" "80" resolution []) := by
  intro attempts resolution client
  exact ⟨rfl, connect_picks_first client "localhost" "80" resolution rfl []⟩

end CTCPClient

end SocketCpp
