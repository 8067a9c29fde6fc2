import SocketCpp.System.Erasure
import SocketCpp.TCPServer

namespace SocketCpp

open Data

/-! The plain classes with logging switched off. -/

/-- What a method returns.  A transfer that still waits in a call has returned nothing. -/
inductive Reply where
  | done
  | answered (value : Bool)
  | sent (value : Option Bool)
  | received (value : Option Int) (pData : Option (Buffer UInt8))
  | accepted (value : Bool) (clientSocket : Socket)
  | secured (value : Bool) (clientSocket : SSLSocket)

def Reply.ofSent : SendState ⊕ Sent → Reply :=
  Sum.elim (fun _ => .sent none) fun result => .sent (some result.value)

def Reply.ofReceived : ReceiveState ⊕ Received → Reply :=
  Sum.elim (fun state => .received none state.pData) fun result =>
    .received (some result.value) result.pData

theorem Reply.ofSent_seen (keep : Call → Bool) (sent : SendState ⊕ Sent) :
    ofSent (Sum.map (SendState.seen keep) (Sent.seen keep) sent) = ofSent sent := by
  cases sent <;> rfl

theorem Reply.ofReceived_seen (keep : Call → Bool) (received : ReceiveState ⊕ Received) :
    ofReceived (Sum.map (ReceiveState.seen keep) (Received.seen keep) received) =
      ofReceived received := by
  cases received <;> rfl

theorem setTimeout_seen (keep : Call → Bool) (fd : Socket) (flags : SettingsFlag)
    (option : SockOption) (failure : String) (iErr : Int) (trace : Trace) :
    setTimeout fd .noFlags option failure iErr (trace.seen keep) =
      Prod.map id (Trace.seen keep) (setTimeout fd flags option failure iErr trace) := by
  simp only [setTimeout]
  split_ifs <;> simp [Call.isSeen, Call.layer]

theorem setTimeout_value (first second : SettingsFlag) (fd : Socket) (option : SockOption)
    (failure : String) (iErr : Int) (before after : Trace) :
    (setTimeout fd first option failure iErr before).1 =
      (setTimeout fd second option failure iErr after).1 := by
  simp only [setTimeout]
  split_ifs <;> rfl

theorem selectSocket_seen (keep : Call → Bool) (sd : Socket) (msec : Nat) (answer : SelectAnswer)
    (trace : Trace) :
    selectSocket sd msec answer (trace.seen keep) =
      Prod.map id (Trace.seen keep) (selectSocket sd msec answer trace) := by
  simp only [selectSocket]
  split_ifs <;> simp [Call.isSeen, Call.layer]

namespace CTCPClient

def silent (client : CTCPClient) : CTCPClient :=
  { client with eSettingsFlags := .noFlags }

@[simp] theorem silent_flags (client : CTCPClient) :
    client.silent.eSettingsFlags = .noFlags := rfl

variable (keep : Call → Bool) (client : CTCPClient) (trace : Trace)

theorem disconnect_seen :
    client.silent.disconnect (trace.seen keep) = (client.disconnect trace).seen keep silent := by
  by_cases connected : client.eStatus = .connected
  · simp [disconnect, silent, connected, Result.seen, State.seen, Call.isSeen, Call.layer]
  · simp [disconnect, silent, connected, Result.seen, State.seen]

theorem freeAddrInfo_seen :
    client.silent.freeAddrInfo (trace.seen keep) = (client.freeAddrInfo trace).seen keep silent := by
  by_cases resolved : client.pResultAddrInfo = none
  · simp [freeAddrInfo, silent, resolved, State.seen]
  · simp [freeAddrInfo, silent, resolved, State.seen, Call.isSeen, Call.layer]

theorem tryAddresses_seen (attempts : List AddrAttempt) :
    client.silent.tryAddresses attempts (trace.seen keep) =
      (client.tryAddresses attempts trace).seen keep silent := by
  induction attempts generalizing client trace with
  | nil => rfl
  | cons attempt rest ih =>
      have again (connectSocket : Socket) (earlier : Trace) :=
        ih { client with connectSocket } earlier
      simp only [silent] at again
      simp only [tryAddresses, silent, Trace.newSocket_seen]
      split_ifs
      · rw [← again]
        rfl
      · rfl
      · rw [← again]
        rfl

theorem resolveAndConnect_seen (strServer strPort : String) (resolution : Resolution) :
    client.silent.resolveAndConnect strServer strPort resolution (trace.seen keep) =
      (client.resolveAndConnect strServer strPort resolution trace).seen keep silent := by
  by_cases failed : resolution.code = 0
  · let list := some (trace.newList resolution.list)
    let asked : Trace := .getaddrinfo strServer strPort afInet sockStream 0 list :: trace
    let waiting := { client with pResultAddrInfo := list }
    have tried : { client.silent with pResultAddrInfo := list }.tryAddresses resolution.attempts
        (.getaddrinfo strServer strPort afInet sockStream 0 list :: trace.seen keep) = _ :=
      waiting.tryAddresses_seen keep asked resolution.attempts
    simp only [resolveAndConnect, failed, Trace.newList_seen, ne_eq, not_true_eq_false, if_false]
    rw [tried]
    generalize waiting.tryAddresses resolution.attempts asked = result
    have freed := result.self.freeAddrInfo_seen keep result.trace
    have value : (result.seen keep silent).value = result.value := rfl
    have self : (result.seen keep silent).self = result.self.silent := rfl
    have earlier : (result.seen keep silent).trace = result.trace.seen keep := rfl
    rw [value, self, earlier, freed]
    cases result.value with
    | false => simp [Result.seen, State.seen]
    | true => rfl
  · have freed := fun earlier => client.freeAddrInfo_seen keep earlier
    simp [resolveAndConnect, failed, Result.seen, ← freed, Call.isSeen, Call.layer]

theorem hangUp_seen :
    client.silent.hangUp (trace.seen keep) = (client.hangUp trace).seen keep silent := by
  have closed := client.disconnect_seen keep trace
  by_cases connected : client.eStatus = .connected
  · have connected' : client.silent.eStatus = .connected := connected
    simp only [hangUp, if_pos connected, if_pos connected', closed]
    simp [State.seen, Result.seen, silent]
  · have connected' : ¬ client.silent.eStatus = .connected := connected
    simp only [hangUp, if_neg connected, if_neg connected']
    rfl

theorem connect_seen (strServer strPort : String) (resolution : Resolution) :
    client.silent.connect strServer strPort resolution (trace.seen keep) =
      (client.connect strServer strPort resolution trace).seen keep silent := by
  have hungUp := client.hangUp_seen keep trace
  rw [connect, hungUp]
  exact resolveAndConnect_seen keep _ _ strServer strPort resolution

theorem send_seen (pData : Option (Buffer UInt8)) (uSize : Nat) (script : List SendAnswer) :
    client.silent.send pData uSize script (trace.seen keep) =
      Sum.map (SendState.seen keep) (Sent.seen keep) (client.send pData uSize script trace) := by
  have entry : client.silent.sendEntry pData uSize (trace.seen keep) =
      Sum.map (SendState.seen keep) (Sent.seen keep) (client.sendEntry pData uSize trace) := by
    simp only [sendEntry]
    by_cases refused : pData.isNone ∨ uSize = 0
    · simp only [if_pos refused]
      rfl
    · simp only [if_neg refused]
      by_cases connected : client.eStatus = .connected
      · simp [silent, connected, SendState.start, SendState.seen]
      · simp [silent, connected, Sent.refused, SendState.start, Sent.seen, SendState.seen]
  rw [send, entry]
  apply CallLoop.enter_map
  exact sendTurn_seen keep client.connectSocket client.eSettingsFlags _ uSize

theorem receive_seen (pData : Option (Buffer UInt8)) (uSize : Nat) (bReadFully : Bool)
    (script : List RecvAnswer) :
    client.silent.receive pData uSize bReadFully script (trace.seen keep) =
      Sum.map (ReceiveState.seen keep) (Received.seen keep)
        (client.receive pData uSize bReadFully script trace) := by
  have entry : client.silent.receiveEntry pData uSize (trace.seen keep) =
      Sum.map (ReceiveState.seen keep) (Received.seen keep)
        (client.receiveEntry pData uSize trace) := by
    simp only [receiveEntry]
    by_cases refused : pData.isNone ∨ uSize = 0
    · simp only [if_pos refused]
      rfl
    · simp only [if_neg refused]
      by_cases connected : client.eStatus = .connected
      · simp [silent, connected, ReceiveState.start, ReceiveState.seen]
      · simp [silent, connected, Received.refused, ReceiveState.start, Received.seen,
          ReceiveState.seen]
  rw [receive, entry]
  apply CallLoop.enter_map
  exact recvTurn_seen keep client.connectSocket uSize bReadFully

/-- Each operation without logging is the operation with it, seen without the messages. -/
theorem step_seen (state : State CTCPClient) (op : Op) :
    step (state.seen keep silent) op = (step state op).seen keep silent := by
  obtain ⟨client, trace⟩ := state
  cases op with
  | connect strServer strPort resolution =>
      exact congrArg Result.toState (client.connect_seen keep trace strServer strPort resolution)
  | disconnect => exact congrArg Result.toState (client.disconnect_seen keep trace)
  | send pData uSize script =>
      simp only [step, State.seen, client.send_seen keep trace, sentTrace_seen]
  | receive pData uSize bReadFully script =>
      simp only [step, State.seen, client.receive_seen keep trace, receivedTrace_seen]
  | setRcvTimeout | setRcvTimeoutTimeval | setSndTimeout | setSndTimeoutTimeval =>
      exact congrArg (fun result : Bool × Trace => State.mk client.silent result.2)
        (setTimeout_seen keep ..)

def reply (state : State CTCPClient) : Op → Reply
  | .connect strServer strPort resolution =>
      .answered (state.self.connect strServer strPort resolution state.trace).value
  | .disconnect => .answered (state.self.disconnect state.trace).value
  | .send pData uSize script => .ofSent (state.self.send pData uSize script state.trace)
  | .receive pData uSize bReadFully script =>
      .ofReceived (state.self.receive pData uSize bReadFully script state.trace)
  | .setRcvTimeout msecTimeout iErr =>
      .answered (state.self.setRcvTimeout msecTimeout iErr state.trace).1
  | .setRcvTimeoutTimeval timeout iErr =>
      .answered (state.self.setRcvTimeoutTimeval timeout iErr state.trace).1
  | .setSndTimeout msecTimeout iErr =>
      .answered (state.self.setSndTimeout msecTimeout iErr state.trace).1
  | .setSndTimeoutTimeval timeout iErr =>
      .answered (state.self.setSndTimeoutTimeval timeout iErr state.trace).1

theorem reply_seen (state : State CTCPClient) (op : Op) :
    reply (state.seen keep silent) op = reply state op := by
  obtain ⟨client, trace⟩ := state
  cases op with
  | connect strServer strPort resolution =>
      have connected := client.connect_seen keep trace strServer strPort resolution
      have value := congrArg (fun result => Reply.answered result.value) connected
      exact value
  | disconnect =>
      have disconnected := client.disconnect_seen keep trace
      have value := congrArg (fun result => Reply.answered result.value) disconnected
      exact value
  | send pData uSize script =>
      simp only [reply, State.seen, client.send_seen keep trace, Reply.ofSent_seen]
  | receive pData uSize bReadFully script =>
      simp only [reply, State.seen, client.receive_seen keep trace, Reply.ofReceived_seen]
  | setRcvTimeout | setRcvTimeoutTimeval | setSndTimeout | setSndTimeoutTimeval =>
      exact congrArg Reply.answered (setTimeout_value ..)

end CTCPClient

def Listened.seen (keep : Call → Bool) (silent : CTCPServer → CTCPServer) (result : Listened) :
    Listened :=
  { result.toResult.seen keep silent with clientSocket := result.clientSocket }

namespace CTCPServer

def silent (server : CTCPServer) : CTCPServer :=
  { server with eSettingsFlags := .noFlags }

@[simp] theorem silent_flags (server : CTCPServer) :
    server.silent.eSettingsFlags = .noFlags := rfl

variable (keep : Call → Bool) (server : CTCPServer) (trace : Trace)

theorem createListenSocket_seen (answers : ListenAnswers) :
    server.silent.createListenSocket answers (trace.seen keep) =
      (server.createListenSocket answers trace).seen keep silent := by
  simp only [createListenSocket, Trace.newSocket_seen]
  generalize trace.newSocket answers.socket = listenSocket
  split_ifs <;> simp [Result.seen, State.seen, silent, Call.isSeen, Call.layer]

theorem acceptClient_seen (msec : Nat) (answers : ListenAnswers) :
    server.silent.acceptClient msec answers (trace.seen keep) =
      (server.acceptClient msec answers trace).seen keep silent := by
  let listening : Trace := .listen server.listenSocket answers.listen :: trace
  have heard : listening.seen keep =
      .listen server.listenSocket answers.listen :: trace.seen keep := by
    simp [listening, Call.isSeen, Call.layer]
  have waited : (if msec ≠ acceptWaitInfDelay then
        selectSocket server.listenSocket msec answers.select (listening.seen keep)
      else (1, listening.seen keep)) =
      Prod.map id (Trace.seen keep) (if msec ≠ acceptWaitInfDelay then
        selectSocket server.listenSocket msec answers.select listening else (1, listening)) := by
    split
    · exact selectSocket_seen keep ..
    · rfl
  rw [heard] at waited
  simp only [acceptClient]
  by_cases refused : answers.listen < 0
  · simp only [if_pos refused]
    simp [Listened.seen, Result.seen, State.seen, silent, Call.isSeen, Call.layer]
  · have socket : server.silent.listenSocket = server.listenSocket := rfl
    simp only [if_neg refused, socket]
    rw [waited]
    generalize (if msec ≠ acceptWaitInfDelay then
      selectSocket server.listenSocket msec answers.select listening else (1, listening)) = selected
    simp only [Prod.map_fst, Prod.map_snd, id_eq, Trace.newSocket_seen]
    generalize selected.2.newSocket answers.accept = clientSocket
    split_ifs <;> simp [Listened.seen, Result.seen, State.seen, silent, Call.isSeen, Call.layer]

theorem listen_seen (msec : Nat) (answers : ListenAnswers) :
    server.silent.listen msec answers (trace.seen keep) =
      (server.listen msec answers trace).seen keep silent := by
  have socket : server.silent.listenSocket = server.listenSocket := rfl
  simp only [listen, socket]
  by_cases missing : server.listenSocket = invalidSocket
  · simp only [if_pos missing]
    rw [createListenSocket_seen]
    generalize server.createListenSocket answers trace = created
    by_cases opened : created.value = true
    · have opened' : (created.seen keep silent).value = true := opened
      simp only [if_pos opened, if_pos opened']
      exact created.self.acceptClient_seen keep created.trace msec answers
    · have opened' : ¬ (created.seen keep silent).value = true := opened
      simp only [if_neg opened, if_neg opened']
      rfl
  · simp only [if_neg missing]
    exact server.acceptClient_seen keep trace msec answers

theorem send_seen (clientSocket : Socket) (pData : Option (Buffer UInt8)) (uSize : Nat)
    (script : List SendAnswer) :
    server.silent.send clientSocket pData uSize script (trace.seen keep) =
      Sum.map (SendState.seen keep) (Sent.seen keep)
        (server.send clientSocket pData uSize script trace) := by
  have entry : sendEntry clientSocket pData uSize (trace.seen keep) =
      Sum.map (SendState.seen keep) (Sent.seen keep)
        (sendEntry clientSocket pData uSize trace) := by
    simp only [sendEntry]
    split <;> rfl
  rw [send, entry]
  apply CallLoop.enter_map
  exact sendTurn_seen keep clientSocket server.eSettingsFlags _ uSize

theorem receive_seen (clientSocket : Socket) (pData : Option (Buffer UInt8)) (uSize : Nat)
    (bReadFully : Bool) (script : List RecvAnswer) :
    server.silent.receive clientSocket pData uSize bReadFully script (trace.seen keep) =
      Sum.map (ReceiveState.seen keep) (Received.seen keep)
        (server.receive clientSocket pData uSize bReadFully script trace) := by
  have entry : receiveEntry clientSocket pData uSize (trace.seen keep) =
      Sum.map (ReceiveState.seen keep) (Received.seen keep)
        (receiveEntry clientSocket pData uSize trace) := by
    simp only [receiveEntry]
    split <;> rfl
  rw [receive, entry]
  apply CallLoop.enter_map
  exact recvTurn_seen keep clientSocket uSize bReadFully

theorem disconnect_seen (clientSocket : Socket) :
    server.silent.disconnect clientSocket (trace.seen keep) =
      Prod.map id (Trace.seen keep) (server.disconnect clientSocket trace) := by
  simp [disconnect, Call.isSeen, Call.layer]

theorem serve_seen (state : State CTCPServer) (request : Request) :
    serve (state.seen keep silent) request = (serve state request).seen keep silent := by
  obtain ⟨server, trace⟩ := state
  cases request with
  | listen msec answers =>
      exact congrArg (fun result : Listened => result.toState)
        (server.listen_seen keep trace msec answers)
  | receive clientSocket pData uSize bReadFully script =>
      simp only [serve, State.seen, server.receive_seen keep trace, receivedTrace_seen]
  | send clientSocket pData uSize script =>
      simp only [serve, State.seen, server.send_seen keep trace, sentTrace_seen]
  | disconnect clientSocket =>
      simp only [serve, State.seen, server.disconnect_seen keep trace, Prod.map_snd]
  | setRcvTimeout | setRcvTimeoutTimeval | setSndTimeout | setSndTimeoutTimeval =>
      exact congrArg (fun result : Bool × Trace => State.mk server.silent result.2)
        (setTimeout_seen keep ..)

def reply (state : State CTCPServer) : Request → Reply
  | .listen msec answers =>
      let result := state.self.listen msec answers state.trace
      .accepted result.value result.clientSocket
  | .receive clientSocket pData uSize bReadFully script =>
      .ofReceived (state.self.receive clientSocket pData uSize bReadFully script state.trace)
  | .send clientSocket pData uSize script =>
      .ofSent (state.self.send clientSocket pData uSize script state.trace)
  | .disconnect clientSocket => .answered (state.self.disconnect clientSocket state.trace).1
  | .setRcvTimeout clientSocket msecTimeout iErr =>
      .answered (state.self.setRcvTimeout clientSocket msecTimeout iErr state.trace).1
  | .setRcvTimeoutTimeval clientSocket timeout iErr =>
      .answered (state.self.setRcvTimeoutTimeval clientSocket timeout iErr state.trace).1
  | .setSndTimeout clientSocket msecTimeout iErr =>
      .answered (state.self.setSndTimeout clientSocket msecTimeout iErr state.trace).1
  | .setSndTimeoutTimeval clientSocket timeout iErr =>
      .answered (state.self.setSndTimeoutTimeval clientSocket timeout iErr state.trace).1

theorem reply_seen (state : State CTCPServer) (request : Request) :
    reply (state.seen keep silent) request = reply state request := by
  obtain ⟨server, trace⟩ := state
  cases request with
  | listen msec answers =>
      have listened := server.listen_seen keep trace msec answers
      have value := congrArg
        (fun result : Listened => Reply.accepted result.value result.clientSocket) listened
      exact value
  | receive clientSocket pData uSize bReadFully script =>
      simp only [reply, State.seen, server.receive_seen keep trace, Reply.ofReceived_seen]
  | send clientSocket pData uSize script =>
      simp only [reply, State.seen, server.send_seen keep trace, Reply.ofSent_seen]
  | disconnect clientSocket => rfl
  | setRcvTimeout | setRcvTimeoutTimeval | setSndTimeout | setSndTimeoutTimeval =>
      exact congrArg Reply.answered (setTimeout_value ..)

end CTCPServer

end SocketCpp
