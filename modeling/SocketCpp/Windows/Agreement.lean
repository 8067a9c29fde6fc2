import SocketCpp.Logging.Plain
import SocketCpp.TCPClient.Balance
import SocketCpp.Windows.Retry
import SocketCpp.Windows.TCPClient.Balance

namespace SocketCpp

namespace CTCPClient

theorem disconnect_returns (client : CTCPClient) (trace : Trace) :
    (client.disconnect trace).value = true := by
  simp only [disconnect]
  split <;> rfl

end CTCPClient

end SocketCpp

namespace SocketCpp.Windows

open Data
open SocketCpp.CTCPClient (loopbackEntry)

/-! The client of one build beside the client of the other.

`Connect`, `Disconnect` and `Receive` are written twice in the source.  The POSIX build
goes along the list of addresses, closes without `shutdown` and leaves `TCP_NODELAY`
alone. -/

/-- What the system answers to one `Connect`.  Both builds get `first` at the head of the
list; the POSIX build alone goes on to `others`, and the Windows build alone asks for
`shutdown` and `noDelay`. -/
structure Dialing where
  code : Int
  reason : String
  list : Nat
  first : AddrAttempt
  others : List AddrAttempt
  shutdown : Answer
  noDelay : Int
  error : Int
deriving DecidableEq, Repr

def Dialing.posix (dialing : Dialing) : Resolution where
  code := dialing.code
  reason := dialing.reason
  list := dialing.list
  attempts := dialing.first :: dialing.others

def Dialing.windows (dialing : Dialing) : ConnectAnswers where
  shutdown := dialing.shutdown
  getaddrinfo := dialing.code
  list := dialing.list
  entry := dialing.first.entry
  socket := dialing.first.socket
  noDelay := dialing.noDelay
  connect := dialing.first.connect
  error := dialing.error

inductive Request where
  | connect (strServer strPort : String) (dialing : Dialing)
  | disconnect (shutdown : Answer)
  | receive (pData : Option (Buffer UInt8)) (uSize : Nat) (bReadFully : Bool)
      (script : List RecvAnswer)

namespace Request

def posix : Request → SocketCpp.CTCPClient.Op
  | .connect strServer strPort dialing => .connect strServer strPort dialing.posix
  | .disconnect _ => .disconnect
  | .receive pData uSize bReadFully script => .receive pData uSize bReadFully script

/-- The answers are ones that both systems can give: `connect` returns zero or `-1`, and
no `recv` runs out of buffers. -/
def Possible : Request → Prop
  | .connect _ _ dialing => dialing.first.connect = 0 ∨ dialing.first.connect = socketError
  | .disconnect _ => True
  | .receive _ _ _ script => ∀ answer ∈ script, answer.error ≠ wsaenobufs

/-- Where the builds do the same: an address that can be reached is the first one, and
neither `TCP_NODELAY` nor the `shutdown` of an open connection fails. -/
def Alike (state : State CTCPClient) : Request → Prop
  | .connect _ _ dialing =>
      dialing.posix.Reaches → dialing.first.Succeeds ∧ dialing.noDelay ≠ invalidSocket
  | .disconnect shutdown => state.self.eStatus = .connected → shutdown.result ≠ socketError
  | .receive .. => True

end Request

namespace CTCPClient

def serve (state : State CTCPClient) : Request → State CTCPClient
  | .connect strServer strPort dialing =>
      (state.self.connect strServer strPort dialing.windows state.trace).toState
  | .disconnect shutdown => (state.self.disconnect shutdown state.trace).toState
  | .receive pData uSize bReadFully script =>
      { state with
        trace := Sum.elim ReceiveState.trace (fun result => result.trace)
          (state.self.receive pData uSize bReadFully script state.trace) }

def reply (state : State CTCPClient) : Request → Reply
  | .connect strServer strPort dialing =>
      .answered (state.self.connect strServer strPort dialing.windows state.trace).value
  | .disconnect shutdown => .answered (state.self.disconnect shutdown state.trace).value
  | .receive pData uSize bReadFully script =>
      let reported := report (state.self.receive pData uSize bReadFully script state.trace)
      .received reported.1 reported.2

/-! What `Connect` and `Disconnect` return. -/

/-- The first address gets a connection without delays. -/
def Gets (answers : ConnectAnswers) : Prop :=
  answers.getaddrinfo = 0 ∧ answers.socket.isSome ∧ answers.noDelay ≠ invalidSocket ∧
    answers.connect ≠ socketError

theorem connectOn_gets {client : CTCPClient} (disconnected : client.eStatus = .disconnected)
    (answers : ConnectAnswers) (trace : Trace) :
    ((client.connectOn answers trace).value = true ↔
        answers.noDelay ≠ invalidSocket ∧ answers.connect ≠ socketError) ∧
      (client.connectOn answers trace).self.eStatus =
        if (client.connectOn answers trace).value then .connected else .disconnected := by
  by_cases delayed : answers.noDelay = invalidSocket
  · simp [connectOn, delayed, disconnected]
  · by_cases refused : answers.connect = socketError
    · simp [connectOn, delayed, refused, disconnected]
    · simp [connectOn, delayed, refused]

theorem resolveAndConnect_gets {client : CTCPClient}
    (disconnected : client.eStatus = .disconnected) (strServer strPort : String)
    (answers : ConnectAnswers) (trace : Trace) :
    ((client.resolveAndConnect strServer strPort answers trace).value = true ↔ Gets answers) ∧
      (client.resolveAndConnect strServer strPort answers trace).self.eStatus =
        if (client.resolveAndConnect strServer strPort answers trace).value then .connected
        else .disconnected := by
  simp only [resolveAndConnect]
  by_cases unresolved : answers.getaddrinfo ≠ 0
  · rw [if_pos unresolved]
    refine ⟨iff_of_false Bool.false_ne_true fun gets => unresolved gets.1, ?_⟩
    exact (client.freeAddrInfo_openings _).1.trans disconnected
  · rw [if_neg unresolved]
    cases found : answers.socket with
    | none =>
        have absent : ¬ Gets answers := fun gets => by simp [Gets, found] at gets
        exact ⟨iff_of_false Bool.false_ne_true absent, disconnected⟩
    | some named =>
        rw [if_neg (Trace.newSocket_some_ne _ named)]
        refine ⟨(connectOn_gets ?_ answers _).1.trans ?_, (connectOn_gets ?_ answers _).2⟩
        · exact disconnected
        · simp [Gets, not_not.mp unresolved, found]
        · exact disconnected

theorem connect_gets (client : CTCPClient) (strServer strPort : String)
    (answers : ConnectAnswers) (trace : Trace) :
    ((client.connect strServer strPort answers trace).value = true ↔ Gets answers) ∧
      (client.connect strServer strPort answers trace).self.eStatus =
        if (client.connect strServer strPort answers trace).value then .connected
        else .disconnected := by
  have hungUp : (client.hangUp answers.shutdown trace).self.eStatus = .disconnected := by
    rw [(client.hangUp_eq answers.shutdown trace).1]
    exact client.disconnect_status answers.shutdown trace
  exact resolveAndConnect_gets hungUp strServer strPort answers _

theorem disconnect_value (client : CTCPClient) (answer : Answer) (trace : Trace) :
    (client.disconnect answer trace).value = true ↔
      (client.eStatus = .connected → answer.result ≠ socketError) := by
  simp only [disconnect]
  split_ifs with idle fails
  · exact iff_of_true rfl fun connected => absurd connected idle
  · exact iff_of_false not_false fun spared => spared (not_not.mp idle) fails
  · exact iff_of_true rfl fun _ => fails

end CTCPClient

/-! One `Receive` on both sides. -/

/-- The loops stand at one total, with the same bytes in the buffer. -/
def SameTotal (here : ReceiveState) (there : SocketCpp.ReceiveState) : Prop :=
  here.total = there.total ∧ here.pData = there.pData

def SameReturn (here : Received) (there : SocketCpp.Received) : Prop :=
  here.value = there.value ∧ here.pData = there.pData

theorem recvTurn_related (sd fd : Socket) (flags : SettingsFlag) (failure : String) (uSize : Nat)
    (bReadFully : Bool) {here : ReceiveState} {there : SocketCpp.ReceiveState}
    (same : SameTotal here there) {answer : RecvAnswer} (spared : answer.error ≠ wsaenobufs) :
    Sum.LiftRel SameTotal SameReturn (recvTurn sd flags failure uSize bReadFully here answer)
      (SocketCpp.recvTurn fd uSize bReadFully there answer) := by
  obtain ⟨total, pData⟩ := same
  have plentiful : ¬ (wrapInt answer.result < 0 ∧ answer.error = wsaenobufs) :=
    fun failed => spared failed.2
  simp only [recvTurn, SocketCpp.recvTurn, if_neg plentiful, total, pData]
  split_ifs
  · exact .inr ⟨rfl, rfl⟩
  · exact .inl ⟨rfl, rfl⟩
  · exact .inr ⟨rfl, rfl⟩

/-- The outcomes of a `Receive` in the two builds tell the caller the same. -/
theorem report_of_related {here : ReceiveState ⊕ Received}
    {there : SocketCpp.ReceiveState ⊕ SocketCpp.Received}
    (same : Sum.LiftRel SameTotal SameReturn here there) :
    Reply.received (report here).1 (report here).2 = Reply.ofReceived there := by
  cases same with
  | inl waiting => simp [report, Reply.ofReceived, waiting.2]
  | inr returned => simp [report, Reply.ofReceived, returned.1, returned.2]

namespace CTCPClient

theorem receive_related {client : CTCPClient} {other : SocketCpp.CTCPClient}
    (status : client.eStatus = other.eStatus) (pData : Option (Buffer UInt8)) (uSize : Nat)
    (bReadFully : Bool) {script : List RecvAnswer}
    (spared : ∀ answer ∈ script, answer.error ≠ wsaenobufs) (trace : Trace)
    (otherTrace : SocketCpp.Trace) :
    Sum.LiftRel SameTotal SameReturn (client.receive pData uSize bReadFully script trace)
      (other.receive pData uSize bReadFully script otherTrace) := by
  simp only [receive, SocketCpp.CTCPClient.receive, receiveEntry,
    SocketCpp.CTCPClient.receiveEntry, status]
  split_ifs
  · exact .inr ⟨rfl, rfl⟩
  · exact .inr ⟨rfl, rfl⟩
  · refine CallLoop.run_related ?_ ⟨rfl, rfl⟩ spared
    intro here there answer same admitted
    exact recvTurn_related _ _ _ _ uSize bReadFully same admitted

/-- The clients of both builds report the same status. -/
def SameStatus (here : State CTCPClient) (there : SocketCpp.State SocketCpp.CTCPClient) : Prop :=
  here.self.eStatus = there.self.eStatus

section Builds

variable {here : State CTCPClient} {there : SocketCpp.State SocketCpp.CTCPClient}

theorem connect_value_iff (strServer strPort : String) {dialing : Dialing}
    (possible : dialing.first.connect = 0 ∨ dialing.first.connect = socketError) :
    (here.self.connect strServer strPort dialing.windows here.trace).value =
        (there.self.connect strServer strPort dialing.posix there.trace).value ↔
      (dialing.posix.Reaches → dialing.first.Succeeds ∧ dialing.noDelay ≠ invalidSocket) := by
  have gets := (here.self.connect_gets strServer strPort dialing.windows here.trace).1
  have reaches := (there.self.connect_connects strServer strPort dialing.posix there.trace).value
  have first : Gets dialing.windows ↔
      dialing.code = 0 ∧ dialing.first.Succeeds ∧ dialing.noDelay ≠ invalidSocket := by
    rcases possible with zero | failed
    · simp [Gets, Dialing.windows, AddrAttempt.Succeeds, zero, socketError]
    · simp [Gets, Dialing.windows, AddrAttempt.Succeeds, failed, socketError]
  have enough (gets : dialing.code = 0 ∧ dialing.first.Succeeds) : dialing.posix.Reaches :=
    ⟨gets.1, dialing.first, List.mem_cons_self, gets.2⟩
  rw [Bool.eq_iff_iff, gets, reaches, first]
  constructor
  · intro same reached
    exact (same.mpr reached).2
  · intro alike
    constructor
    · exact fun gets => enough ⟨gets.1, gets.2.1⟩
    · exact fun reached => ⟨reached.1, alike reached⟩

theorem reply_iff (same : SameStatus here there) {request : Request}
    (possible : request.Possible) :
    reply here request = SocketCpp.CTCPClient.reply there request.posix ↔
      request.Alike here := by
  cases request with
  | connect strServer strPort dialing =>
      simp only [reply, Request.posix, SocketCpp.CTCPClient.reply, Reply.answered.injEq]
      exact connect_value_iff strServer strPort possible
  | disconnect shutdown =>
      simp only [reply, Request.posix, SocketCpp.CTCPClient.reply, Reply.answered.injEq]
      rw [there.self.disconnect_returns there.trace]
      exact here.self.disconnect_value shutdown here.trace
  | receive pData uSize bReadFully script =>
      exact iff_of_true (report_of_related (receive_related same pData uSize bReadFully possible
        here.trace there.trace)) trivial

theorem serve_sameStatus (same : SameStatus here there) {request : Request}
    (possible : request.Possible) (alike : request.Alike here) :
    SameStatus (serve here request) (SocketCpp.CTCPClient.step there request.posix) := by
  cases request with
  | connect strServer strPort dialing =>
      have value : (here.self.connect strServer strPort dialing.windows here.trace).value =
          (there.self.connect strServer strPort dialing.posix there.trace).value :=
        (connect_value_iff strServer strPort possible).mpr alike
      have status := (here.self.connect_gets strServer strPort dialing.windows here.trace).2
      rw [value] at status
      exact status.trans (there.self.connect_status strServer strPort dialing.posix
        there.trace).symm
  | disconnect shutdown =>
      exact (here.self.disconnect_status shutdown here.trace).trans
        (there.self.disconnect_status there.trace).symm
  | receive pData uSize bReadFully script => exact same

end Builds

/-- The two builds of the client return the same to every request exactly as long as each of
the requests is one on which they are alike. -/
theorem builds_agree_iff (eSettings : SettingsFlag) (requests : List Request)
    (possible : ∀ request ∈ requests, request.Possible) :
    Runs.replies serve reply (init eSettings) requests =
        Runs.replies SocketCpp.CTCPClient.step SocketCpp.CTCPClient.reply
          (SocketCpp.CTCPClient.init eSettings) (requests.map Request.posix) ↔
      Runs.Steps serve (fun state request => request.Alike state) (init eSettings) requests := by
  have agrees : ∀ here there (request : Request), SameStatus here there → request.Possible →
      (reply here request = SocketCpp.CTCPClient.reply there request.posix ↔
        request.Alike here) :=
    fun _ _ _ same admitted => reply_iff same admitted
  have keeps : ∀ here there (request : Request), SameStatus here there → request.Possible →
      request.Alike here →
      SameStatus (serve here request) (SocketCpp.CTCPClient.step there request.posix) :=
    fun _ _ _ same admitted alike => serve_sameStatus same admitted alike
  have start : SameStatus (init eSettings) (SocketCpp.CTCPClient.init eSettings) := rfl
  exact Runs.replies_eq_iff agrees keeps start possible

/-- Two addresses, of which the second can be reached. -/
def dialingWith (first : Int) : Dialing where
  code := 0
  reason := ""
  list := 1
  first := { entry := loopbackEntry, socket := some 3, connect := first }
  others := [{ entry := loopbackEntry, socket := some 3, connect := 0 }]
  shutdown := ⟨0, 0⟩
  noDelay := 0
  error := 10061

/-- A connection to the first address, and one to the second after a refusal. -/
theorem builds_agree_iff_second_address :
    let requests (first : Int) : List Request :=
      [.connect "localhost" "80" (dialingWith first),
        .receive (some (Buffer.ofList [] 0)) 4 true [.data [1, 2], .status 0 0],
        .disconnect ⟨0, 0⟩]
    let here (first : Int) := Runs.replies serve reply (init .noFlags) (requests first)
    let there (first : Int) :=
      Runs.replies SocketCpp.CTCPClient.step SocketCpp.CTCPClient.reply
        (SocketCpp.CTCPClient.init .noFlags) ((requests first).map Request.posix)
    here 0 = there 0 ∧ here (-1) ≠ there (-1) := by
  intro requests here there
  have admitted (first : Int) (outcome : first = 0 ∨ first = socketError) :
      ∀ request ∈ requests first, request.Possible := by
    intro request member
    simp only [requests, List.mem_cons, List.not_mem_nil, or_false] at member
    rcases member with rfl | rfl | rfl
    · exact outcome
    · simp [Request.Possible, RecvAnswer.error, wsaenobufs]
    · trivial
  constructor
  · apply (builds_agree_iff .noFlags (requests 0) (admitted 0 (.inl rfl))).mpr
    have reached : (dialingWith 0).first.Succeeds := by decide
    have shut : (⟨0, 0⟩ : Answer).result ≠ socketError := by decide
    exact ⟨fun _ => ⟨reached, by decide⟩, trivial, fun _ => shut, trivial⟩
  · intro same
    have alike := (builds_agree_iff .noFlags (requests (-1)) (admitted (-1) (.inr rfl))).mp same
    have reached : (dialingWith (-1)).posix.Reaches := by
      refine ⟨rfl, { entry := loopbackEntry, socket := some 3, connect := 0 }, ?_, by decide⟩
      exact List.mem_cons_of_mem _ List.mem_cons_self
    have refused : ¬ (dialingWith (-1)).first.Succeeds := by decide
    exact refused (alike.1 reached).1

end CTCPClient

end SocketCpp.Windows
