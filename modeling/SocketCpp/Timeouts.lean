import SocketCpp.Data.Runs
import SocketCpp.TCPSSLClient
import SocketCpp.TCPSSLServer

namespace SocketCpp

open Data

/-! The timeout setters of the four classes, over runs on any number of sockets.

The sixteen overloads come down to one `setsockopt` each.  What a socket's options
should be is read off the list of calls; what they are is read off the trace.  Before
any call they are what the system has made them, whatever that is. -/

inductive TimeoutKind where
  | rcv
  | snd
deriving DecidableEq, Repr

inductive TimeoutOwner where
  | client (self : CTCPClient)
  | server (self : CTCPServer) (clientSocket : Socket)
  | sslClient (self : CTCPSSLClient)
  | sslServer (self : CTCPSSLServer) (clientSocket : SSLSocket)

inductive TimeoutArgument where
  | msec (timeMsec : UInt32)
  | timeval (timeout : Timeval)
deriving DecidableEq, Repr

/-- A call of a setter, with the result of its `setsockopt`. -/
structure TimeoutCall where
  owner : TimeoutOwner
  kind : TimeoutKind
  argument : TimeoutArgument
  iErr : Int

def TimeoutOwner.socket : TimeoutOwner → Socket
  | .client self => self.connectSocket
  | .server _ clientSocket => clientSocket
  | .sslClient self => self.tcpClient.connectSocket
  | .sslServer _ clientSocket => clientSocket.sockFd

def TimeoutCall.perform (call : TimeoutCall) (trace : Trace) : Bool × Trace :=
  match call.owner, call.kind, call.argument with
  | .client self, .rcv, .msec time => self.setRcvTimeout time call.iErr trace
  | .client self, .rcv, .timeval timeout => self.setRcvTimeoutTimeval timeout call.iErr trace
  | .client self, .snd, .msec time => self.setSndTimeout time call.iErr trace
  | .client self, .snd, .timeval timeout => self.setSndTimeoutTimeval timeout call.iErr trace
  | .server self fd, .rcv, .msec time => self.setRcvTimeout fd time call.iErr trace
  | .server self fd, .rcv, .timeval timeout => self.setRcvTimeoutTimeval fd timeout call.iErr trace
  | .server self fd, .snd, .msec time => self.setSndTimeout fd time call.iErr trace
  | .server self fd, .snd, .timeval timeout => self.setSndTimeoutTimeval fd timeout call.iErr trace
  | .sslClient self, .rcv, .msec time => self.setRcvTimeout time call.iErr trace
  | .sslClient self, .rcv, .timeval timeout => self.setRcvTimeoutTimeval timeout call.iErr trace
  | .sslClient self, .snd, .msec time => self.setSndTimeout time call.iErr trace
  | .sslClient self, .snd, .timeval timeout => self.setSndTimeoutTimeval timeout call.iErr trace
  | .sslServer self fd, .rcv, .msec time => self.setRcvTimeout fd time call.iErr trace
  | .sslServer self fd, .rcv, .timeval timeout =>
      self.setRcvTimeoutTimeval fd timeout call.iErr trace
  | .sslServer self fd, .snd, .msec time => self.setSndTimeout fd time call.iErr trace
  | .sslServer self fd, .snd, .timeval timeout =>
      self.setSndTimeoutTimeval fd timeout call.iErr trace

def SockOption.timeout : SockOption → TimeoutKind → Option Timeval
  | .rcvTimeo value, .rcv => some value
  | .sndTimeo value, .snd => some value
  | _, _ => none

/-- The value of an option now.  `initial` holds the values of all options before the trace. -/
def Trace.timeout (initial : TimeoutKind → Socket → Timeval) (kind : TimeoutKind) (fd : Socket) :
    Trace → Timeval
  | [] => initial kind fd
  | .setsockopt pointer option iErr :: earlier =>
      if pointer = fd ∧ 0 ≤ iErr then
        (option.timeout kind).getD (timeout initial kind fd earlier)
      else timeout initial kind fd earlier
  | _ :: earlier => timeout initial kind fd earlier

/-- The argument of the last successful call of the setter for this option of
this socket, in a list of calls with the newest first. -/
def lastSet (kind : TimeoutKind) (fd : Socket) : List TimeoutCall → Option TimeoutArgument
  | [] => none
  | call :: earlier =>
      if call.kind = kind ∧ call.owner.socket = fd ∧ 0 ≤ call.iErr then some call.argument
      else lastSet kind fd earlier

/-- What an argument means: milliseconds stand for the exact normalised duration. -/
def TimeoutArgument.Denotes (value : Timeval) : TimeoutArgument → Prop
  | .msec time => value.tvSec * 1000000 + value.tvUsec = 1000 * time.toNat ∧
      0 ≤ value.tvUsec ∧ value.tvUsec < 1000000
  | .timeval timeout => value = timeout

structure TimeoutRun where
  calls : List TimeoutCall
  trace : Trace

def TimeoutRun.step (run : TimeoutRun) (call : TimeoutCall) : TimeoutRun where
  calls := call :: run.calls
  trace := (call.perform run.trace).2

/-- Every option of every socket is what the last successful setter made it, or what it was
before. -/
def TimeoutRun.Agrees (initial : TimeoutKind → Socket → Timeval) (run : TimeoutRun) : Prop :=
  ∀ kind fd, match lastSet kind fd run.calls with
    | none => run.trace.timeout initial kind fd = initial kind fd
    | some argument => argument.Denotes (run.trace.timeout initial kind fd)

/-- The millisecond overloads of the servers that say send and set receive. -/
def TimeoutCall.misdirected (call : TimeoutCall) : Bool :=
  match call.owner, call.kind, call.argument with
  | .server .., .snd, .msec _ | .sslServer .., .snd, .msec _ => true
  | _, _, _ => false

def TimeoutArgument.value : TimeoutArgument → Timeval
  | .msec time => timevalFromMsec time
  | .timeval timeout => timeout

theorem TimeoutArgument.denotes_iff {argument : TimeoutArgument} {value : Timeval} :
    argument.Denotes value ↔ value = argument.value := by
  cases argument with
  | timeval timeout => rfl
  | msec time =>
      obtain ⟨exact, lower, upper⟩ := timevalFromMsec_normalised time
      constructor
      · rintro ⟨same, low, high⟩
        obtain ⟨seconds, micros⟩ := value
        simp only [TimeoutArgument.value] at *
        have sameSeconds : seconds = (timevalFromMsec time).tvSec := by omega
        have sameMicros : micros = (timevalFromMsec time).tvUsec := by omega
        rw [sameSeconds, sameMicros]
      · rintro rfl
        exact ⟨exact, lower, upper⟩

def TimeoutCall.option (call : TimeoutCall) : SockOption :=
  if call.misdirected then .rcvTimeo call.argument.value
  else match call.kind with
    | .rcv => .rcvTimeo call.argument.value
    | .snd => .sndTimeo call.argument.value

/-- Every overload is one `setsockopt` on the socket of its owner. -/
theorem TimeoutCall.perform_eq (call : TimeoutCall) (trace : Trace) :
    ∃ flags failure, call.perform trace =
      setTimeout call.owner.socket flags call.option failure call.iErr trace := by
  obtain ⟨owner, kind, argument, iErr⟩ := call
  cases owner <;> cases kind <;> cases argument <;> exact ⟨_, _, rfl⟩

/-- The option that a call sets is the one it is named after, with one exception. -/
theorem TimeoutCall.option_timeout {call : TimeoutCall} (directed : ¬ call.misdirected)
    (kind : TimeoutKind) :
    call.option.timeout kind = if call.kind = kind then some call.argument.value else none := by
  simp only [TimeoutCall.option, if_neg directed]
  cases call.kind <;> cases kind <;> rfl

theorem TimeoutCall.misdirected_kind {call : TimeoutCall} (misdirected : call.misdirected) :
    call.kind = .snd ∧ ∀ kind, call.option.timeout kind =
      if kind = .rcv then some call.argument.value else none := by
  have option : call.option = .rcvTimeo call.argument.value := if_pos misdirected
  refine ⟨?_, ?_⟩
  · obtain ⟨owner, kind, argument, iErr⟩ := call
    cases owner <;> cases kind <;> cases argument <;> first | rfl | cases misdirected
  · intro kind
    rw [option]
    cases kind <;> rfl

section

variable (initial : TimeoutKind → Socket → Timeval)

/-- What an option should be. -/
def TimeoutRun.expected (run : TimeoutRun) (kind : TimeoutKind) (fd : Socket) : Timeval :=
  ((lastSet kind fd run.calls).map TimeoutArgument.value).getD (initial kind fd)

theorem TimeoutRun.agrees_iff {run : TimeoutRun} :
    run.Agrees initial ↔ ∀ kind fd,
      run.trace.timeout initial kind fd = run.expected initial kind fd := by
  refine forall_congr' fun kind => forall_congr' fun fd => ?_
  rw [TimeoutRun.expected]
  cases lastSet kind fd run.calls with
  | none => rfl
  | some argument => exact TimeoutArgument.denotes_iff

theorem Trace.timeout_oLog (kind : TimeoutKind) (fd : Socket) (trace : Trace)
    (flags : SettingsFlag) (message : String) :
    (trace.oLog flags message).timeout initial kind fd = trace.timeout initial kind fd := by
  simp only [Trace.oLog]
  split <;> rfl

theorem TimeoutRun.step_timeout (run : TimeoutRun) (call : TimeoutCall) (kind : TimeoutKind)
    (fd : Socket) :
    (run.step call).trace.timeout initial kind fd =
      if call.owner.socket = fd ∧ 0 ≤ call.iErr then
        (call.option.timeout kind).getD (run.trace.timeout initial kind fd)
      else run.trace.timeout initial kind fd := by
  obtain ⟨flags, failure, performed⟩ := call.perform_eq run.trace
  simp only [TimeoutRun.step, performed, setTimeout]
  split
  · rw [Trace.timeout_oLog]
    rfl
  · rfl

theorem TimeoutRun.step_expected (run : TimeoutRun) (call : TimeoutCall) (kind : TimeoutKind)
    (fd : Socket) :
    (run.step call).expected initial kind fd =
      if call.owner.socket = fd ∧ 0 ≤ call.iErr then
        if call.kind = kind then call.argument.value else run.expected initial kind fd
      else run.expected initial kind fd := by
  simp only [TimeoutRun.step, TimeoutRun.expected, lastSet]
  by_cases own : call.owner.socket = fd ∧ 0 ≤ call.iErr
  · by_cases same : call.kind = kind
    · simp [own, same]
    · simp [own, same]
  · simp [own]

/-- A call that cannot be told from the one it should be: it is directed at its
own option, or it fails, or both options hold its value already. -/
def TimeoutCall.Harmless (run : TimeoutRun) (call : TimeoutCall) : Prop :=
  call.misdirected → 0 ≤ call.iErr →
    ∀ kind, run.trace.timeout initial kind call.owner.socket = call.argument.value

theorem TimeoutRun.agrees_step_iff {run : TimeoutRun} (agrees : run.Agrees initial)
    (call : TimeoutCall) : (run.step call).Agrees initial ↔ call.Harmless initial run := by
  rw [TimeoutRun.agrees_iff] at agrees ⊢
  simp only [run.step_timeout initial call, run.step_expected initial call, ← agrees]
  by_cases misdirected : call.misdirected
  · obtain ⟨named, sets⟩ := TimeoutCall.misdirected_kind misdirected
    by_cases succeeds : 0 ≤ call.iErr
    · have harmless : call.Harmless initial run ↔
          ∀ kind, run.trace.timeout initial kind call.owner.socket = call.argument.value :=
        ⟨fun holds => holds misdirected succeeds, fun holds _ _ => holds⟩
      rw [harmless]
      constructor
      · intro step kind
        have now := step kind call.owner.socket
        cases kind with
        | rcv => simpa [succeeds, named, sets, eq_comm] using now
        | snd => simpa [succeeds, named, sets] using now
      · intro holds kind fd
        by_cases own : call.owner.socket = fd
        · subst own
          cases kind with
          | rcv => simp [succeeds, named, sets, holds]
          | snd => simp [succeeds, named, sets, holds]
        · simp [own]
    · have harmless : call.Harmless initial run := fun _ success => absurd success succeeds
      simp [succeeds, harmless]
  · have harmless : call.Harmless initial run := fun wrong => absurd wrong misdirected
    have directed (kind : TimeoutKind) (fd : Socket) :
        (call.option.timeout kind).getD (run.trace.timeout initial kind fd) =
          if call.kind = kind then call.argument.value
          else run.trace.timeout initial kind fd := by
      rw [TimeoutCall.option_timeout misdirected]
      split <;> rfl
    simp [directed, harmless]

def TimeoutRun.init : TimeoutRun where
  calls := []
  trace := []

theorem TimeoutRun.agrees_init : TimeoutRun.init.Agrees initial := by
  intro kind fd
  rfl

/-- In a run of timeout setters every option of every socket is what its last
successful setter made it, exactly when every call is harmless, whatever the options were
before the run. -/
theorem timeouts_agree_iff (calls : List TimeoutCall) :
    Runs.Always TimeoutRun.step (TimeoutRun.Agrees initial) .init calls ↔
      Runs.Steps TimeoutRun.step (fun run call => call.Harmless initial run) .init calls :=
  Runs.always_iff_steps (fun _ agrees => agrees)
    (fun _ call agrees harmless =>
      (TimeoutRun.agrees_step_iff initial agrees call).mpr harmless)
    (fun _ call agrees harmful step =>
      harmful ((TimeoutRun.agrees_step_iff initial agrees call).mp step))
    (TimeoutRun.agrees_init initial)

end

/-- No timeouts. -/
def noTimeouts (_ : TimeoutKind) (_ : Socket) : Timeval :=
  { tvSec := 0, tvUsec := 0 }

/-- A send timeout of five seconds for an accepted socket becomes its receive timeout. -/
theorem server_send_timeout_sets_receive :
    let call : TimeoutCall :=
      { owner := .server (.new "80" .noFlags) 4, kind := .snd, argument := .msec 5000, iErr := 0 }
    let run := TimeoutRun.init.step call
    lastSet .snd 4 run.calls = some (.msec 5000) ∧ lastSet .rcv 4 run.calls = none ∧
      run.trace.timeout noTimeouts .snd 4 = { tvSec := 0, tvUsec := 0 } ∧
      run.trace.timeout noTimeouts .rcv 4 = { tvSec := 5, tvUsec := 0 } ∧
      ¬ run.Agrees noTimeouts := by
  intro call run
  refine ⟨by decide, by decide, by decide, by decide, ?_⟩
  intro agrees
  have unset : run.trace.timeout noTimeouts .rcv 4 = noTimeouts .rcv 4 := agrees .rcv 4
  exact absurd unset (by decide)

/-- A timeout that both options have already is no mistake. -/
example : TimeoutCall.Harmless noTimeouts .init
    { owner := .server (.new "80" .noFlags) 4, kind := .snd, argument := .msec 0, iErr := 0 } :=
  fun _ _ kind => by cases kind <;> rfl

end SocketCpp
