import Mathlib.Data.List.TakeWhile
import Mathlib.Data.Nat.Digits.Defs
import SocketCpp.TCPServer.Address

namespace SocketCpp

open Data

/-! Which port a server binds for the string it is constructed with.

The constructor hands the string to `atoi` and the result to `htons`, and checks neither:
blanks, a sign and trailing characters are let through, anything that is not a number is
0, and a number is cut to 16 bits. -/

def digitValue (char : Char) : Nat :=
  char.toNat - 48

/-- `strPort` is a decimal numeral, its value is `port`, and that is a port number. -/
structure Denotes (strPort : String) (port : Nat) : Prop where
  some : strPort.toList ≠ []
  digits : ∀ char ∈ strPort.toList, char.isDigit = true
  value : Nat.ofDigits 10 (strPort.toList.reverse.map digitValue) = port
  inRange : port ≤ 65535

/-- A `bind` names the port that the string denotes. -/
def Call.BindsPort (strPort : String) : Call → Prop
  | .bind _ address _ => Denotes strPort address.sinPort
  | _ => True

/-- A `Listen` without a socket comes to its call of `bind`. -/
def ListenAnswers.Binds (answers : ListenAnswers) : Prop :=
  answers.socket.isSome ∧ 0 ≤ answers.reuseAddr

theorem decimal_eq_ofDigits {digits : List Char} (all : ∀ char ∈ digits, char.isDigit = true) :
    decimal digits = Nat.ofDigits 10 (digits.reverse.map digitValue) := by
  rw [decimal, List.takeWhile_eq_self_iff.mpr all, Nat.ofDigits_eq_foldr, List.map_reverse,
    List.foldr_reverse, List.foldl_map]
  congr 1
  funext value digit
  simp only [digitValue, Nat.cast_id]
  omega

theorem not_isSpace_of_isDigit {char : Char} (digit : char.isDigit = true) :
    isSpace char = false := by
  obtain ⟨lower, upper⟩ := Char.isDigit_iff_toNat.mp digit
  have notBlank : char ≠ ' ' := by
    rintro rfl
    exact absurd lower (by decide)
  have behind : ¬ char.toNat ≤ 0x0d := by
    intro before
    exact absurd (Nat.le_trans lower before) (by decide)
  simp [isSpace, notBlank, behind]

/-- On a string of digits `atoi` computes its value. -/
theorem atoi_of_digits {strPort : String} (all : ∀ char ∈ strPort.toList, char.isDigit = true) :
    atoi strPort = (decimal strPort.toList : Nat) := by
  rw [atoi]
  generalize strPort.toList = chars at all ⊢
  cases chars with
  | nil => rfl
  | cons first rest =>
      have digit : first.isDigit = true := all first List.mem_cons_self
      have kept : (first :: rest).dropWhile isSpace = first :: rest := by
        rw [List.dropWhile_cons, not_isSpace_of_isDigit digit]
        rfl
      rw [kept]
      split
      · next sign =>
          rw [(List.cons.inj sign).1] at digit
          exact absurd digit (by decide)
      · next sign =>
          rw [(List.cons.inj sign).1] at digit
          exact absurd digit (by decide)
      · rfl

/-- The port of a string that denotes one goes through `atoi` and `htons` unchanged. -/
theorem Denotes.htons_atoi {strPort : String} {port : Nat} (denotes : Denotes strPort port) :
    htons (atoi strPort) = port := by
  have inRange := denotes.inRange
  rw [atoi_of_digits denotes.digits, decimal_eq_ofDigits denotes.digits, denotes.value, htons]
  omega

theorem denotes_htons_iff (strPort : String) :
    Denotes strPort (htons (atoi strPort)) ↔ ∃ port, Denotes strPort port := by
  constructor
  · exact fun denotes => ⟨_, denotes⟩
  · rintro ⟨port, denotes⟩
    rw [denotes.htons_atoi]
    exact denotes

def Call.isBind : Call → Bool
  | .bind .. => true
  | _ => false

/-- A `bind` gives this address. -/
def Call.Names (address : SockAddrIn) : Call → Prop
  | .bind _ named _ => named = address
  | _ => True

theorem Call.Accepts.not_isBind {fd : Socket} {call : Call} (accepts : call.Accepts fd) :
    call.isBind = false := by
  cases call <;> first | rfl | exact accepts.elim

theorem Call.names_of_not_isBind {call : Call} (other : call.isBind = false)
    (address : SockAddrIn) : call.Names address := by
  cases call <;> trivial

theorem Call.bindsPort_of_not_isBind {call : Call} (other : call.isBind = false)
    (strPort : String) : call.BindsPort strPort := by
  cases call <;> trivial

theorem Call.Names.bindsPort {address : SockAddrIn} {call : Call} (names : call.Names address)
    {strPort : String} (denotes : Denotes strPort address.sinPort) : call.BindsPort strPort := by
  cases call with
  | bind fd named result =>
      obtain rfl : named = address := names
      exact denotes
  | _ => trivial

namespace CTCPServer

/-- A socket is created without a `bind` and given up, or there is one `bind`, to the
address of the server. -/
theorem createListenSocket_bind (server : CTCPServer) (answers : ListenAnswers)
    (trace : Trace) :
    let result := server.createListenSocket answers trace
    (¬ answers.Binds ∧ result.value = false ∧ result.self.listenSocket = invalidSocket ∧
      Extends (fun call : Call => call.isBind = false) trace result.trace) ∨
    (answers.Binds ∧ ∃ fd before,
      Extends (fun call : Call => call.isBind = false) trace before ∧
      Extends (fun call : Call => call.isBind = false)
        (.bind fd server.servAddr answers.bind :: before) result.trace) := by
  intro result
  have created : Extends (fun call : Call => call.isBind = false) trace
      (.socket afInet sockStream 0 (trace.newSocket answers.socket) :: trace) :=
    Extends.cons_iff.mpr rfl
  simp only [result, createListenSocket, ListenAnswers.Binds]
  cases answer : answers.socket with
  | none =>
      have negative : trace.newSocket none < 0 := show invalidSocket < 0 by decide
      rw [answer] at created
      rw [if_pos negative]
      exact .inl ⟨by simp, rfl, rfl, Trace.oLog_extends created _ _ rfl⟩
  | some named =>
      have valid := trace.newSocket_some_nonneg named
      rw [answer] at created
      rw [if_neg (Int.not_lt.mpr valid)]
      have allowed := created.cons (.setsockopt (trace.newSocket (some named)) (.reuseAddr 1)
        answers.reuseAddr) rfl
      by_cases refused : answers.reuseAddr < 0
      · rw [if_pos refused]
        have logged := Trace.oLog_extends allowed server.eSettingsFlags
          ("[TCPServer][Error] CTCPServer::Listen : " ++
            "Socket error in SO_REUSEADDR call to setsockopt.") rfl
        exact .inl ⟨fun binds => absurd refused (Int.not_lt.mpr binds.2), rfl, rfl,
          logged.cons _ rfl⟩
      · rw [if_neg refused]
        have binds : (some named).isSome ∧ 0 ≤ answers.reuseAddr := ⟨rfl, Int.not_lt.mp refused⟩
        refine .inr ⟨binds, trace.newSocket (some named), _, allowed, ?_⟩
        split_ifs
        · exact Trace.oLog_extends (Extends.refl _ _) _ _ rfl
        · exact Extends.refl _ _

variable {state : State CTCPServer} {address : SockAddrIn}

theorem createListenSocket_names (server : CTCPServer) (answers : ListenAnswers)
    (trace : Trace) :
    Extends (Call.Names server.servAddr) trace
      (server.createListenSocket answers trace).trace := by
  have others : ∀ call : Call, call.isBind = false → call.Names server.servAddr :=
    fun _ other => Call.names_of_not_isBind other server.servAddr
  rcases server.createListenSocket_bind answers trace with
    ⟨-, -, -, calls⟩ | ⟨-, fd, before, first, later⟩
  · exact calls.mono others
  · have named := (first.mono others).cons (.bind fd server.servAddr answers.bind) rfl
    exact named.trans (later.mono others)

theorem step_names (state : State CTCPServer) (op : ListenOp) :
    (step state op).self.servAddr = state.self.servAddr ∧
      Extends (Call.Names state.self.servAddr) state.trace (step state op).trace := by
  have created := state.self.createListenSocket_names op.answers state.trace
  have accepts : ∀ fd (call : Call), call.Accepts fd → call.Names state.self.servAddr :=
    fun _ _ accepts => Call.names_of_not_isBind accepts.not_isBind state.self.servAddr
  refine ⟨?_, listen_adds created accepts op.msec⟩
  have self (server : CTCPServer) (trace : Trace) :
      (server.acceptClient op.msec op.answers trace).self = server :=
    (server.acceptClient_calls op.msec op.answers trace).1
  have kept := (state.self.createListenSocket_created op.answers state.trace).servAddr
  simp only [step, listen]
  split_ifs
  · rw [self]
    exact kept
  · exact kept
  · rw [self]

theorem foldl_names (operations : List ListenOp) (named : state.self.servAddr = address) :
    (operations.foldl step state).self.servAddr = address ∧
      Extends (Call.Names address) state.trace (operations.foldl step state).trace := by
  induction operations generalizing state with
  | nil => exact ⟨named, Extends.refl _ _⟩
  | cons op operations ih =>
      obtain ⟨kept, calls⟩ := step_names state op
      obtain ⟨ends, later⟩ := ih (kept.trans named)
      rw [named] at calls
      exact ⟨ends, calls.trans later⟩

/-- Until a `Listen` comes to its call of `bind` there is no socket. -/
theorem step_stops (missing : state.self.listenSocket = invalidSocket) {op : ListenOp}
    (stops : ¬ op.answers.Binds) :
    (step state op).self.listenSocket = invalidSocket ∧
      Extends (fun call : Call => call.isBind = false) state.trace (step state op).trace := by
  rcases state.self.createListenSocket_bind op.answers state.trace with
    ⟨-, value, kept, calls⟩ | ⟨binds, -⟩
  · simp only [step, listen]
    rw [if_pos missing, if_neg (by rw [value]; exact Bool.false_ne_true)]
    exact ⟨kept, calls⟩
  · exact absurd binds stops

theorem step_binds (missing : state.self.listenSocket = invalidSocket) {op : ListenOp}
    (binds : op.answers.Binds) :
    ∃ fd, .bind fd state.self.servAddr op.answers.bind ∈ (step state op).trace := by
  rcases state.self.createListenSocket_bind op.answers state.trace with
    ⟨stops, -⟩ | ⟨-, fd, before, -, added, after, -⟩
  · exact absurd binds stops
  · have created : .bind fd state.self.servAddr op.answers.bind ∈
        (state.self.createListenSocket op.answers state.trace).trace := by
      simp [after]
    refine ⟨fd, ?_⟩
    simp only [step, listen]
    rw [if_pos missing]
    split
    · obtain ⟨later, extended, -⟩ := acceptClient_accepts
        (state.self.createListenSocket op.answers state.trace).self op.msec op.answers
        (state.self.createListenSocket op.answers state.trace).trace
      rw [extended]
      exact List.mem_append_right later created
    · exact created

theorem foldl_bindsPort_iff {strPort : String} (missing : state.self.listenSocket = invalidSocket)
    (unbound : ∀ call ∈ state.trace, call.isBind = false) (operations : List ListenOp) :
    (∀ call ∈ (operations.foldl step state).trace, call.BindsPort strPort) ↔
      Denotes strPort state.self.servAddr.sinPort ∨
        ∀ op ∈ operations, ¬ op.answers.Binds := by
  induction operations generalizing state with
  | nil =>
      refine iff_of_true ?_ (.inr (by simp))
      intro call member
      have other := unbound call member
      exact call.bindsPort_of_not_isBind other strPort
  | cons op operations ih =>
      rw [List.foldl_cons, List.forall_mem_cons]
      by_cases binds : op.answers.Binds
      · have done : ¬ (¬ op.answers.Binds ∧ ∀ other ∈ operations, ¬ other.answers.Binds) :=
          fun none => none.1 binds
        rw [or_iff_left done]
        constructor
        · intro ports
          obtain ⟨fd, member⟩ := step_binds missing binds
          obtain ⟨added, after, -⟩ := (foldl_names operations (step_names state op).1).2
          exact ports _ (by rw [after]; exact List.mem_append_right added member)
        · intro denotes call member
          obtain ⟨added, after, names⟩ := (@foldl_names state _ (op :: operations) rfl).2
          rw [← List.foldl_cons, after] at member
          rcases List.mem_append.mp member with new | old
          · exact (names call new).bindsPort denotes
          · exact call.bindsPort_of_not_isBind (unbound call old) strPort
      · obtain ⟨kept, calls⟩ := step_stops missing binds
        have servAddr := (step_names state op).1
        have still : ∀ call ∈ (step state op).trace, call.isBind = false := by
          obtain ⟨added, after, others⟩ := calls
          rw [after, List.forall_mem_append]
          exact ⟨others, unbound⟩
        rw [ih kept still, servAddr, and_iff_right binds]

/-- A server binds only the port that its string denotes exactly when the string denotes
one, or when no `Listen` of the run comes to its call of `bind`. -/
theorem binds_denoted_port_iff (strPort : String) (eSettings : SettingsFlag)
    (operations : List ListenOp) :
    (∀ call ∈ (operations.foldl step (init strPort eSettings)).trace, call.BindsPort strPort) ↔
      (∃ port, Denotes strPort port) ∨ ∀ op ∈ operations, ¬ op.answers.Binds := by
  rw [← denotes_htons_iff]
  exact foldl_bindsPort_iff rfl (by simp [init]) operations

/-- Trailing characters, a number above 65535, a negative one and a word are all bound to
some port. -/
theorem binds_other_port :
    let answers : ListenAnswers := ⟨some 3, 0, 0, 0, ⟨1, true⟩, some 4, ⟨2, 2130706433, 40000⟩, ""⟩
    let bound (strPort : String) : Trace := (step (init strPort .noFlags) ⟨0, answers⟩).trace
    Call.bind 3 ⟨afInet, inaddrAny, 80⟩ 0 ∈ bound "80abc" ∧
      Call.bind 3 ⟨afInet, inaddrAny, 80⟩ 0 ∈ bound "65616" ∧
      Call.bind 3 ⟨afInet, inaddrAny, 65535⟩ 0 ∈ bound "-1" ∧
      Call.bind 3 ⟨afInet, inaddrAny, 0⟩ 0 ∈ bound "http" ∧
      (¬ ∃ port, Denotes "80abc" port) ∧
      ¬ ∀ call ∈ bound "80abc", call.BindsPort "80abc" := by
  intro answers bound
  have denotesNone : ¬ ∃ port, Denotes "80abc" port := by
    rintro ⟨port, denotes⟩
    exact absurd (denotes.digits 'a' (by decide)) (by decide)
  have trailing : Call.bind 3 ⟨afInet, inaddrAny, 80⟩ 0 ∈ bound "80abc" := by decide
  refine ⟨trailing, by decide, by decide, by decide, denotesNone, ?_⟩
  exact fun ports => denotesNone ⟨80, ports _ trailing⟩

end CTCPServer

end SocketCpp
