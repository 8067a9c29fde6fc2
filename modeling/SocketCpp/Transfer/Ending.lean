import SocketCpp.Transfer.Accounting
import SocketCpp.Transfer.SecurePeer

namespace SocketCpp

open Data

/-! How the four `Receive` loops report the end of a stream.

The comment in front of the plain ones says what the report means: the bytes
received, 0 when the connection was closed, and a negative value when the read
failed. -/

/-- What the transport does in front of one read. -/
inductive Arrival where
  | chunk (bytes : List UInt8)
  | close
  | failure (result error : Int)
deriving DecidableEq, Repr

namespace Arrival

/-- What `recv` makes of it. -/
def plain : Arrival → RecvAnswer
  | .chunk bytes => .data bytes
  | .close => .status 0 0
  | .failure _ _ => .status (-1) 0

/-- What `SSL_read` makes of it: a `close_notify` is `SSL_ERROR_ZERO_RETURN`. -/
def secure : Arrival → RecvAnswer
  | .chunk bytes => .data bytes
  | .close => .status 0 6
  | .failure result error => .status result error

def IsFailure : Arrival → Prop
  | .failure _ _ => True
  | _ => False

end Arrival

/-- What a read can be given while the buffer holds `filled` bytes.  What comes after the
last read is left open. -/
def Fits (uSize : Nat) (bReadFully : Bool) : Nat → List Arrival → Prop
  | _, [] => True
  | filled, .chunk bytes :: rest =>
      bytes ≠ [] ∧ filled + bytes.length ≤ uSize ∧
        (bReadFully ∧ filled + bytes.length < uSize →
          Fits uSize bReadFully (filled + bytes.length) rest)
  | _, .close :: _ => True
  | _, .failure result _ :: _ => -2147483648 ≤ result ∧ result ≤ 0

def FailsAtOnce : List Arrival → Prop
  | arrival :: _ => arrival.IsFailure
  | [] => False

/-- Only the first arrival may be a failure. -/
def FailsOnlyFirst (arrivals : List Arrival) : Prop :=
  ∀ arrival ∈ arrivals.tail, ¬ arrival.IsFailure

/-- The documented report, and `none` while there is nothing to read yet. -/
def ending (uSize : Nat) (bReadFully : Bool) : Nat → List Arrival → Option Int
  | _, [] => none
  | filled, .chunk bytes :: rest =>
      if bReadFully ∧ filled + bytes.length < uSize then
        ending uSize bReadFully (filled + bytes.length) rest
      else some (filled + bytes.length : Nat)
  | filled, .close :: _ => some filled
  | _, .failure _ _ :: _ => some (-1)

def reported : ReceiveState ⊕ Received → Option Int :=
  Sum.elim (fun _ => none) fun result => some result.value

/-- The two reports are the same, and mean what they are documented to mean. -/
structure Alike (arrivals : List Arrival) (plain secure : Option Int) : Prop where
  same : plain = secure
  closed : secure = some 0 → arrivals.head? = some .close
  failed : ∀ value, secure = some value → value < 0 → FailsAtOnce arrivals

section Meaning

variable {uSize : Nat} {bReadFully : Bool} {filled : Nat} {arrivals : List Arrival}

theorem ending_of_clean (clean : ∀ arrival ∈ arrivals, ¬ arrival.IsFailure) {value : Int}
    (ended : ending uSize bReadFully filled arrivals = some value) : filled ≤ value := by
  induction arrivals generalizing filled with
  | nil => cases ended
  | cons arrival rest ih =>
      obtain ⟨first, later⟩ := List.forall_mem_cons.mp clean
      cases arrival with
      | chunk bytes =>
          rw [ending] at ended
          split at ended
          · have grown := ih later ended
            omega
          · cases ended
            omega
      | close =>
          cases ended
          exact Int.le_refl _
      | failure => exact absurd trivial first

/-- The documented report of a stream that does not fail: 0 only for a close, and
never negative. -/
theorem ending_means (fits : Fits uSize bReadFully 0 arrivals)
    (clean : ∀ arrival ∈ arrivals, ¬ arrival.IsFailure) {value : Int}
    (ended : ending uSize bReadFully 0 arrivals = some value) :
    0 ≤ value ∧ (value = 0 → arrivals.head? = some .close) := by
  have lower := ending_of_clean clean ended
  refine ⟨lower, ?_⟩
  rintro rfl
  cases arrivals with
  | nil => cases ended
  | cons arrival rest =>
      obtain ⟨first, later⟩ := List.forall_mem_cons.mp clean
      cases arrival with
      | chunk bytes =>
          have some : 0 < bytes.length := List.length_pos_iff.mpr fits.1
          rw [ending] at ended
          split at ended
          · have grown := ending_of_clean later ended
            omega
          · have filled := Option.some.inj ended
            omega
      | close => rfl
      | failure => exact absurd trivial first

theorem clean_of_failsOnlyFirst (onlyFirst : FailsOnlyFirst arrivals)
    (starts : ¬ FailsAtOnce arrivals) : ∀ arrival ∈ arrivals, ¬ arrival.IsFailure := by
  cases arrivals with
  | nil =>
      intro arrival member
      cases member
  | cons first rest =>
      intro arrival member
      rcases List.mem_cons.mp member with rfl | member
      · exact starts
      · exact onlyFirst arrival member

end Meaning

/-- What the turns of a loop have to do with chunks and with a close. -/
structure Reads (uSize : Nat) (bReadFully : Bool)
    (turn : ReceiveState → RecvAnswer → ReceiveState ⊕ Received) (view : Arrival → RecvAnswer) :
    Prop where
  chunk : ∀ (state : ReceiveState) (filled : Nat) (bytes : List UInt8), state.total = filled →
    bytes ≠ [] → filled + bytes.length ≤ uSize →
    if bReadFully ∧ filled + bytes.length < uSize then
      ∃ next, turn state (view (.chunk bytes)) = .inl next ∧
        next.total = (filled + bytes.length : Nat)
    else
      ∃ result, turn state (view (.chunk bytes)) = .inr result ∧
        result.value = (filled + bytes.length : Nat)
  close : ∀ state, ∃ result, turn state (view .close) = .inr result ∧ result.value = state.total

section Loops

variable {uSize : Nat} {bReadFully : Bool}

theorem Reads.reported {turn : ReceiveState → RecvAnswer → ReceiveState ⊕ Received}
    {view : Arrival → RecvAnswer} (reads : Reads uSize bReadFully turn view)
    {arrivals : List Arrival} {filled : Nat} {state : ReceiveState}
    (clean : ∀ arrival ∈ arrivals, ¬ arrival.IsFailure)
    (fits : Fits uSize bReadFully filled arrivals) (total : state.total = filled) :
    SocketCpp.reported (CallLoop.run turn state (arrivals.map view)) =
      ending uSize bReadFully filled arrivals := by
  induction arrivals generalizing filled state with
  | nil => rfl
  | cons arrival rest ih =>
      obtain ⟨first, later⟩ := List.forall_mem_cons.mp clean
      cases arrival with
      | chunk bytes =>
          obtain ⟨some, within, continues⟩ := fits
          have turned := reads.chunk state filled bytes total some within
          rw [List.map_cons, ending]
          split at turned
          · next going =>
              obtain ⟨next, turned, advanced⟩ := turned
              rw [if_pos going, CallLoop.run_cons_continue _ turned]
              exact ih later (continues going) advanced
          · next stopped =>
              obtain ⟨result, turned, value⟩ := turned
              rw [if_neg stopped, CallLoop.run_cons_return _ turned, SocketCpp.reported,
                Sum.elim_inr, value]
      | close =>
          obtain ⟨result, turned, value⟩ := reads.close state
          rw [List.map_cons, CallLoop.run_cons_return _ turned, SocketCpp.reported, Sum.elim_inr,
            value, total]
          rfl
      | failure => exact absurd trivial first

theorem PlainPeer.reads (peer : PlainPeer) (fits : uSize ≤ intMax) :
    Reads uSize bReadFully (peer.recvTurn uSize bReadFully) Arrival.plain where
  chunk := by
    intro state filled bytes total some within
    obtain ⟨received, summed, compared⟩ := counts_nat_within fits within
    have nonzero : ¬ (bytes.length : Int) = 0 := by
      have positive := List.length_pos_iff.mpr some
      omega
    simp only [recvTurn, SocketCpp.recvTurn, Arrival.plain, RecvAnswer.result, received, nonzero,
      if_false, total, summed, compared]
    split
    · exact ⟨_, rfl, rfl⟩
    · exact ⟨_, rfl, rfl⟩
  close := fun _ => ⟨_, rfl, rfl⟩

theorem SecurePeer.reads (peer : SecurePeer) (fits : uSize ≤ intMax) :
    Reads uSize bReadFully (peer.recvTurn uSize bReadFully) Arrival.secure where
  chunk := by
    intro state filled bytes total some within
    obtain ⟨received, summed, compared⟩ := counts_nat_within fits within
    have positive : ¬ (bytes.length : Int) ≤ 0 := by
      have positive := List.length_pos_iff.mpr some
      omega
    obtain ⟨failed, -, turned⟩ := peer.recvTurn_eq uSize bReadFully state (.data bytes)
    simp only [RecvAnswer.result, received, positive, if_false, total, summed, compared] at turned
    simp only [Arrival.secure, turned]
    split
    · exact ⟨_, rfl, rfl⟩
    · exact ⟨_, rfl, rfl⟩
  close := by
    intro state
    obtain ⟨failed, -, turned⟩ := peer.recvTurn_eq uSize bReadFully state (.status 0 6)
    exact ⟨_, turned, rfl⟩

/-- A plain read that fails at once is reported as documented. -/
theorem PlainPeer.reported_failure (peer : PlainPeer) (fits : uSize ≤ intMax)
    (pData : Buffer UInt8) (result error : Int) (rest : List RecvAnswer) (trace : Trace) :
    reported (CallLoop.run (peer.recvTurn uSize bReadFully) (.start (some pData) trace)
      ((Arrival.failure result error).plain :: rest)) = some (-1) := by
  have large : ¬ toSizeT (-1) < uSize := by
    have beyond := toSizeT_of_neg (show (-2147483648 : Int) ≤ -1 by decide) (by decide)
    omega
  have kept : wrapInt (-1) = -1 := by decide
  have turned : ∃ result, peer.recvTurn uSize bReadFully (.start (some pData) trace)
      (.status (-1) 0) = .inr result ∧ result.value = -1 := by
    simp [recvTurn, SocketCpp.recvTurn, RecvAnswer.result, ReceiveState.start, kept, large]
  obtain ⟨received, turned, value⟩ := turned
  rw [Arrival.plain, CallLoop.run_cons_return _ turned, reported, Sum.elim_inr, value]

/-- A secure read that fails at once is reported like a close. -/
theorem SecurePeer.reported_failure (peer : SecurePeer) (pData : Buffer UInt8)
    {result : Int} (error : Int) (lower : -2147483648 ≤ result) (upper : result ≤ 0)
    (rest : List RecvAnswer) (trace : Trace) :
    reported (CallLoop.run (peer.recvTurn uSize bReadFully) (.start (some pData) trace)
      ((Arrival.failure result error).secure :: rest)) = some 0 := by
  obtain ⟨failed, -, turned⟩ := peer.recvTurn_eq uSize bReadFully (.start (some pData) trace)
    (.status result error)
  have same : wrapInt result = result :=
    wrapInt_eq_self lower (Int.le_trans upper (Int.natCast_nonneg intMax))
  simp only [RecvAnswer.result, same, upper, if_true] at turned
  rw [Arrival.secure, CallLoop.run_cons_return _ turned]
  rfl

end Loops

/-- A secure `Receive` reports the end of a stream like a plain one exactly when the
stream does not fail at once. -/
theorem receive_alike_iff (plain : PlainPeer) (plainReady : plain.Ready) (secure : SecurePeer)
    (secureReady : secure.Ready) {uSize : Nat} (positive : 0 < uSize) (fits : uSize ≤ intMax)
    (bReadFully : Bool) (pData : Buffer UInt8) {arrivals : List Arrival}
    (possible : Fits uSize bReadFully 0 arrivals) (onlyFirst : FailsOnlyFirst arrivals)
    (plainTrace secureTrace : Trace) :
    Alike arrivals
        (reported (plain.receive (some pData) uSize bReadFully (arrivals.map Arrival.plain)
          plainTrace))
        (reported (secure.receive (some pData) uSize bReadFully (arrivals.map Arrival.secure)
          secureTrace)) ↔
      ¬ FailsAtOnce arrivals := by
  rw [PlainPeer.receive_of_ready plainReady positive, SecurePeer.receive_of_ready secureReady]
  constructor
  · intro alike atOnce
    cases arrivals with
    | nil => exact atOnce
    | cons arrival rest =>
        cases arrival with
        | chunk => exact atOnce
        | close => exact atOnce
        | failure result error =>
            have same := alike.same
            rw [List.map_cons, plain.reported_failure fits, List.map_cons,
              secure.reported_failure pData error possible.1 possible.2] at same
            cases same
  · intro starts
    have clean := clean_of_failsOnlyFirst onlyFirst starts
    have plainReport := (plain.reads fits).reported clean possible
      (show (ReceiveState.start (some pData) plainTrace).total = (0 : Nat) from rfl)
    have secureReport := (secure.reads fits).reported clean possible
      (show (ReceiveState.start (some pData) secureTrace).total = (0 : Nat) from rfl)
    rw [plainReport, secureReport]
    refine ⟨rfl, ?_, ?_⟩
    · exact fun ended => (ending_means possible clean ended).2 rfl
    · exact fun value ended negative =>
        absurd (ending_means possible clean ended).1 (Int.not_le.mpr negative)

def secureSettings : ASecureSocket where
  eSettingsFlags := .noFlags
  eOpenSSLProtocol := .tls
  strCAFile := ""
  strSSLCertFile := ""
  strSSLKeyFile := ""

def sessionSocket : SSLSocket :=
  { SSLSocket.empty with sockFd := 3, pCTXSSL := some 1, pSSL := some 2 }

def connectedSSLClient : CTCPSSLClient :=
  { CTCPSSLClient.new secureSettings with
    tcpClient := connectedClient
    sslConnectSocket := sessionSocket }

theorem receive_alike_iff_two_chunks :
    let arrivals := [Arrival.chunk [1, 2], .chunk [3], .close]
    Fits 8 true 0 arrivals ∧ FailsOnlyFirst arrivals ∧
      Alike arrivals
        (reported (connectedClient.receive (some fun _ => 0) 8 true (arrivals.map Arrival.plain) []))
        (reported (connectedSSLClient.receive (some fun _ => 0) 8 true
          (arrivals.map Arrival.secure) [])) := by
  intro arrivals
  have possible : Fits 8 true 0 arrivals := by simp [arrivals, Fits]
  have onlyFirst : FailsOnlyFirst arrivals := by simp [arrivals, FailsOnlyFirst, Arrival.IsFailure]
  exact ⟨possible, onlyFirst, (receive_alike_iff (.client connectedClient) rfl
    (.client connectedSSLClient) rfl (by decide) (by decide) true (fun _ => 0) possible onlyFirst
    [] []).mpr id⟩

/-- A read that fails at once: the plain loops report a failure, and the secure ones
report that the connection was closed. -/
theorem receive_failure_reported_as_close :
    let arrivals := [Arrival.failure (-1) 1]
    let plainServer := CTCPServer.new "80" .noFlags
    let secureServer := CTCPSSLServer.new "443" secureSettings
    let plain := reported (connectedClient.receive (some fun _ => 0) 8 true
      (arrivals.map Arrival.plain) [])
    let secure := reported (connectedSSLClient.receive (some fun _ => 0) 8 true
      (arrivals.map Arrival.secure) [])
    let plainOfServer := reported (plainServer.receive 4 (some fun _ => 0) 8 true
      (arrivals.map Arrival.plain) [])
    let secureOfServer := reported (secureServer.receive sessionSocket (some fun _ => 0) 8 true
      (arrivals.map Arrival.secure) [])
    Fits 8 true 0 arrivals ∧ FailsOnlyFirst arrivals ∧
      plain = some (-1) ∧ secure = some 0 ∧ ¬ Alike arrivals plain secure ∧
      plainOfServer = some (-1) ∧ secureOfServer = some 0 ∧
      ¬ Alike arrivals plainOfServer secureOfServer := by
  intro arrivals plainServer secureServer plain secure plainOfServer secureOfServer
  have possible : Fits 8 true 0 arrivals := by simp [arrivals, Fits]
  have onlyFirst : FailsOnlyFirst arrivals := by simp [arrivals, FailsOnlyFirst]
  have plainFails : plain = some (-1) := by decide
  have secureCloses : secure = some 0 := by decide
  have plainServerFails : plainOfServer = some (-1) := by decide
  have secureServerCloses : secureOfServer = some 0 := by decide
  refine ⟨possible, onlyFirst, plainFails, secureCloses, ?_, plainServerFails, secureServerCloses,
    ?_⟩
  · intro alike
    have started := alike.closed secureCloses
    cases started
  · intro alike
    have started := alike.closed secureServerCloses
    cases started

end SocketCpp
