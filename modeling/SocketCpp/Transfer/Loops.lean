import SocketCpp.SecureSocket
import SocketCpp.Data.Arithmetic
import SocketCpp.Data.Buffer
import SocketCpp.Data.CallLoop

namespace SocketCpp

open Data

/-! The loops of `Send` and `Receive`.

The plain classes share their two loops and the secure classes share theirs, up
to the descriptor or session used and the text of the log message.  `total` is
the `int` of the source: it counts the bytes, is the offset into `pData`, and is
compared with the `size_t` it counts up to. -/

/-- What one call of `send` or `SSL_write` returns.  `error` is the code that
`SSL_get_error` gives for it. -/
structure SendAnswer where
  result : Int
  error : Int
deriving DecidableEq, Repr, Inhabited

/-- What one call of `recv` or `SSL_read` delivers. -/
inductive RecvAnswer where
  | data (bytes : List UInt8)
  | status (result : Int) (error : Int)
deriving DecidableEq, Repr, Inhabited

def RecvAnswer.result : RecvAnswer → Int
  | .data bytes => bytes.length
  | .status result _ => result

def RecvAnswer.error : RecvAnswer → Int
  | .data _ => 0
  | .status _ error => error

def RecvAnswer.bytes : RecvAnswer → List UInt8
  | .data bytes => bytes
  | .status .. => []

structure SendState where
  total : Int
  trace : Trace

structure Sent extends SendState where
  value : Bool

structure ReceiveState where
  total : Int
  pData : Option (Buffer UInt8)
  trace : Trace

structure Received extends ReceiveState where
  value : Int

/-- The memory behind `pData` after a call that was given `pData + offset`. -/
def RecvAnswer.store (answer : RecvAnswer) (offset : Int) (pData : Option (Buffer UInt8)) :
    Option (Buffer UInt8) :=
  pData.map fun buffer => buffer.write offset answer.bytes

/-- The memory behind `pData` after a call that has got these bytes. -/
def Call.store (call : Call) (answer : RecvAnswer) (pData : Option (Buffer UInt8)) :
    Option (Buffer UInt8) :=
  match call with
  | .recv _ offset _ _ | .sslRead _ offset _ _ => answer.store offset pData
  | _ => pData

/-- `uSize - total`, the length given to the call. -/
def window (uSize : Nat) (total : Int) : Nat :=
  toSizeT (uSize - total)

theorem window_within {uSize : Nat} {total : Int} (lower : 0 ≤ total) (upper : total ≤ uSize)
    (fits : uSize ≤ sizeMax) : (window uSize total : Int) = uSize - total := by
  rw [window, toSizeT_sub lower upper fits]
  omega

/-- A total with which a loop of a size that an `int` can count makes its calls. -/
structure Inside (uSize : Nat) (total : Int) : Prop where
  fits : uSize ≤ intMax
  lower : 0 ≤ total
  below : total < uSize

theorem Inside.window_eq {uSize : Nat} {total : Int} (inside : Inside uSize total) :
    (window uSize total : Int) = uSize - total :=
  window_within inside.lower (Int.le_of_lt inside.below) (Nat.le_trans inside.fits (by decide))

/-- One turn of the loop in `CTCPClient::Send` and `CTCPServer::Send`. -/
def sendTurn (fd : Socket) (flags : SettingsFlag) (failure : String) (uSize : Nat)
    (state : SendState) (answer : SendAnswer) : SendState ⊕ Sent :=
  let trace : Trace :=
    .send fd state.total (window uSize state.total) answer.result :: state.trace
  let nSent := wrapInt answer.result
  if nSent < 0 then
    .inr { total := state.total, trace := trace.oLog flags failure, value := false }
  else
    let total := wrapInt (state.total + nSent)
    if toSizeT total < uSize then .inl { total, trace }
    else .inr { total, trace, value := true }

/-- One turn of the loop in `CTCPClient::Receive` and `CTCPServer::Receive`. -/
def recvTurn (fd : Socket) (uSize : Nat) (bReadFully : Bool) (state : ReceiveState)
    (answer : RecvAnswer) : ReceiveState ⊕ Received :=
  let call : Call := .recv fd state.total (window uSize state.total) answer.result
  let trace : Trace := call :: state.trace
  let pData := call.store answer state.pData
  let nRecvd := wrapInt answer.result
  if nRecvd = 0 then .inr { total := state.total, pData, trace, value := state.total }
  else
    let total := wrapInt (state.total + nRecvd)
    if bReadFully ∧ toSizeT total < uSize then .inl { total, pData, trace }
    else .inr { total, pData, trace, value := total }

/-- One turn of the loop in `CTCPSSLClient::Send` and `CTCPSSLServer::Send`. -/
def sslWriteTurn (pSSL : Option Nat) (flags : SettingsFlag) (failure : Int → Int → String)
    (uSize : Nat) (state : SendState) (answer : SendAnswer) : SendState ⊕ Sent :=
  let length := wrapInt (window uSize state.total)
  let trace : Trace := .sslWrite pSSL state.total length answer.result :: state.trace
  let nSent := wrapInt answer.result
  if nSent ≤ 0 then
    .inr { total := state.total, value := false
           trace := trace.oLogAfter flags (.sslGetError pSSL nSent) (failure nSent answer.error) }
  else
    let total := wrapInt (state.total + nSent)
    if toSizeT total < uSize then .inl { total, trace }
    else .inr { total, trace, value := true }

/-- One turn of the loop in `CTCPSSLClient::Receive` and `CTCPSSLServer::Receive`. -/
def sslReadTurn (pSSL : Option Nat) (flags : SettingsFlag) (failure : Int → Int → String)
    (uSize : Nat) (bReadFully : Bool) (state : ReceiveState) (answer : RecvAnswer) :
    ReceiveState ⊕ Received :=
  let length := wrapInt (window uSize state.total)
  let call : Call := .sslRead pSSL state.total length answer.result
  let trace : Trace := call :: state.trace
  let pData := call.store answer state.pData
  let nRecvd := wrapInt answer.result
  if nRecvd ≤ 0 then
    .inr { total := state.total, pData, value := state.total
           trace := trace.oLogAfter flags (.sslGetError pSSL nRecvd)
             (failure nRecvd answer.error) }
  else
    let total := wrapInt (state.total + nRecvd)
    if bReadFully ∧ toSizeT total < uSize then .inl { total, pData, trace }
    else .inr { total, pData, trace, value := total }

def SendState.start (trace : Trace) : SendState :=
  { total := 0, trace }

def ReceiveState.start (pData : Option (Buffer UInt8)) (trace : Trace) : ReceiveState :=
  { total := 0, pData, trace }

def Sent.refused (trace : Trace) : Sent :=
  { SendState.start trace with value := false }

def Received.refused (pData : Option (Buffer UInt8)) (trace : Trace) (value : Int) : Received :=
  { ReceiveState.start pData trace with value }

/-- The calls made by a `Send` so far, whether or not it has returned. -/
def sentTrace : SendState ⊕ Sent → Trace :=
  Sum.elim SendState.trace fun result => result.trace

def receivedTrace : ReceiveState ⊕ Received → Trace :=
  Sum.elim ReceiveState.trace fun result => result.trace

/-! The calls a transfer makes. -/

def Call.Transfers (fd : Socket) : Call → Prop
  | .oLog _ => True
  | .send pointer _ _ _ | .recv pointer _ _ _ => pointer = fd
  | _ => False

def Call.Exchanges (pSSL : Option Nat) : Call → Prop
  | .oLog _ => True
  | .sslWrite pointer _ _ _ | .sslRead pointer _ _ _ | .sslGetError pointer _ => pointer = pSSL
  | _ => False

/-- A call that hands bytes to the connection. -/
def Call.isSend : Call → Bool
  | .send .. | .sslWrite .. => true
  | _ => false

/-- The result of a call that asks the connection for bytes. -/
def Call.readResult : Call → Option Int
  | .recv _ _ _ result | .sslRead _ _ _ result => some result
  | _ => none

/-- The length that a call is given. -/
def Call.requested : Call → Option Int
  | .send _ _ length _ | .recv _ _ length _ => some length
  | .sslWrite _ _ length _ | .sslRead _ _ length _ => some length
  | _ => none

/-- A result that can be given to a call of `send` or of OpenSSL: some of the bytes that it is
called with, or a failure. -/
def Call.Possible : Call → Prop
  | .send _ _ length result =>
      (1 ≤ result ∧ result ≤ length) ∨ (-2147483648 ≤ result ∧ result < 0)
  | .sslWrite _ _ length result | .sslRead _ _ length result =>
      (1 ≤ result ∧ result ≤ length) ∨ (-2147483648 ≤ result ∧ result ≤ 0)
  | _ => True

/-- The calls of one turn of a `Send`, once they are answered. -/
def sendCalls (turn : SendState → SendAnswer → SendState ⊕ Sent) : SendState → SendAnswer → Trace :=
  CallLoop.calls SendState.trace (fun result => result.trace) turn

def receiveCalls (turn : ReceiveState → RecvAnswer → ReceiveState ⊕ Received) :
    ReceiveState → RecvAnswer → Trace :=
  CallLoop.calls ReceiveState.trace (fun result => result.trace) turn

/-- The calls of the turn can have got their results. -/
def SendPossible (turn : SendState → SendAnswer → SendState ⊕ Sent) (state : SendState)
    (answer : SendAnswer) : Prop :=
  ∀ call ∈ sendCalls turn state answer, call.Possible

def ReceivePossible (turn : ReceiveState → RecvAnswer → ReceiveState ⊕ Received)
    (state : ReceiveState) (answer : RecvAnswer) : Prop :=
  ∀ call ∈ receiveCalls turn state answer, call.Possible

/-- Every call of a `Send` is of this kind, the one that it is waiting in included. -/
def SendsOnly (kind : Call → Prop) (turn : SendState → SendAnswer → SendState ⊕ Sent)
    (before : Trace) (standing : SendState ⊕ Sent) : Prop :=
  CallLoop.Every SendState.trace (fun result => result.trace) kind turn before standing

def ReceivesOnly (kind : Call → Prop) (turn : ReceiveState → RecvAnswer → ReceiveState ⊕ Received)
    (before : Trace) (standing : ReceiveState ⊕ Received) : Prop :=
  CallLoop.Every ReceiveState.trace (fun result => result.trace) kind turn before standing

/-- A call that moves no bytes. -/
def Call.Quiet : Call → Prop
  | .send .. | .recv .. | .sslWrite .. | .sslRead .. => False
  | _ => True

theorem Call.Quiet.not_isSend {call : Call} (quiet : call.Quiet) : call.isSend = false := by
  cases call <;> first | rfl | exact quiet.elim

theorem Call.Quiet.possible {call : Call} (quiet : call.Quiet) : call.Possible := by
  cases call <;> trivial

theorem Call.Quiet.requested_eq {call : Call} (quiet : call.Quiet) : call.requested = none := by
  cases call <;> first | rfl | exact quiet.elim

/-- The one length that a turn asks for. -/
theorem requested_of_quiet {call : Call} {before after : Trace} {length : Int}
    (quiet : Extends Call.Quiet (call :: before) after) (asks : call.requested = some length) :
    (since before after).filterMap Call.requested = [length] := by
  obtain ⟨later, added, quiets⟩ := quiet.since_eq
  have nothing : later.filterMap Call.requested = [] :=
    List.filterMap_eq_nil_iff.mpr fun other member => (quiets other member).requested_eq
  rw [added, List.filterMap_append, nothing, List.nil_append]
  simp [asks]

theorem Call.Quiet.readResult_eq {call : Call} (quiet : call.Quiet) : call.readResult = none := by
  cases call <;> first | rfl | exact quiet.elim

theorem Call.Transfers.touching {fd : Socket} {call : Call} (transfers : call.Transfers fd) :
    Ledger.Touching Call.socketEvents call := by
  cases call <;> first | exact transfers.elim | simp [Ledger.Touching, Call.socketEvents]

variable (flags : SettingsFlag) (uSize : Nat)

theorem sendTurn_adds {kind : Call → Prop} (fd : Socket) (failure : String) (state : SendState)
    (answer : SendAnswer)
    (call : kind (.send fd state.total (window uSize state.total) answer.result))
    (log : kind (.oLog failure)) :
    Extends kind state.trace (sentTrace (sendTurn fd flags failure uSize state answer)) := by
  have called := (Extends.refl kind state.trace).cons _ call
  simp only [sendTurn]
  split_ifs
  · exact Trace.oLog_extends called flags failure log
  · exact called
  · exact called

theorem recvTurn_adds {kind : Call → Prop} (fd : Socket) (bReadFully : Bool)
    (state : ReceiveState) (answer : RecvAnswer)
    (call : kind (.recv fd state.total (window uSize state.total) answer.result)) :
    Extends kind state.trace (receivedTrace (recvTurn fd uSize bReadFully state answer)) := by
  have called := (Extends.refl kind state.trace).cons _ call
  simp only [recvTurn]
  split_ifs
  · exact called
  · exact called
  · exact called

theorem sendTurn_extends (fd : Socket) (failure : String) (state : SendState)
    (answer : SendAnswer) :
    Extends (Call.Transfers fd) state.trace
      (sentTrace (sendTurn fd flags failure uSize state answer)) :=
  sendTurn_adds flags uSize fd failure state answer rfl trivial

theorem recvTurn_extends (fd : Socket) (bReadFully : Bool) (state : ReceiveState)
    (answer : RecvAnswer) :
    Extends (Call.Transfers fd) state.trace
      (receivedTrace (recvTurn fd uSize bReadFully state answer)) :=
  recvTurn_adds uSize fd bReadFully state answer rfl

theorem sslWriteTurn_extends (pSSL : Option Nat) (failure : Int → Int → String)
    (state : SendState) (answer : SendAnswer) :
    Extends (Call.Exchanges pSSL) state.trace
      (sentTrace (sslWriteTurn pSSL flags failure uSize state answer)) := by
  have called := (Extends.refl (Call.Exchanges pSSL) state.trace).cons
    (.sslWrite pSSL state.total (wrapInt (window uSize state.total)) answer.result) rfl
  simp only [sslWriteTurn]
  split_ifs
  · exact Trace.oLogAfter_extends called flags _ rfl trivial
  · exact called
  · exact called

theorem sslReadTurn_extends (pSSL : Option Nat) (failure : Int → Int → String)
    (bReadFully : Bool) (state : ReceiveState) (answer : RecvAnswer) :
    Extends (Call.Exchanges pSSL) state.trace
      (receivedTrace (sslReadTurn pSSL flags failure uSize bReadFully state answer)) := by
  have called := (Extends.refl (Call.Exchanges pSSL) state.trace).cons
    (.sslRead pSSL state.total (wrapInt (window uSize state.total)) answer.result) rfl
  simp only [sslReadTurn]
  split_ifs
  · exact Trace.oLogAfter_extends called flags _ rfl trivial
  · exact called
  · exact called

end SocketCpp
