import SocketCpp.Data.Buffer
import SocketCpp.System.Frame

namespace SocketCpp

open Data

inductive SettingsFlag where
  | noFlags
  | enableLog
  | allFlags
deriving DecidableEq, Repr

def SettingsFlag.value : SettingsFlag → Nat
  | .noFlags => 0x00
  | .enableLog => 0x01
  | .allFlags => 0xFF

/-- `m_eSettingsFlags & ENABLE_LOG`. -/
def SettingsFlag.logs (flags : SettingsFlag) : Bool :=
  flags.value &&& SettingsFlag.enableLog.value != 0

/-- A message for the log callback, which is called only when logging is on. -/
def Trace.oLog (trace : Trace) (flags : SettingsFlag) (message : String) : Trace :=
  if flags.logs then .oLog message :: trace else trace

/-- A message whose text needs one more call, made only when logging is on. -/
def Trace.oLogAfter (trace : Trace) (flags : SettingsFlag) (call : Call) (message : String) :
    Trace :=
  if flags.logs then .oLog message :: call :: trace else trace

/-- An object together with the calls made so far. -/
structure State (α : Type) where
  self : α
  trace : Trace

structure Result (α β : Type) extends State α where
  value : β

def timevalFromMsec (timeMsec : UInt32) : Timeval where
  tvSec := (timeMsec / 1000).toNat
  tvUsec := (timeMsec % 1000 * 1000).toNat

/-- The body that the `struct timeval` overloads of the timeout setters share. -/
def setTimeout (fd : Socket) (flags : SettingsFlag) (option : SockOption) (failure : String)
    (iErr : Int) (trace : Trace) : Bool × Trace :=
  let trace : Trace := .setsockopt fd option iErr :: trace
  if iErr < 0 then (false, trace.oLog flags failure) else (true, trace)

/-- What `select` returns, and whether the descriptor is in the set afterwards. -/
structure SelectAnswer where
  result : Int
  ready : Bool
deriving DecidableEq, Repr

def selectSocket (sd : Socket) (msec : Nat) (answer : SelectAnswer) (trace : Trace) :
    Int × Trace :=
  if sd < 0 then (-1, trace)
  else
    let tval : Timeval := { tvSec := msec / 1000, tvUsec := msec % 1000 * 1000 }
    let tvalptr := if 0 < msec then some tval else none
    let trace : Trace := .select (sd + 1) tvalptr answer.result :: .fdSet sd :: trace
    if answer.result ≤ 0 then (answer.result, trace)
    else if answer.ready then (1, .fdIsset sd :: trace)
    else (-1, .fdIsset sd :: trace)

/-- What `select` returns for a set of descriptors, and the set afterwards. -/
structure SelectSetAnswer where
  result : Int
  ready : Finset Socket
deriving DecidableEq

structure Selected where
  value : Int
  selectedIndex : Nat
  trace : Trace

/-- The loop that fills the set, with the largest descriptor so far. -/
def watchSockets : List Socket → Int → Trace → Int × Trace
  | [], maxFd, trace => (maxFd, trace)
  | sd :: rest, maxFd, trace =>
      watchSockets rest (if sd > maxFd then sd else maxFd) (.fdSet sd :: trace)

/-- The loop that finds the first socket which has some activity. -/
def findActive (ready : Finset Socket) : List Socket → Nat → Trace → Option Nat × Trace
  | [], _, trace => (none, trace)
  | sd :: rest, i, trace =>
      if sd ∈ ready then (some i, .fdIsset sd :: trace)
      else findActive ready rest (i + 1) (.fdIsset sd :: trace)

def selectSockets (pSocketsToSelect : Option (Buffer Socket)) (count msec selectedIndex : Nat)
    (answer : SelectSetAnswer) (trace : Trace) : Selected :=
  match pSocketsToSelect with
  | none => { value := -1, selectedIndex, trace }
  | some sockets =>
      if count = 0 then { value := -1, selectedIndex, trace }
      else
        let tval : Timeval := { tvSec := msec / 1000, tvUsec := msec % 1000 * 1000 }
        let tvalptr := if 0 < msec then some tval else none
        let watched := watchSockets (sockets.read 0 count) (-1) trace
        let trace : Trace := .select (watched.1 + 1) tvalptr answer.result :: watched.2
        if answer.result ≤ 0 then { value := answer.result, selectedIndex, trace }
        else
          let found := findActive answer.ready (sockets.read 0 count) 0 trace
          match found.1 with
          | some i => { value := 1, selectedIndex := i, trace := found.2 }
          | none => { value := -1, selectedIndex, trace := found.2 }

theorem timevalFromMsec_normalised (timeMsec : UInt32) :
    (timevalFromMsec timeMsec).tvSec * 1000000 + (timevalFromMsec timeMsec).tvUsec =
        1000 * timeMsec.toNat ∧
      0 ≤ (timevalFromMsec timeMsec).tvUsec ∧ (timevalFromMsec timeMsec).tvUsec < 1000000 := by
  have below := Nat.mod_lt timeMsec.toNat (show 0 < 1000 by decide)
  have small : timeMsec.toNat % 1000 * 1000 % 4294967296 = timeMsec.toNat % 1000 * 1000 :=
    Nat.mod_eq_of_lt (by omega)
  have micro : (timeMsec % 1000 * 1000).toNat = timeMsec.toNat % 1000 * 1000 := by
    simpa [UInt32.toNat_mul, UInt32.toNat_mod] using small
  have seconds : (timeMsec / 1000).toNat = timeMsec.toNat / 1000 := by simp [UInt32.toNat_div]
  simp only [timevalFromMsec, micro, seconds]
  omega

variable {kind : Call → Prop} {before after : Trace}

theorem Trace.oLog_extends (extended : Extends kind before after) (flags : SettingsFlag)
    (message : String) (logs : kind (.oLog message)) :
    Extends kind before (after.oLog flags message) := by
  unfold Trace.oLog
  split
  · exact extended.cons _ logs
  · exact extended

theorem Trace.oLogAfter_extends (extended : Extends kind before after) (flags : SettingsFlag)
    {call : Call} (message : String) (makes : kind call) (logs : kind (.oLog message)) :
    Extends kind before (after.oLogAfter flags call message) := by
  unfold Trace.oLogAfter
  split
  · exact (extended.cons _ makes).cons _ logs
  · exact extended

def Call.Logs : Call → Prop
  | .oLog _ => True
  | _ => False

theorem Call.Logs.layer_eq {call : Call} (logs : call.Logs) : call.layer = .program := by
  cases call <;> first | exact logs.elim | rfl

theorem Call.Logs.offOpenssl {call : Call} (logs : call.Logs) : call.layer ≠ .openssl := by
  rw [logs.layer_eq]
  decide

theorem Call.Logs.offSockets {call : Call} (logs : call.Logs) : call.layer ≠ .sockets := by
  rw [logs.layer_eq]
  decide

theorem Trace.oLog_calls (trace : Trace) (flags : SettingsFlag) (message : String) :
    Extends Call.Logs trace (trace.oLog flags message) :=
  Trace.oLog_extends (Extends.refl _ trace) flags message trivial

def Call.Sets (fd : Socket) : Call → Prop
  | .oLog _ => True
  | .setsockopt pointer _ _ => pointer = fd
  | _ => False

theorem Call.Sets.touching {fd : Socket} {call : Call} (sets : call.Sets fd) :
    Ledger.Touching Call.socketEvents call := by
  cases call <;> first | exact sets.elim | simp [Ledger.Touching, Call.socketEvents]

theorem setTimeout_extends (fd : Socket) (flags : SettingsFlag) (option : SockOption)
    (failure : String) (iErr : Int) (trace : Trace) :
    Extends (Call.Sets fd) trace (setTimeout fd flags option failure iErr trace).2 := by
  have sets := (Extends.refl (Call.Sets fd) trace).cons (.setsockopt fd option iErr) rfl
  simp only [setTimeout]
  split
  · exact Trace.oLog_extends sets flags failure trivial
  · exact sets

def Call.WaitsOn (sd : Socket) : Call → Prop
  | .fdSet fd | .fdIsset fd => fd = sd
  | .select .. => True
  | _ => False

theorem selectSocket_of_neg {sd : Socket} (negative : sd < 0) (msec : Nat) (answer : SelectAnswer)
    (trace : Trace) : selectSocket sd msec answer trace = (-1, trace) :=
  if_pos negative

theorem selectSocket_sets {sd : Socket} (valid : 0 ≤ sd) (msec : Nat) (answer : SelectAnswer)
    (trace : Trace) :
    Extends (Call.WaitsOn sd) (.fdSet sd :: trace) (selectSocket sd msec answer trace).2 := by
  have selected (timeout : Option Timeval) :
      Extends (Call.WaitsOn sd) (.fdSet sd :: trace)
        (.select (sd + 1) timeout answer.result :: .fdSet sd :: trace) :=
    Extends.cons_iff.mpr trivial
  simp only [selectSocket, if_neg (Int.not_lt.mpr valid)]
  generalize (if 0 < msec then some _ else none : Option Timeval) = timeout
  split_ifs
  · exact selected timeout
  · exact (selected timeout).cons _ rfl
  · exact (selected timeout).cons _ rfl

theorem selectSocket_extends (sd : Socket) (msec : Nat) (answer : SelectAnswer) (trace : Trace) :
    Extends (Call.WaitsOn sd) trace (selectSocket sd msec answer trace).2 := by
  by_cases negative : sd < 0
  · rw [selectSocket_of_neg negative]
    exact Extends.refl _ trace
  · have watched : Extends (Call.WaitsOn sd) trace (.fdSet sd :: trace) := Extends.cons_iff.mpr rfl
    exact watched.trans (selectSocket_sets (Int.not_lt.mp negative) msec answer trace)

end SocketCpp
