import SocketCpp.ASocket
import SocketCpp.Data.Arithmetic

namespace SocketCpp.Windows

open Data

/-! Calls that the plain classes make in their Windows build.

A `SOCKET` is an unsigned handle there.  `INVALID_SOCKET` has all its bits set and is
written as the `-1` it equals when it is compared with an `int`. -/

def socketError : Int := -1

structure Hints where
  aiFlags : Int
  aiFamily : Int
  aiSocktype : Int
  aiProtocol : Int
deriving DecidableEq, Repr

inductive SockOption where
  | noDelay (value : Int)
  | reuseAddr (value : Int)
deriving DecidableEq, Repr

/-- `readAddrInfo` reads the members of an address list through its pointer. -/
inductive Call where
  | oLog (message : String)
  | getaddrinfo (node : Option String) (service : String) (hints : Hints) (result : Int)
      (list : Option Nat)
  | freeaddrinfo (list : Option Nat)
  | readAddrInfo (list : Option Nat)
  | socket (family socktype protocol : Int) (result : Socket)
  | setsockopt (sd : Socket) (option : SockOption) (result : Int)
  | connect (sd : Socket) (address : SockAddrIn) (result : Int)
  | shutdown (sd : Socket) (how : Int) (result : Int)
  | closesocket (sd : Socket)
  | bind (sd : Socket) (address : SockAddrIn) (result : Int)
  | listen (sd : Socket) (result : Int)
  | fdSet (sd : Socket)
  | select (nfds : Int) (timeout : Option Timeval) (result : Int)
  | fdIsset (sd : Socket)
  | accept (sd : Socket) (result : Socket) (peer : SockAddrIn)
  | recv (sd : Socket) (offset : Int) (length : Int) (result : Int)
  | sleep (milliseconds : Nat)
deriving DecidableEq, Repr

abbrev Trace := List Call

structure State (α : Type) where
  self : α
  trace : Trace

structure Result (α β : Type) extends State α where
  value : β

/-- A failing call is followed by `WSAGetLastError`. -/
structure Answer where
  result : Int
  error : Int
deriving DecidableEq, Repr

def Call.socketEvents : Call → List (Ledger.Event Socket)
  | .socket _ _ _ result => if result ≠ invalidSocket then [.acquire result] else []
  | .accept sd result _ =>
      if result ≠ invalidSocket then [.acquire result, .touch sd] else [.touch sd]
  | .closesocket sd => [.release sd]
  | .setsockopt sd _ _ | .connect sd _ _ | .shutdown sd _ _ | .bind sd _ _
  | .listen sd _ | .recv sd _ _ _ => [.touch sd]
  | _ => []

def Call.listEvents : Call → List (Ledger.Event Nat)
  | .getaddrinfo _ _ _ result list => if result = 0 then acquireIfAny list else []
  | .freeaddrinfo list => releaseIfAny list
  | .readAddrInfo list => touchIfAny list
  | _ => []

namespace Trace

def oLog (trace : Trace) (flags : SettingsFlag) (message : String) : Trace :=
  if flags.logs then .oLog message :: trace else trace

/-- The sockets that are open. -/
def sockets (trace : Trace) : Finset Socket :=
  Ledger.held (Ledger.entries Call.socketEvents trace)

def lists (trace : Trace) : Finset Nat :=
  Ledger.held (Ledger.entries Call.listEvents trace)

/-- The acquisitions and releases of sockets. -/
def openings (trace : Trace) : List (Ledger.Event Socket) :=
  Ledger.lifetime (Ledger.entries Call.socketEvents trace)

/-- The acquisitions and releases of address lists. -/
def resolutions (trace : Trace) : List (Ledger.Event Nat) :=
  Ledger.lifetime (Ledger.entries Call.listEvents trace)

def newSocket (trace : Trace) (answer : Option Nat) : Socket :=
  match answer with
  | none => invalidSocket
  | some named => (Ledger.fresh (trace.sockets.image Int.toNat) named : Nat)

def newList (trace : Trace) (named : Nat) : Nat :=
  Ledger.fresh trace.lists named

theorem newSocket_some_not_mem (trace : Trace) (named : Nat) :
    trace.newSocket (some named) ∉ trace.sockets := by
  intro member
  have image := Finset.mem_image_of_mem Int.toNat member
  simp only [newSocket, Int.toNat_natCast] at image
  exact Ledger.fresh_not_mem _ named image

theorem newSocket_some_ne (trace : Trace) (named : Nat) :
    trace.newSocket (some named) ≠ invalidSocket := by
  have valid : 0 ≤ trace.newSocket (some named) := Int.natCast_nonneg _
  intro same
  rw [same] at valid
  exact absurd valid (by decide)

@[simp] theorem held_openings (trace : Trace) : Ledger.held trace.openings = trace.sockets :=
  Ledger.held_lifetime _

@[simp] theorem held_resolutions (trace : Trace) :
    Ledger.held trace.resolutions = trace.lists :=
  Ledger.held_lifetime _

theorem openings_cons (call : Call) (earlier : Trace) :
    openings (call :: earlier) = Ledger.lifetime call.socketEvents ++ earlier.openings := by
  simp [openings, Ledger.lifetime]

theorem resolutions_cons (call : Call) (earlier : Trace) :
    resolutions (call :: earlier) = Ledger.lifetime call.listEvents ++ earlier.resolutions := by
  simp [resolutions, Ledger.lifetime]

@[simp] theorem openings_oLog (trace : Trace) (flags : SettingsFlag) (message : String) :
    openings (trace.oLog flags message) = trace.openings := by
  unfold oLog
  split
  · exact openings_cons _ trace
  · rfl

theorem oLog_extends {kind : Call → Prop} {before after : Trace}
    (extended : Extends kind before after) (flags : SettingsFlag) (message : String)
    (logs : kind (.oLog message)) : Extends kind before (after.oLog flags message) := by
  unfold oLog
  split
  · exact extended.cons _ logs
  · exact extended

end Trace

/-- `SelectSocket`: an unsigned handle is never below zero, and `tv_sec` is a `long` of 32 bits. -/
def selectSocket (sd : Socket) (msec : Nat) (answer : SelectAnswer) (trace : Trace) :
    Int × Trace :=
  let tval : Timeval := { tvSec := wrapInt (msec / 1000 : Nat), tvUsec := msec % 1000 * 1000 }
  let tvalptr := if 0 < msec then some tval else none
  let trace : Trace := .select (sd + 1) tvalptr answer.result :: .fdSet sd :: trace
  if answer.result ≤ 0 then (answer.result, trace)
  else if answer.ready then (1, .fdIsset sd :: trace)
  else (-1, .fdIsset sd :: trace)

end SocketCpp.Windows
