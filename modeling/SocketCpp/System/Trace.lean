import Mathlib.Data.Finset.Image
import SocketCpp.Data.Ledger

namespace SocketCpp

open Data

/-! Calls that the socket classes make to the operating system, to OpenSSL and
to the log callback, with the results they got.

A `Trace` is the history of one object's calls, newest first.  Everything the
kernel and OpenSSL know about that object (which descriptors are open, which SSL
objects are live, what is bound or attached to what) is computed from it. -/

abbrev Socket := Int

def invalidSocket : Socket := -1

structure SockAddrIn where
  sinFamily : Int
  sinAddr : Nat
  sinPort : Nat
deriving DecidableEq, Repr

structure Timeval where
  tvSec : Int
  tvUsec : Int
deriving DecidableEq, Repr

inductive SockOption where
  | reuseAddr (value : Int)
  | rcvTimeo (value : Timeval)
  | sndTimeo (value : Timeval)
deriving DecidableEq, Repr

/-- The fields of an entry of an address list that `socket` and `connect` read. -/
structure AddrInfo where
  aiFamily : Int
  aiSocktype : Int
  aiProtocol : Int
  aiAddr : SockAddrIn
deriving DecidableEq, Repr

inductive SSLMethod where
  | tlsClient
  | sslv23Client
  | tlsv1Client
  | tlsServer
  | sslv23Server
  | tlsv1Server
deriving DecidableEq, Repr

inductive VerifyMode where
  | verifyNone
  | verifyPeer
deriving DecidableEq, Repr

/-- Pointers are addresses, with `none` for a null pointer. -/
inductive Call where
  | oLog (message : String)
  | getaddrinfo (node service : String) (family socktype : Int) (result : Int) (list : Option Nat)
  | freeaddrinfo (list : Option Nat)
  | socket (family socktype protocol : Int) (result : Socket)
  | connect (fd : Socket) (address : SockAddrIn) (result : Int)
  | close (fd : Socket)
  | setsockopt (fd : Socket) (option : SockOption) (result : Int)
  | bind (fd : Socket) (address : SockAddrIn) (result : Int)
  | listen (fd : Socket) (result : Int)
  | fdSet (fd : Socket)
  | select (nfds : Int) (timeout : Option Timeval) (result : Int)
  | fdIsset (fd : Socket)
  | accept (fd : Socket) (result : Socket) (peer : SockAddrIn)
  | send (fd : Socket) (offset : Int) (length : Nat) (result : Int)
  | recv (fd : Socket) (offset : Int) (length : Nat) (result : Int)
  | sslCtxNew (method : SSLMethod) (result : Option Nat)
  | sslCtxFree (ctx : Option Nat)
  | sslCtxUseCertificateFile (ctx : Option Nat) (file : String) (result : Int)
  | sslCtxLoadVerifyLocations (ctx : Option Nat) (file : String) (result : Int)
  | sslCtxSetVerify (ctx : Option Nat) (mode : VerifyMode)
  | sslCtxSetVerifyDepth (ctx : Option Nat) (depth : Int)
  | sslCtxUsePrivateKeyFile (ctx : Option Nat) (file : String) (result : Int)
  | sslNew (ctx : Option Nat) (result : Nat)
  | sslSetFd (ssl : Option Nat) (fd : Socket)
  | sslConnect (ssl : Option Nat) (result : Int)
  | sslAccept (ssl : Option Nat) (result : Int)
  | sslGetCipher (ssl : Option Nat)
  | sslGetError (ssl : Option Nat) (result : Int)
  | errPrintErrors
  | sslWrite (ssl : Option Nat) (offset : Int) (length : Int) (result : Int)
  | sslRead (ssl : Option Nat) (offset : Int) (length : Int) (result : Int)
  | sslShutdown (ssl : Option Nat)
  | sslFree (ssl : Option Nat)
deriving DecidableEq, Repr

abbrev Trace := List Call

/-! What each call does to the resources an object can own. -/

def touchIfAny (handle : Option Nat) : List (Ledger.Event Nat) :=
  match handle with
  | none => []
  | some handle => [.touch handle]

def releaseIfAny (handle : Option Nat) : List (Ledger.Event Nat) :=
  match handle with
  | none => []
  | some handle => [.release handle]

def acquireIfAny (handle : Option Nat) : List (Ledger.Event Nat) :=
  match handle with
  | none => []
  | some handle => [.acquire handle]

/-- Descriptors: a failed `socket` or `accept` returns a negative number. -/
def Call.socketEvents : Call → List (Ledger.Event Socket)
  | .socket _ _ _ result => if 0 ≤ result then [.acquire result] else []
  | .accept fd result _ => if 0 ≤ result then [.acquire result, .touch fd] else [.touch fd]
  | .close fd => [.release fd]
  | .connect fd _ _ | .setsockopt fd _ _ | .bind fd _ _ | .listen fd _
  | .send fd _ _ _ | .recv fd _ _ _ => [.touch fd]
  | _ => []

def Call.listEvents : Call → List (Ledger.Event Nat)
  | .getaddrinfo _ _ _ _ result list => if result = 0 then acquireIfAny list else []
  | .freeaddrinfo list => releaseIfAny list
  | _ => []

def Call.contextEvents : Call → List (Ledger.Event Nat)
  | .sslCtxNew _ result => acquireIfAny result
  | .sslCtxFree ctx => releaseIfAny ctx
  | .sslCtxUseCertificateFile ctx _ _ | .sslCtxLoadVerifyLocations ctx _ _
  | .sslCtxSetVerify ctx _ | .sslCtxSetVerifyDepth ctx _
  | .sslCtxUsePrivateKeyFile ctx _ _ | .sslNew ctx _ => touchIfAny ctx
  | _ => []

def Call.sessionEvents : Call → List (Ledger.Event Nat)
  | .sslNew _ result => [.acquire result]
  | .sslFree ssl => releaseIfAny ssl
  | .sslSetFd ssl _ | .sslConnect ssl _ | .sslAccept ssl _ | .sslGetCipher ssl | .sslGetError ssl _
  | .sslWrite ssl _ _ _ | .sslRead ssl _ _ _ | .sslShutdown ssl => touchIfAny ssl
  | _ => []

namespace Trace

/-- The descriptors the object has open. -/
def sockets (trace : Trace) : Finset Socket :=
  Ledger.held (Ledger.entries Call.socketEvents trace)

def lists (trace : Trace) : Finset Nat :=
  Ledger.held (Ledger.entries Call.listEvents trace)

def contexts (trace : Trace) : Finset Nat :=
  Ledger.held (Ledger.entries Call.contextEvents trace)

def sessions (trace : Trace) : Finset Nat :=
  Ledger.held (Ledger.entries Call.sessionEvents trace)

/-- Which connection a descriptor number stands for now.  A number that was
closed and handed out again stands for a different one. -/
def connection (trace : Trace) (fd : Socket) : Option Nat :=
  Ledger.identity fd (Ledger.entries Call.socketEvents trace)

def attached (ssl : Nat) : Trace → Option Nat
  | [] => none
  | .sslNew _ result :: earlier => if result = ssl then none else attached ssl earlier
  | .sslSetFd pointer fd :: earlier =>
      if pointer = some ssl then connection earlier fd else attached ssl earlier
  | _ :: earlier => attached ssl earlier

/-- Whether the last handshake of an `SSL` object completed. -/
def handshaken (ssl : Nat) : Trace → Bool
  | [] => false
  | .sslNew _ result :: earlier => if result = ssl then false else handshaken ssl earlier
  | .sslConnect pointer result :: earlier | .sslAccept pointer result :: earlier =>
      if pointer = some ssl then decide (0 < result) else handshaken ssl earlier
  | _ :: earlier => handshaken ssl earlier

/-- A fresh context verifies nothing until it is told to. -/
def verifyMode (ctx : Nat) : Trace → VerifyMode
  | [] => .verifyNone
  | .sslCtxNew _ result :: earlier =>
      if result = some ctx then .verifyNone else verifyMode ctx earlier
  | .sslCtxSetVerify pointer mode :: earlier =>
      if pointer = some ctx then mode else verifyMode ctx earlier
  | _ :: earlier => verifyMode ctx earlier

/-- The address a descriptor has been bound to since it was opened. -/
def bound (fd : Socket) : Trace → Option SockAddrIn
  | [] => none
  | .socket _ _ _ result :: earlier => if result = fd then none else bound fd earlier
  | .bind pointer address result :: earlier =>
      if pointer = fd ∧ 0 ≤ result then some address else bound fd earlier
  | .close closed :: earlier => if closed = fd then none else bound fd earlier
  | _ :: earlier => bound fd earlier

/-! Results that must be fresh.  An answer names the number or address it gives;
one that is in use is replaced by one that is not. -/

def newSocket (trace : Trace) (answer : Option Nat) : Socket :=
  match answer with
  | none => invalidSocket
  | some named => (Ledger.fresh (trace.sockets.image Int.toNat) named : Nat)

def newList (trace : Trace) (named : Nat) : Nat :=
  Ledger.fresh trace.lists named

def newContext (trace : Trace) (answer : Option Nat) : Option Nat :=
  answer.map (Ledger.fresh trace.contexts)

def newSession (trace : Trace) (named : Nat) : Nat :=
  Ledger.fresh trace.sessions named

end Trace

end SocketCpp
