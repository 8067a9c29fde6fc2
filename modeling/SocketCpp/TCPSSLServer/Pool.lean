import SocketCpp.Data.Pool
import SocketCpp.Data.Runs
import SocketCpp.TCPSSLServer

namespace SocketCpp

open Data

/-! One `CTCPSSLServer` and the `SSLSocket` objects that a program keeps for its
clients. -/

/-- An `SSLSocket` of the pool.  `accepted` is a history variable: the connection that
was accepted for it and that it has not disconnected since. -/
structure Slot extends SSLSocket where
  accepted : Option Nat

def Slot.empty : Slot where
  toSSLSocket := .empty
  accepted := none

/-- The objects constructed so far are those below `count`. -/
structure ServerPool where
  server : CTCPSSLServer
  slots : Nat → Slot
  count : Nat
  trace : Trace

namespace ServerPool

inductive Op where
  | construct
  | moveConstruct (source : Nat)
  | moveAssign (target source : Nat)
  | listen (slot msec : Nat) (tcpAnswers : ListenAnswers) (answers : AcceptAnswers)
  | send (slot : Nat) (pData : Option (Buffer UInt8)) (uSize : Nat) (script : List SendAnswer)
  | receive (slot : Nat) (pData : Option (Buffer UInt8)) (uSize : Nat) (bReadFully : Bool)
      (script : List RecvAnswer)
  | disconnect (slot : Nat)

/-- The pool after a `Listen` into one of its objects. -/
def listened (pool : ServerPool) (slot : Nat) (result : SSLListened) : ServerPool :=
  { pool with
    server := result.self
    slots := Function.update pool.slots slot
      { result.clientSocket with
        accepted := result.trace.connection result.clientSocket.sockFd }
    trace := result.trace }

def disconnected (pool : ServerPool) (slot : Nat) (result : Result SSLSocket Bool) : ServerPool :=
  { pool with
    slots := Function.update pool.slots slot { result.self with accepted := none }
    trace := result.trace }

/-- An operation on an object that does not exist is none.  The move operators copy
the four fields and reset those of their source, and self-assignment does nothing. -/
def step (pool : ServerPool) : Op → ServerPool
  | .construct =>
      { pool with
        slots := Function.update pool.slots pool.count .empty
        count := pool.count + 1 }
  | .moveConstruct source =>
      if source < pool.count then
        { pool with
          slots := Pool.move pool.slots pool.count source .empty
          count := pool.count + 1 }
      else pool
  | .moveAssign target source =>
      if target < pool.count ∧ source < pool.count ∧ target ≠ source then
        { pool with slots := Pool.move pool.slots target source .empty }
      else pool
  | .listen slot msec tcpAnswers answers =>
      if slot < pool.count then
        pool.listened slot (pool.server.listen (pool.slots slot).toSSLSocket msec tcpAnswers
          answers pool.trace)
      else pool
  | .send slot pData uSize script =>
      if slot < pool.count then
        { pool with trace := sentTrace (pool.server.send (pool.slots slot).toSSLSocket pData uSize
            script pool.trace) }
      else pool
  | .receive slot pData uSize bReadFully script =>
      if slot < pool.count then
        { pool with trace := receivedTrace (pool.server.receive (pool.slots slot).toSSLSocket pData
            uSize bReadFully script pool.trace) }
      else pool
  | .disconnect slot =>
      if slot < pool.count then
        pool.disconnected slot
          (pool.server.disconnect (pool.slots slot).toSSLSocket pool.trace)
      else pool

def init (server : CTCPSSLServer) : ServerPool where
  server := server
  slots := fun _ => .empty
  count := 0
  trace := []

/-! Runs in which the files and the timeouts are set as well. -/

inductive Request where
  | op (op : Op)
  | setSSLCerthAuth (strPath : String)
  | setSSLCertFile (strPath : String)
  | setSSLKeyFile (strPath : String)
  | setRcvTimeout (slot : Nat) (msecTimeout : UInt32) (iErr : Int)
  | setRcvTimeoutTimeval (slot : Nat) (timeout : Timeval) (iErr : Int)
  | setSndTimeout (slot : Nat) (msecTimeout : UInt32) (iErr : Int)
  | setSndTimeoutTimeval (slot : Nat) (timeout : Timeval) (iErr : Int)

def configure (pool : ServerPool) (secure : ASecureSocket) : ServerPool :=
  { pool with server := { pool.server with toASecureSocket := secure } }

/-- A timeout of an object that does not exist is not set. -/
def timed (pool : ServerPool) (slot : Nat) (set : SSLSocket → Trace → Bool × Trace) : ServerPool :=
  if slot < pool.count then
    { pool with trace := (set (pool.slots slot).toSSLSocket pool.trace).2 }
  else pool

def request (pool : ServerPool) : Request → ServerPool
  | .op op => step pool op
  | .setSSLCerthAuth strPath => pool.configure (pool.server.setSSLCerthAuth strPath)
  | .setSSLCertFile strPath => pool.configure (pool.server.setSSLCertFile strPath)
  | .setSSLKeyFile strPath => pool.configure (pool.server.setSSLKeyFile strPath)
  | .setRcvTimeout slot msecTimeout iErr =>
      pool.timed slot fun socket => pool.server.setRcvTimeout socket msecTimeout iErr
  | .setRcvTimeoutTimeval slot timeout iErr =>
      pool.timed slot fun socket => pool.server.setRcvTimeoutTimeval socket timeout iErr
  | .setSndTimeout slot msecTimeout iErr =>
      pool.timed slot fun socket => pool.server.setSndTimeout socket msecTimeout iErr
  | .setSndTimeoutTimeval slot timeout iErr =>
      pool.timed slot fun socket => pool.server.setSndTimeoutTimeval socket timeout iErr

end ServerPool

namespace CTCPSSLServer

/-! What the transfers call. -/

theorem send_calls (server : CTCPSSLServer) (clientSocket : SSLSocket)
    (pData : Option (Buffer UInt8)) (uSize : Nat) (script : List SendAnswer) (trace : Trace) :
    Extends (Call.Exchanges clientSocket.pSSL) trace
      (sentTrace (server.send clientSocket pData uSize script trace)) :=
  CallLoop.run_extends SendState.trace (fun result : Sent => result.trace)
    (fun state answer => sslWriteTurn_extends server.eSettingsFlags uSize clientSocket.pSSL
      (fun nSent error => "[TCPSSLServer][Error] SSL_write failed (Error=" ++ toString nSent ++
        " | " ++ getSSLErrorString error ++ ").") state answer) (.start trace) script

theorem receive_calls (server : CTCPSSLServer) (clientSocket : SSLSocket)
    (pData : Option (Buffer UInt8)) (uSize : Nat) (bReadFully : Bool) (script : List RecvAnswer)
    (trace : Trace) :
    Extends (Call.Exchanges clientSocket.pSSL) trace
      (receivedTrace (server.receive clientSocket pData uSize bReadFully script trace)) :=
  CallLoop.run_extends ReceiveState.trace (fun result : Received => result.trace)
    (fun state answer => sslReadTurn_extends server.eSettingsFlags uSize clientSocket.pSSL
      (fun nRecvd error => "[TCPSSLServer][Error] SSL_read failed (Error=" ++ toString nRecvd ++
        " | " ++ getSSLErrorString error ++ ")") bReadFully state answer) (.start pData trace)
    script

end CTCPSSLServer

namespace ServerPool

/-- The rule for one operation on a pool: what each of them does to the objects and to the
history, the transfers taken together. -/
theorem step_rule {good : ServerPool → Prop} {pool : ServerPool} (op : Op) (same : good pool)
    (constructed : good { pool with
      slots := Function.update pool.slots pool.count .empty, count := pool.count + 1 })
    (moved : ∀ target source count, good { pool with
      slots := Pool.move pool.slots target source .empty, count })
    (listened : ∀ slot msec tcpAnswers answers, good (pool.listened slot
      (pool.server.listen (pool.slots slot).toSSLSocket msec tcpAnswers answers pool.trace)))
    (exchanged : ∀ slot trace,
      Extends (Call.Exchanges (pool.slots slot).pSSL) pool.trace trace → good { pool with trace })
    (disconnected : ∀ slot, op = .disconnect slot → slot < pool.count → good (pool.disconnected slot
      (pool.server.disconnect (pool.slots slot).toSSLSocket pool.trace))) :
    good (step pool op) := by
  cases op with
  | construct => exact constructed
  | moveConstruct source =>
      simp only [step]
      split
      · exact moved pool.count source _
      · exact same
  | moveAssign target source =>
      simp only [step]
      split
      · exact moved target source pool.count
      · exact same
  | listen slot msec tcpAnswers answers =>
      simp only [step]
      split
      · exact listened slot msec tcpAnswers answers
      · exact same
  | send slot pData uSize script =>
      simp only [step]
      split
      · exact exchanged slot _ (CTCPSSLServer.send_calls ..)
      · exact same
  | receive slot pData uSize bReadFully script =>
      simp only [step]
      split
      · exact exchanged slot _ (CTCPSSLServer.receive_calls ..)
      · exact same
  | disconnect slot =>
      simp only [step]
      split
      · next exist => exact disconnected slot rfl exist
      · exact same

end ServerPool

end SocketCpp
