import SocketCpp.System.Descriptors
import SocketCpp.TCPClient.Balance
import SocketCpp.TCPSSLClient.Closing
import SocketCpp.TCPSSLClient.Objects

namespace SocketCpp

open Data

/-! The clients of a process use and close only what they have open.

A stale number is left over by a refused `Connect`, but nothing except the setters of the
timeouts goes through it. -/

variable {setters : Bool}

theorem Call.descriptorEvents_of_layer {call : Call} (other : call.layer ≠ .sockets) :
    call.descriptorEvents setters = [] := by
  cases call <;> first | rfl | exact absurd rfl other

theorem Call.Resolves.unhandled {call : Call} (resolves : call.Resolves) :
    call.descriptorEvents setters = [] := by
  cases call <;> first | exact resolves.elim | rfl

theorem Call.Logs.unhandled {call : Call} (logs : call.Logs) :
    call.descriptorEvents setters = [] := by
  cases call <;> first | exact logs.elim | rfl

theorem Call.Transfers.offOpenssl {fd : Socket} {call : Call} (transfers : call.Transfers fd) :
    call.layer ≠ .openssl := by
  cases call <;> first | exact transfers.elim | simp [Call.layer]

theorem Call.Sets.offOpenssl {fd : Socket} {call : Call} (sets : call.Sets fd) :
    call.layer ≠ .openssl := by
  cases call <;> first | exact sets.elim | simp [Call.layer]

theorem Call.Transfers.uses {fd : Socket} {sockets : Finset Socket} {call : Call}
    (transfers : call.Transfers fd) (isOpen : fd ∈ sockets) :
    Ledger.Uses (Call.descriptorEvents setters) sockets call := by
  cases call with
  | oLog message => exact fun event member => absurd member List.not_mem_nil
  | send pointer _ _ _ | recv pointer _ _ _ =>
      have same : pointer = fd := transfers
      simpa [Ledger.Uses, Call.descriptorEvents, Call.socketEvents, same] using isOpen
  | _ => exact transfers.elim

/-- A timeout is set for something that is open, for no number, or it does not count. -/
theorem Trace.proper_setTimeout {trace : Trace} (proper : trace.Proper setters) {fd : Socket}
    (isOpen : setters = true → 0 ≤ fd → fd ∈ trace.sockets) {option : SockOption} {iErr : Int}
    (events : (Call.setsockopt fd option iErr).descriptorEvents setters =
      if setters = true ∧ 0 ≤ fd then [.touch fd] else [])
    (flags : SettingsFlag) (failure : String) :
    (setTimeout fd flags option failure iErr trace).2.Proper setters := by
  have set : Trace.Proper setters (.setsockopt fd option iErr :: trace) := by
    by_cases counts : setters = true ∧ 0 ≤ fd
    · rw [if_pos counts] at events
      exact proper_touch proper events (isOpen counts.1 counts.2)
    · rw [if_neg counts] at events
      exact proper_of_quiet proper (Extends.cons_iff.mpr events)
  simp only [setTimeout]
  split
  · exact proper_of_quiet set ((oLog_calls ..).mono fun _ => Call.Logs.unhandled)
  · exact set

namespace Trace

/-- Nothing is open. -/
structure Vacant (setters : Bool) (trace : Trace) : Prop where
  proper : trace.Proper setters
  none : trace.sockets = ∅

variable {earlier : Trace}

theorem vacant_failed (entry : AddrInfo) (vacant : earlier.Vacant setters) :
    Vacant setters
      (.socket entry.aiFamily entry.aiSocktype entry.aiProtocol invalidSocket :: earlier) where
  proper := proper_socket vacant.proper _ _ _ fun member => by
    rw [vacant.none] at member
    cases member
  none := vacant.none

theorem proper_attempt (entry : AddrInfo) {fd : Socket} (valid : 0 ≤ fd) (iConRet : Int)
    (vacant : earlier.Vacant setters) :
    Proper setters (CTCPClient.attemptCalls entry fd iConRet earlier) := by
  have fresh : fd ∉ earlier.sockets := by simp [vacant.none]
  refine proper_touch (proper_socket vacant.proper _ _ _ fresh) rfl ?_
  rw [sockets_socket _ _ _ _ valid]
  exact Finset.mem_insert_self _ _

theorem vacant_refused (entry : AddrInfo) (named : Nat) (iConRet : Int)
    (vacant : earlier.Vacant setters) :
    Vacant setters (.close (newSocket earlier (some named)) ::
      CTCPClient.attemptCalls entry (newSocket earlier (some named)) iConRet earlier) := by
  have valid := newSocket_some_nonneg earlier named
  generalize newSocket earlier (some named) = fd at valid ⊢
  have sockets : Trace.sockets (CTCPClient.attemptCalls entry fd iConRet earlier) = {fd} := by
    rw [sockets_attempt entry valid, vacant.none]
    rfl
  refine ⟨proper_close (proper_attempt entry valid iConRet vacant) fun _ => ?_, ?_⟩
  · rw [sockets]
    exact Finset.mem_singleton_self fd
  · rw [sockets_close, sockets, Finset.erase_singleton]

theorem vacant_resolves {call : Call} (resolves : call.Resolves) (vacant : earlier.Vacant setters) :
    Vacant setters (call :: earlier) := by
  have quiet : Extends Call.Resolves earlier (call :: earlier) := Extends.cons_iff.mpr resolves
  exact ⟨proper_of_quiet vacant.proper (quiet.mono fun _ => Call.Resolves.unhandled),
    (sockets_of_quiet (quiet.mono fun _ => Call.Resolves.quiet)).trans vacant.none⟩

end Trace

namespace CTCPClient

/-- A client has its connection open, and nothing else. -/
structure Using (setters : Bool) (client : CTCPClient) (trace : Trace) : Prop where
  proper : trace.Proper setters
  sockets : trace.sockets = if client.eStatus = .connected then {client.connectSocket} else ∅

variable {client : CTCPClient} {trace : Trace}

theorem Using.of_offSockets (usage : client.Using setters trace) {after : Trace}
    (calls : Extends (fun call : Call => call.layer ≠ .sockets) trace after) :
    client.Using setters after where
  proper := Trace.proper_of_quiet usage.proper (calls.mono fun _ => Call.descriptorEvents_of_layer)
  sockets := (Trace.sockets_of_layer calls).trans usage.sockets

theorem using_connect (usage : client.Using setters trace) (strServer strPort : String)
    (resolution : Resolution) :
    (client.connect strServer strPort resolution trace).self.Using setters
      (client.connect strServer strPort resolution trace).trace := by
  have idle (disconnected : client.eStatus = .disconnected) : trace.Vacant setters := by
    have sockets := usage.sockets
    rw [disconnected] at sockets
    exact ⟨usage.proper, sockets⟩
  have closes (connected : client.eStatus = .connected) :
      Trace.Vacant setters (.close client.connectSocket :: trace) := by
    have sockets := usage.sockets
    rw [if_pos connected] at sockets
    refine ⟨Trace.proper_close usage.proper fun _ => ?_, ?_⟩
    · rw [sockets]
      exact Finset.mem_singleton_self _
    · rw [Trace.sockets_close, sockets, Finset.erase_singleton]
  have rule := @connect_rule (Trace.Vacant setters) (fun entry _ => Trace.vacant_failed entry)
    (fun entry named iConRet _ => Trace.vacant_refused entry named iConRet)
    (fun _ _ => Trace.vacant_resolves) client strServer strPort resolution
    trace idle closes
  have status := client.connect_status strServer strPort resolution trace
  generalize client.connect strServer strPort resolution trace = result at rule status ⊢
  cases value : result.value with
  | false =>
      have vacant := rule.1 value
      refine ⟨vacant.proper, ?_⟩
      rw [vacant.none, status, value]
      rfl
  | true =>
      obtain ⟨entry, named, iConRet, earlier, vacant, socket, resolves⟩ := rule.2 value
      have valid := Trace.newSocket_some_nonneg earlier named
      refine ⟨Trace.proper_of_quiet (Trace.proper_attempt entry valid iConRet vacant)
        (resolves.mono fun _ => Call.Resolves.unhandled), ?_⟩
      rw [Trace.sockets_of_quiet (resolves.mono fun _ => Call.Resolves.quiet),
        Trace.sockets_attempt entry valid, vacant.none, socket, status, value]
      rfl

theorem using_disconnect (usage : client.Using setters trace) :
    (client.disconnect trace).self.Using setters (client.disconnect trace).trace := by
  have sockets := usage.sockets
  simp only [disconnect]
  cases status : client.eStatus with
  | connected =>
      rw [status, if_pos rfl] at sockets
      rw [if_neg (not_not.mpr rfl)]
      refine ⟨Trace.proper_close usage.proper fun _ => ?_, ?_⟩
      · rw [sockets]
        exact Finset.mem_singleton_self _
      · rw [Trace.sockets_close, sockets, Finset.erase_singleton]
        rfl
  | disconnected =>
      rw [if_pos (by decide)]
      exact usage

theorem using_transfers (usage : client.Using setters trace) {after : Trace}
    (idle : client.eStatus = .disconnected → Extends Call.Logs trace after)
    (transfers : Extends (Call.Transfers client.connectSocket) trace after) :
    client.Using setters after := by
  refine ⟨?_, (Ledger.held_of_touching (transfers.mono fun _ => Call.Transfers.touching)).trans
    usage.sockets⟩
  cases status : client.eStatus with
  | disconnected =>
      exact Trace.proper_of_quiet usage.proper ((idle status).mono fun _ => Call.Logs.unhandled)
  | connected =>
      have isOpen : client.connectSocket ∈ trace.sockets := by
        rw [usage.sockets, if_pos status]
        exact Finset.mem_singleton_self _
      exact Trace.proper_of_uses usage.proper (transfers.mono fun _ calls => calls.uses isOpen)

theorem send_idle (disconnected : client.eStatus = .disconnected) (pData : Option (Buffer UInt8))
    (uSize : Nat) (script : List SendAnswer) (trace : Trace) :
    Extends Call.Logs trace (sentTrace (client.send pData uSize script trace)) := by
  simp only [send, sendEntry, disconnected]
  split_ifs
  · exact Extends.refl _ trace
  · exact Trace.oLog_calls ..
  · contradiction

theorem receive_idle (disconnected : client.eStatus = .disconnected)
    (pData : Option (Buffer UInt8)) (uSize : Nat) (bReadFully : Bool) (script : List RecvAnswer)
    (trace : Trace) :
    Extends Call.Logs trace
      (receivedTrace (client.receive pData uSize bReadFully script trace)) := by
  simp only [receive, receiveEntry, disconnected]
  split_ifs
  · exact Extends.refl _ trace
  · exact Trace.oLog_calls ..
  · contradiction

theorem Using.timeout (usage : client.Using setters trace)
    (isOpen : setters = true → 0 ≤ client.connectSocket → client.eStatus = .connected)
    {option : SockOption} {iErr : Int}
    (events : (Call.setsockopt client.connectSocket option iErr).descriptorEvents setters =
      if setters = true ∧ 0 ≤ client.connectSocket then [.touch client.connectSocket] else [])
    (failure : String) :
    client.Using setters
      (setTimeout client.connectSocket client.eSettingsFlags option failure iErr trace).2 where
  proper := Trace.proper_setTimeout usage.proper (fun counts valid => by
    rw [usage.sockets, if_pos (isOpen counts valid)]
    exact Finset.mem_singleton_self _) events client.eSettingsFlags failure
  sockets := (Ledger.held_of_touching
    ((setTimeout_extends ..).mono fun _ => Call.Sets.touching)).trans usage.sockets

/-- A timeout is set while the client is connected, or has no descriptor. -/
def Op.SetsOpen (state : State CTCPClient) : Op → Prop
  | .setRcvTimeout .. | .setRcvTimeoutTimeval .. | .setSndTimeout .. | .setSndTimeoutTimeval .. =>
      0 ≤ state.self.connectSocket → state.self.eStatus = .connected
  | _ => True

theorem using_step {state : State CTCPClient} (usage : state.self.Using setters state.trace)
    {op : Op} (sets : setters = true → op.SetsOpen state) :
    (step state op).self.Using setters (step state op).trace := by
  cases op with
  | connect strServer strPort resolution => exact using_connect usage strServer strPort resolution
  | disconnect => exact using_disconnect usage
  | send pData uSize script =>
      exact using_transfers usage (fun idle => send_idle idle ..) (send_calls ..)
  | receive pData uSize bReadFully script =>
      exact using_transfers usage (fun idle => receive_idle idle ..) (receive_calls ..)
  | setRcvTimeout msecTimeout iErr => exact usage.timeout sets rfl _
  | setRcvTimeoutTimeval value iErr => exact usage.timeout sets rfl _
  | setSndTimeout msecTimeout iErr => exact usage.timeout sets rfl _
  | setSndTimeoutTimeval value iErr => exact usage.timeout sets rfl _

/-- A plain client has nothing to do with OpenSSL. -/
theorem step_offOpenssl (state : State CTCPClient) (op : Op) :
    Extends (fun call : Call => call.layer ≠ .openssl) state.trace (step state op).trace := by
  have timeout (option : SockOption) (failure : String) (iErr : Int) :=
    (setTimeout_extends state.self.connectSocket state.self.eSettingsFlags option failure iErr
      state.trace).mono fun _ => Call.Sets.offOpenssl
  cases op with
  | connect strServer strPort resolution =>
      exact (connect_calls ..).mono fun _ => Call.Dials.layer_ne
  | disconnect => exact (disconnect_calls ..).mono fun _ => Call.Dials.layer_ne
  | send pData uSize script => exact (send_calls ..).mono fun _ => Call.Transfers.offOpenssl
  | receive pData uSize bReadFully script =>
      exact (receive_calls ..).mono fun _ => Call.Transfers.offOpenssl
  | setRcvTimeout msecTimeout iErr => exact timeout _ _ iErr
  | setRcvTimeoutTimeval value iErr => exact timeout _ _ iErr
  | setSndTimeout msecTimeout iErr => exact timeout _ _ iErr
  | setSndTimeoutTimeval value iErr => exact timeout _ _ iErr

theorem using_new (client : CTCPClient) (idle : client.eStatus = .disconnected) :
    client.Using setters [] where
  proper := trivial
  sockets := by
    rw [idle]
    rfl

/-- The destructor leaves nothing open. -/
theorem using_destroy (usage : client.Using setters trace) :
    (client.destroy trace).trace.Vacant setters := by
  have after := using_disconnect usage
  rw [destroy_eq_disconnect]
  refine ⟨after.proper, ?_⟩
  have sockets := after.sockets
  rw [disconnect_status] at sockets
  exact sockets

end CTCPClient

namespace CTCPSSLClient

theorem tcp_using_disconnect {client : CTCPSSLClient} {trace : Trace}
    (usage : client.tcpClient.Using setters trace) :
    (client.disconnect trace).self.tcpClient.Using setters (client.disconnect trace).trace := by
  simp only [disconnect]
  split
  · exact usage
  · exact CTCPClient.using_disconnect
      (usage.of_offSockets (shutdownSSL_offSockets client.sslConnectSocket trace))

theorem tcp_using_step {state : State CTCPSSLClient}
    (usage : state.self.tcpClient.Using setters state.trace) (op : Op) :
    (step state op).self.tcpClient.Using setters (step state op).trace := by
  cases op with
  | connect strServer strPort resolution answers =>
      have exit := state.self.connect_exit strServer strPort resolution answers state.trace
      simp only [step, connect_tcpClient]
      exact (CTCPClient.using_connect usage strServer strPort resolution).of_offSockets
        exit.offSockets
  | send pData uSize script =>
      exact usage.of_offSockets ((send_calls ..).mono fun _ => Call.Exchanges.layer_ne)
  | receive pData uSize bReadFully script =>
      exact usage.of_offSockets ((receive_calls ..).mono fun _ => Call.Exchanges.layer_ne)
  | disconnect => exact tcp_using_disconnect usage

def Request.SetsOpen (state : State CTCPSSLClient) : Request → Prop
  | .setRcvTimeout .. | .setRcvTimeoutTimeval .. | .setSndTimeout .. | .setSndTimeoutTimeval .. =>
      0 ≤ state.self.tcpClient.connectSocket → state.self.tcpClient.eStatus = .connected
  | _ => True

theorem tcp_using_request {state : State CTCPSSLClient}
    (usage : state.self.tcpClient.Using setters state.trace) {req : Request}
    (sets : setters = true → req.SetsOpen state) :
    (request state req).self.tcpClient.Using setters (request state req).trace := by
  cases req with
  | op op => exact tcp_using_step usage op
  | setSSLCerthAuth strPath => exact usage
  | setSSLCertFile strPath => exact usage
  | setSSLKeyFile strPath => exact usage
  | setRcvTimeout msecTimeout iErr => exact usage.timeout sets rfl _
  | setRcvTimeoutTimeval value iErr => exact usage.timeout sets rfl _
  | setSndTimeout msecTimeout iErr => exact usage.timeout sets rfl _
  | setSndTimeoutTimeval value iErr => exact usage.timeout sets rfl _

theorem held_request {state : State CTCPSSLClient} (held : Held state) (req : Request) :
    Held (request state req) := by
  have timeout (option : SockOption) (failure : String) (iErr : Int) :=
    (setTimeout_extends state.self.tcpClient.connectSocket state.self.tcpClient.eSettingsFlags
      option failure iErr state.trace).mono fun _ => Call.Sets.offOpenssl
  cases req with
  | op op => exact held_step held op
  | setSSLCerthAuth strPath => exact ⟨held.sound, held.session, held.context⟩
  | setSSLCertFile strPath => exact ⟨held.sound, held.session, held.context⟩
  | setSSLKeyFile strPath => exact ⟨held.sound, held.session, held.context⟩
  | setRcvTimeout msecTimeout iErr => exact held.of_layer rfl (timeout _ _ iErr)
  | setRcvTimeoutTimeval value iErr => exact held.of_layer rfl (timeout _ _ iErr)
  | setSndTimeout msecTimeout iErr => exact held.of_layer rfl (timeout _ _ iErr)
  | setSndTimeoutTimeval value iErr => exact held.of_layer rfl (timeout _ _ iErr)

theorem vacant_destroy {client : CTCPSSLClient} {trace : Trace}
    (usage : client.tcpClient.Using setters trace) :
    (client.destroy trace).trace.Vacant setters := by
  have after := tcp_using_disconnect usage
  have idle : (client.disconnect trace).self.tcpClient.eStatus = .disconnected := by
    simp only [disconnect]
    split
    · next status =>
        cases known : client.tcpClient.eStatus with
        | connected => exact absurd known status
        | disconnected => rfl
    · exact CTCPClient.disconnect_status ..
  rw [destroy_trace]
  refine ⟨after.proper, ?_⟩
  have sockets := after.sockets
  rw [idle] at sockets
  exact sockets

end CTCPSSLClient

end SocketCpp
