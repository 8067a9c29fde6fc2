import SocketCpp.TCPSSLServer.Accepting

namespace SocketCpp

open Data

/-! What a `Listen` of a `CTCPSSLServer` that fails has released. -/

/-- Acceptances and closings of client descriptors. -/
def Call.acceptanceEvents : Call → List (Ledger.Event Socket)
  | .accept _ result _ => if 0 ≤ result then [.acquire result] else []
  | .close fd => [.release fd]
  | _ => []

/-- The open descriptors that `accept` has returned. -/
def Trace.accepted (trace : Trace) : Finset Socket :=
  Ledger.held (Ledger.entries Call.acceptanceEvents trace)

theorem Trace.accepted_append_subset {added trace : Trace}
    (failed : ∀ fd client peer, .accept fd client peer ∈ added → ¬ 0 ≤ client) :
    Trace.accepted (added ++ trace) ⊆ Trace.accepted trace := by
  induction added with
  | nil => exact Finset.Subset.refl _
  | cons call added ih =>
      have before := ih fun fd client peer member =>
        failed fd client peer (List.mem_cons_of_mem call member)
      cases call with
      | accept fd client peer =>
          have negative := failed fd client peer List.mem_cons_self
          simp only [List.cons_append, Trace.accepted, Ledger.entries_cons, Call.acceptanceEvents,
            if_neg negative]
          exact before
      | close fd => exact (Finset.erase_subset fd _).trans before
      | _ => exact before

namespace CTCPSSLServer

/-- Nothing is left of what was created for the client. -/
structure Released (before : Trace) (result : SSLListened) : Prop where
  descriptors : result.trace.accepted ⊆ before.accepted
  sessions : result.trace.sessions ⊆ before.sessions
  contexts : result.trace.contexts ⊆ before.contexts
  sockFd : result.clientSocket.sockFd = invalidSocket
  pSSL : result.clientSocket.pSSL = none

/-- A TCP connection that was not accepted has left nothing. -/
theorem released_of_not_accepted {server : CTCPSSLServer} {clientSocket : SSLSocket} {msec : Nat}
    {tcpAnswers : ListenAnswers} {answers : AcceptAnswers} {trace : Trace}
    (vacant : clientSocket.pSSL = none) (possible : tcpAnswers.select.Possible)
    (failed : (server.tcpServer.listen msec tcpAnswers trace).value = false) :
    Released trace (server.listen clientSocket msec tcpAnswers answers trace) := by
  obtain ⟨added, reports⟩ := server.tcpServer.listen_reports msec tcpAnswers trace possible
  have off := server.tcpServer.listen_offOpenssl msec tcpAnswers trace
  have client := reports.failure failed
  have accepted : (server.tcpServer.listen msec tcpAnswers trace).trace.accepted ⊆
      trace.accepted := by
    rw [reports.trace]
    refine Trace.accepted_append_subset fun fd client peer member valid => ?_
    rw [reports.value.mpr ⟨fd, client, peer, member, valid⟩] at failed
    cases failed
  cases server.listen_exit clientSocket msec tcpAnswers answers trace with
  | notAccepted _ _ socket calls =>
      have quiet := off.trans (calls.mono fun _ => Call.Logs.offOpenssl)
      obtain ⟨logged, after, logs⟩ := calls
      refine ⟨?_, ?_, ?_, ?_, ?_⟩
      · rw [after]
        refine (Trace.accepted_append_subset fun fd client peer member => ?_).trans accepted
        exact (logs _ member).elim
      · rw [Trace.sessions_of_layer quiet]
      · rw [Trace.contexts_of_layer quiet]
      · rw [socket]
        exact client
      · rw [socket]
        exact vacant
  | noContext reached => rw [failed] at reached; cases reached
  | notLoaded _ reached => rw [failed] at reached; cases reached
  | refused _ _ _ _ reached => rw [failed] at reached; cases reached
  | secured _ _ _ reached => rw [failed] at reached; cases reached

/-- A `Listen` into a vacant client that fails has released what it acquired exactly
when it fails before a TCP connection is accepted. -/
theorem listen_releases_iff (server : CTCPSSLServer) (clientSocket : SSLSocket)
    (vacant : clientSocket.pSSL = none) (msec : Nat) (tcpAnswers : ListenAnswers)
    (possible : tcpAnswers.select.Possible) (answers : AcceptAnswers) (trace : Trace) :
    ((server.listen clientSocket msec tcpAnswers answers trace).value = false →
        Released trace (server.listen clientSocket msec tcpAnswers answers trace)) ↔
      ¬ server.tcpServer.Accepts msec tcpAnswers ∨ answers.Completes server.toASecureSocket := by
  have tcp := server.tcpServer.listen_value_iff msec tcpAnswers trace possible
  have value := server.listen_value_iff clientSocket msec tcpAnswers answers trace possible
  cases accepted : (server.tcpServer.listen msec tcpAnswers trace).value with
  | false =>
      rw [accepted] at tcp
      refine iff_of_true (fun _ => released_of_not_accepted vacant possible accepted) (.inl ?_)
      exact fun accepts => by cases tcp.mpr accepts
  | true =>
      have accepts := tcp.mp accepted
      constructor
      · intro released
        refine .inr ?_
        by_contra incomplete
        have failed : (server.listen clientSocket msec tcpAnswers answers trace).value = false := by
          by_contra succeeded
          exact incomplete (value.mp (eq_true_of_ne_false succeeded)).2
        obtain ⟨added, reports⟩ := server.tcpServer.listen_reports msec tcpAnswers trace possible
        have valid := Trace.sockets_nonneg (reports.client accepted).1
        have sockFd := (released failed).sockFd
        rw [listen_sockFd] at sockFd
        rw [sockFd] at valid
        exact absurd valid (by decide)
      · rintro (unaccepted | completes) failed
        · exact absurd accepts unaccepted
        · rw [value.mpr ⟨accepts, completes⟩] at failed
          cases failed

def plainServer : CTCPSSLServer :=
  .new "443" {
    eSettingsFlags := .noFlags
    eOpenSSLProtocol := .tls
    strCAFile := ""
    strSSLCertFile := "cert.pem"
    strSSLKeyFile := "key.pem" }

def handshakeWith (result : Int) : AcceptAnswers where
  ctxNew := some 1
  files := { certificate := 1, authorities := 1, privateKey := 1 }
  sslNew := 2
  handshake := result
  error := 1

theorem listen_releases_iff_unready :
    let late := CTCPServer.arriving { result := 0, ready := false }
    SSLSocket.empty.pSSL = none ∧ late.select.Possible ∧
      Released [] (plainServer.listen .empty 1000 late (handshakeWith 1) []) := by
  intro late
  have possible : late.select.Possible := by decide
  have failed : (plainServer.listen .empty 1000 late (handshakeWith 1) []).value = false := by
    decide
  exact ⟨rfl, possible, (listen_releases_iff plainServer .empty rfl 1000 late possible
    (handshakeWith 1) []).mpr (.inl (by decide)) failed⟩

/-- A client that fails the handshake leaves its descriptor open, with its number. -/
theorem refused_handshake_keeps_descriptor :
    let ready := CTCPServer.arriving { result := 1, ready := true }
    let result := plainServer.listen .empty 1000 ready (handshakeWith (-1)) []
    result.value = false ∧ result.clientSocket.sockFd = 4 ∧ result.trace.accepted = {4} ∧
      ¬ Released [] result := by
  intro ready result
  have kept : result.clientSocket.sockFd = 4 := by decide
  refine ⟨by decide, kept, by decide, fun released => ?_⟩
  rw [released.sockFd] at kept
  cases kept

end CTCPSSLServer

end SocketCpp
