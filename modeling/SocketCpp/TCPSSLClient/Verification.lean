import SocketCpp.TCPSSLClient.Connecting

namespace SocketCpp.CTCPSSLClient

/-! What a configured CA is worth to `CTCPSSLClient::Connect`.

The CA file is loaded and a verify depth is set, but the context is never told to
verify, so the handshake goes through whatever the chain verifies to. -/

theorem connect_loads_authorities {client : CTCPSSLClient} (trusts : client.strCAFile ≠ "")
    {strServer strPort : String} {resolution : Resolution} {answers : TlsAnswers} {trace : Trace}
    (connected : (client.connect strServer strPort resolution answers trace).value = true) :
    answers.files.authorities ≠ 0 := by
  have completes := ((client.connect_value_iff strServer strPort resolution answers trace).mp
    connected).2
  have loads := completes.2.1
  simp only [ASecureSocket.loads, trusts, Bool.and_eq_true] at loads
  simpa using loads.1.2

/-- With a trusted CA, `Connect` vouches for the server's chain exactly when the
chain verifies anyway or some step before the verdict fails. -/
theorem connect_verifies_iff (client : CTCPSSLClient) (trusts : client.strCAFile ≠ "")
    (strServer strPort : String) (resolution : Resolution) (answers : TlsAnswers)
    (trace : Trace) :
    ((client.connect strServer strPort resolution answers trace).value = true →
        answers.files.authorities ≠ 0 ∧ answers.verifyResult = x509VOk) ↔
      answers.verifyResult = x509VOk ∨ ¬ resolution.Reaches ∨
        ¬ answers.Completes client.toASecureSocket := by
  have value := client.connect_value_iff strServer strPort resolution answers trace
  constructor
  · intro vouches
    by_cases succeeds : resolution.Reaches ∧ answers.Completes client.toASecureSocket
    · exact .inl (vouches (value.mpr succeeds)).2
    · exact .inr (not_and_or.mp succeeds)
  · intro condition connected
    obtain ⟨reaches, completes⟩ := value.mp connected
    refine ⟨connect_loads_authorities trusts connected, ?_⟩
    rcases condition with verified | unreached | incomplete
    · exact verified
    · exact absurd reaches unreached
    · exact absurd completes incomplete

def trustingClient : CTCPSSLClient :=
  .new {
    eSettingsFlags := .noFlags
    eOpenSSLProtocol := .tls
    strCAFile := "ca.pem"
    strSSLCertFile := ""
    strSSLKeyFile := "" }

def serverWith (verifyResult : Int) : TlsAnswers where
  ctxNew := some 1
  files := { certificate := 1, authorities := 1, privateKey := 1 }
  sslNew := 2
  handshake := 1
  verifyResult := verifyResult
  cipher := "TLS_AES_256_GCM_SHA384"
  error := 0

theorem connect_verifies_iff_genuine :
    (trustingClient.connect "localhost" "443" (CTCPClient.oneAddress 0) (serverWith 0) []).value =
        true ∧
      (serverWith 0).files.authorities ≠ 0 ∧ (serverWith 0).verifyResult = x509VOk := by
  have connected : (trustingClient.connect "localhost" "443" (CTCPClient.oneAddress 0)
      (serverWith 0) []).value = true := by decide
  exact ⟨connected, (connect_verifies_iff trustingClient (by decide) "localhost" "443"
    (CTCPClient.oneAddress 0) (serverWith 0) []).mpr (.inl rfl) connected⟩

/-- A self-signed certificate (verify result 18) is accepted. -/
theorem connect_accepts_self_signed :
    trustingClient.strCAFile ≠ "" ∧
      (trustingClient.connect "localhost" "443" (CTCPClient.oneAddress 0) (serverWith 18) []).value =
        true ∧
      (serverWith 18).verifyResult ≠ x509VOk := by
  decide

end SocketCpp.CTCPSSLClient
