import SocketCpp.ASocket

namespace SocketCpp

open Data

inductive OpenSSLProtocol where
  | tlsV1
  | sslV23
  | tls
deriving DecidableEq, Repr

structure SSLSocket where
  sockFd : Socket
  pSSL : Option Nat
  pCTXSSL : Option Nat
  pMTHDSSL : Option SSLMethod
deriving DecidableEq, Repr

def SSLSocket.empty : SSLSocket where
  sockFd := invalidSocket
  pSSL := none
  pCTXSSL := none
  pMTHDSSL := none

/-- The members of `ASecureSocket` that both secure classes read. -/
structure ASecureSocket where
  eSettingsFlags : SettingsFlag
  eOpenSSLProtocol : OpenSSLProtocol
  strCAFile : String
  strSSLCertFile : String
  strSSLKeyFile : String
deriving DecidableEq, Repr

def ASecureSocket.setSSLCerthAuth (secure : ASecureSocket) (strPath : String) : ASecureSocket :=
  { secure with strCAFile := strPath }

def ASecureSocket.setSSLCertFile (secure : ASecureSocket) (strPath : String) : ASecureSocket :=
  { secure with strSSLCertFile := strPath }

def ASecureSocket.setSSLKeyFile (secure : ASecureSocket) (strPath : String) : ASecureSocket :=
  { secure with strSSLKeyFile := strPath }

def OpenSSLProtocol.clientMethod : OpenSSLProtocol → SSLMethod
  | .tls => .tlsClient
  | .sslV23 => .sslv23Client
  | .tlsV1 => .tlsv1Client

/-- `ASecureSocket::SetUpCtxClient`; `answer` is what `SSL_CTX_new` returns. -/
def ASecureSocket.setUpCtxClient (secure : ASecureSocket) (socket : SSLSocket)
    (answer : Option Nat) (trace : Trace) : State SSLSocket :=
  let method := secure.eOpenSSLProtocol.clientMethod
  let ctx := trace.newContext answer
  { self := { socket with pMTHDSSL := some method, pCTXSSL := ctx }
    trace := .sslCtxNew method ctx :: trace }

def OpenSSLProtocol.serverMethod : OpenSSLProtocol → SSLMethod
  | .tls => .tlsServer
  | .tlsV1 => .tlsv1Server
  | .sslV23 => .sslv23Server

/-- `ASecureSocket::SetUpCtxServer`. -/
def ASecureSocket.setUpCtxServer (secure : ASecureSocket) (socket : SSLSocket)
    (answer : Option Nat) (trace : Trace) : State SSLSocket :=
  let method := secure.eOpenSSLProtocol.serverMethod
  let ctx := trace.newContext answer
  { self := { socket with pMTHDSSL := some method, pCTXSSL := ctx }
    trace := .sslCtxNew method ctx :: trace }

structure FileAnswers where
  certificate : Int
  authorities : Int
  privateKey : Int
deriving DecidableEq, Repr

/-- The three loading steps that `CTCPSSLClient::Connect` and
`CTCPSSLServer::Listen` share; `tag` is the class name in their messages. -/
def ASecureSocket.loadFiles (secure : ASecureSocket) (tag : String) (ctx : Option Nat)
    (answers : FileAnswers) (trace : Trace) : Bool × Trace :=
  let flags := secure.eSettingsFlags
  let afterCert : Trace :=
    if secure.strSSLCertFile = "" then trace
    else .sslCtxUseCertificateFile ctx secure.strSSLCertFile answers.certificate :: trace
  if secure.strSSLCertFile ≠ "" ∧ answers.certificate ≤ 0 then
    (false, afterCert.oLog flags (tag ++ "[Error] Loading cert file failed."))
  else
    let loadedCA : Trace :=
      if secure.strCAFile = "" then afterCert
      else .sslCtxLoadVerifyLocations ctx secure.strCAFile answers.authorities :: afterCert
    if secure.strCAFile ≠ "" ∧ answers.authorities = 0 then
      (false, loadedCA.oLog flags (tag ++ "[Error] Loading CA file failed."))
    else
      let afterCA : Trace :=
        if secure.strCAFile = "" then loadedCA else .sslCtxSetVerifyDepth ctx 1 :: loadedCA
      let afterKey : Trace :=
        if secure.strSSLKeyFile = "" then afterCA
        else .sslCtxUsePrivateKeyFile ctx secure.strSSLKeyFile answers.privateKey :: afterCA
      if secure.strSSLKeyFile ≠ "" ∧ answers.privateKey ≤ 0 then
        (false, afterKey.oLog flags (tag ++ "[Error] Loading key file failed."))
      else (true, afterKey)

def ASecureSocket.loads (secure : ASecureSocket) (answers : FileAnswers) : Bool :=
  (secure.strSSLCertFile = "" || decide (0 < answers.certificate)) &&
    (secure.strCAFile = "" || answers.authorities != 0) &&
    (secure.strSSLKeyFile = "" || decide (0 < answers.privateKey))

/-- `ASecureSocket::ShutdownSSL`.  The context pointer is freed, not reset. -/
def shutdownSSL (socket : SSLSocket) (trace : Trace) : State SSLSocket :=
  match socket.pSSL with
  | none => { self := socket, trace }
  | some ssl =>
      { self := { socket with pSSL := none }
        trace := .sslCtxFree socket.pCTXSSL :: .sslFree (some ssl) :: .sslShutdown (some ssl) ::
          trace }

/-- `ASecureSocket::GetSSLErrorString`, by the numbers of the `SSL_ERROR_` constants. -/
def getSSLErrorString (errorCode : Int) : String :=
  match errorCode with
  | 0 => "The TLS/SSL I/O operation completed."
  | 6 => "The TLS/SSL connection has been closed."
  | 2 => "The read operation did not complete; " ++
      "the same TLS/SSL I/O function should be called again later."
  | 3 => "The write operation did not complete; " ++
      "the same TLS/SSL I/O function should be called again later."
  | 7 => "The connect operation did not complete; " ++
      "the same TLS/SSL I/O function should be called again later."
  | 8 => "The accept operation did not complete; " ++
      "the same TLS/SSL I/O function should be called again later."
  | 4 => "The operation did not complete because an application callback set" ++
      " by SSL_CTX_set_client_cert_cb() has asked to be called again. " ++
      "The TLS/SSL I/O function should be called again later."
  | 5 => "Some I/O error occurred. The OpenSSL error queue may contain" ++
      " more information on the error."
  | 1 => "A failure in the SSL library occurred, usually a protocol error. " ++
      "The OpenSSL error queue contains more information on the error."
  | _ => "Unknown error !"

theorem ASecureSocket.loadFiles_value (secure : ASecureSocket) (tag : String) (ctx : Option Nat)
    (answers : FileAnswers) (trace : Trace) :
    (secure.loadFiles tag ctx answers trace).1 = secure.loads answers := by
  unfold ASecureSocket.loadFiles
  extract_lets flags afterCert loadedCA afterCA afterKey
  by_cases cert : secure.strSSLCertFile ≠ "" ∧ answers.certificate ≤ 0
  · rw [if_pos cert]
    simp [ASecureSocket.loads, cert.1, Int.not_lt.mpr cert.2]
  · rw [if_neg cert]
    by_cases ca : secure.strCAFile ≠ "" ∧ answers.authorities = 0
    · rw [if_pos ca]
      simp [ASecureSocket.loads, ca.1, ca.2]
    · rw [if_neg ca]
      by_cases key : secure.strSSLKeyFile ≠ "" ∧ answers.privateKey ≤ 0
      · rw [if_pos key]
        simp [ASecureSocket.loads, key.1, Int.not_lt.mpr key.2]
      · rw [if_neg key]
        simp only [not_and_or, not_not, Int.not_le] at cert ca key
        simp [ASecureSocket.loads, cert, ca, key]

def Call.LoadsInto (ctx : Option Nat) : Call → Prop
  | .oLog _ => True
  | .sslCtxUseCertificateFile pointer _ _ | .sslCtxLoadVerifyLocations pointer _ _
  | .sslCtxSetVerifyDepth pointer _ | .sslCtxUsePrivateKeyFile pointer _ _ => pointer = ctx
  | _ => False

theorem Data.Extends.consUnless {ε : Type} {kind : ε → Prop} {before after : List ε} {event : ε}
    (extended : Extends kind before after) (file : String) (one : kind event) :
    Extends kind before (if file = "" then after else event :: after) := by
  split
  · exact extended
  · exact extended.cons _ one

theorem ASecureSocket.loadFiles_extends (secure : ASecureSocket) (tag : String)
    (ctx : Option Nat) (answers : FileAnswers) (trace : Trace) :
    Extends (Call.LoadsInto ctx) trace (secure.loadFiles tag ctx answers trace).2 := by
  have start := Extends.refl (Call.LoadsInto ctx) trace
  have certificate : Call.LoadsInto ctx
      (.sslCtxUseCertificateFile ctx secure.strSSLCertFile answers.certificate) := rfl
  have authorities : Call.LoadsInto ctx
      (.sslCtxLoadVerifyLocations ctx secure.strCAFile answers.authorities) := rfl
  have depth : Call.LoadsInto ctx (.sslCtxSetVerifyDepth ctx 1) := rfl
  have privateKey : Call.LoadsInto ctx
      (.sslCtxUsePrivateKeyFile ctx secure.strSSLKeyFile answers.privateKey) := rfl
  have afterCert := start.consUnless secure.strSSLCertFile certificate
  have loadedCA := afterCert.consUnless secure.strCAFile authorities
  have afterCA := loadedCA.consUnless secure.strCAFile depth
  have afterKey := afterCA.consUnless secure.strSSLKeyFile privateKey
  unfold ASecureSocket.loadFiles
  extract_lets flags certTrace caTrace depthTrace keyTrace
  by_cases cert : secure.strSSLCertFile ≠ "" ∧ answers.certificate ≤ 0
  · rw [if_pos cert]
    exact Trace.oLog_extends afterCert _ _ trivial
  · rw [if_neg cert]
    by_cases ca : secure.strCAFile ≠ "" ∧ answers.authorities = 0
    · rw [if_pos ca]
      exact Trace.oLog_extends loadedCA _ _ trivial
    · rw [if_neg ca]
      by_cases key : secure.strSSLKeyFile ≠ "" ∧ answers.privateKey ≤ 0
      · rw [if_pos key]
        exact Trace.oLog_extends afterKey _ _ trivial
      · rw [if_neg key]
        exact afterKey

end SocketCpp
