import SocketCpp.SecureSocket.Objects

namespace SocketCpp

open Data

/-! What the sessions are configured with.

A session is made from a context, and takes over what the context has been set up with
until then. -/

structure ContextSetup where
  method : SSLMethod
  verify : VerifyMode
  certificate : Option String
  authorities : Option String
  verifyDepth : Option Int
  privateKey : Option String
deriving DecidableEq, Repr

def ContextSetup.fresh (method : SSLMethod) : ContextSetup where
  method := method
  verify := .verifyNone
  certificate := none
  authorities := none
  verifyDepth := none
  privateKey := none

namespace Trace

/-- What the calls that succeeded have set a context up with since it was created. -/
def contextSetup (ctx : Nat) : Trace → Option ContextSetup
  | [] => none
  | .sslCtxNew method result :: earlier =>
      if result = some ctx then some (.fresh method) else contextSetup ctx earlier
  | .sslCtxSetVerify pointer verify :: earlier =>
      if pointer = some ctx then (contextSetup ctx earlier).map ({ · with verify })
      else contextSetup ctx earlier
  | .sslCtxUseCertificateFile pointer file result :: earlier =>
      if pointer = some ctx ∧ 0 < result then
        (contextSetup ctx earlier).map ({ · with certificate := some file })
      else contextSetup ctx earlier
  | .sslCtxLoadVerifyLocations pointer file result :: earlier =>
      if pointer = some ctx ∧ result ≠ 0 then
        (contextSetup ctx earlier).map ({ · with authorities := some file })
      else contextSetup ctx earlier
  | .sslCtxSetVerifyDepth pointer depth :: earlier =>
      if pointer = some ctx then
        (contextSetup ctx earlier).map ({ · with verifyDepth := some depth })
      else contextSetup ctx earlier
  | .sslCtxUsePrivateKeyFile pointer file result :: earlier =>
      if pointer = some ctx ∧ 0 < result then
        (contextSetup ctx earlier).map ({ · with privateKey := some file })
      else contextSetup ctx earlier
  | _ :: earlier => contextSetup ctx earlier

/-- What the context of a session was set up with when the session was made. -/
def sessionSetup (ssl : Nat) : Trace → Option ContextSetup
  | [] => none
  | .sslNew ctx result :: earlier =>
      if result = ssl then ctx.bind fun ctx => contextSetup ctx earlier
      else sessionSetup ssl earlier
  | _ :: earlier => sessionSetup ssl earlier

end Trace

theorem Trace.contextSetup_consUnless {ctx : Nat} {trace : Trace} {before after : ContextSetup}
    {file : String} {call : Call} (known : trace.contextSetup ctx = some before)
    (unset : file = "" → before = after)
    (set : file ≠ "" → contextSetup ctx (call :: trace) = some after) :
    contextSetup ctx (if file = "" then trace else call :: trace) = some after := by
  by_cases empty : file = ""
  · rw [if_pos empty, known, unset empty]
  · rw [if_neg empty, set empty]

namespace ASecureSocket

variable (secure : ASecureSocket)

def named (file : String) : Option String :=
  if file = "" then none else some file

/-- The files that are set ask for this, and peers are not verified. -/
def setup (method : SSLMethod) : ContextSetup where
  method := method
  verify := .verifyNone
  certificate := named secure.strSSLCertFile
  authorities := named secure.strCAFile
  verifyDepth := if secure.strCAFile = "" then none else some 1
  privateKey := named secure.strSSLKeyFile

/-- Files that all load leave the context set up as they ask. -/
theorem loadFiles_setup (tag : String) (ctx : Nat) {answers : FileAnswers} {method : SSLMethod}
    {trace : Trace} (fresh : trace.contextSetup ctx = some (.fresh method))
    (complete : secure.loads answers = true) :
    (secure.loadFiles tag (some ctx) answers trace).2.contextSetup ctx =
      some (secure.setup method) := by
  simp only [loads, Bool.and_eq_true, Bool.or_eq_true, decide_eq_true_eq, bne_iff_ne] at complete
  obtain ⟨⟨certificate, authorities⟩, privateKey⟩ := complete
  unfold loadFiles
  extract_lets flags certTrace caTrace depthTrace keyTrace
  have loadedCert : certTrace.contextSetup ctx = some { ContextSetup.fresh method with
      certificate := named secure.strSSLCertFile } := by
    apply Trace.contextSetup_consUnless fresh
    · intro empty
      simp [named, empty, ContextSetup.fresh]
    · intro present
      simp [Trace.contextSetup, fresh, certificate.resolve_left present, named, present]
  have loadedCA : caTrace.contextSetup ctx = some { ContextSetup.fresh method with
      certificate := named secure.strSSLCertFile
      authorities := named secure.strCAFile } := by
    apply Trace.contextSetup_consUnless loadedCert
    · intro empty
      simp [named, empty, ContextSetup.fresh]
    · intro present
      simp [Trace.contextSetup, loadedCert, authorities.resolve_left present, named, present]
  have depthSet : depthTrace.contextSetup ctx = some { secure.setup method with
      privateKey := none } := by
    apply Trace.contextSetup_consUnless loadedCA
    · intro empty
      simp [setup, empty, ContextSetup.fresh]
    · intro present
      simp [Trace.contextSetup, loadedCA, setup, present, ContextSetup.fresh]
  have loadedKey : keyTrace.contextSetup ctx = some (secure.setup method) := by
    apply Trace.contextSetup_consUnless depthSet
    · intro empty
      simp [setup, named, empty]
    · intro present
      simp [Trace.contextSetup, depthSet, privateKey.resolve_left present, setup, named, present]
  have cert : ¬ (secure.strSSLCertFile ≠ "" ∧ answers.certificate ≤ 0) := by
    rintro ⟨present, failed⟩
    exact absurd (certificate.resolve_left present) (Int.not_lt.mpr failed)
  have ca : ¬ (secure.strCAFile ≠ "" ∧ answers.authorities = 0) := by
    rintro ⟨present, failed⟩
    exact authorities.resolve_left present failed
  have key : ¬ (secure.strSSLKeyFile ≠ "" ∧ answers.privateKey ≤ 0) := by
    rintro ⟨present, failed⟩
    exact absurd (privateKey.resolve_left present) (Int.not_lt.mpr failed)
  rw [if_neg cert, if_neg ca, if_neg key]
  exact loadedKey

end ASecureSocket

end SocketCpp
