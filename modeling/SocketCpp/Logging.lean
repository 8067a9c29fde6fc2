import SocketCpp.Logging.Secure
import SocketCpp.Process

namespace SocketCpp

open Data

/-! Logging changes nothing but the messages. -/

namespace Component

def flagged (flags : SettingsFlag) : Component → Component
  | client _ operations => client flags operations
  | secureClient secure operations =>
      secureClient { secure with eSettingsFlags := flags } operations
  | server strPort _ operations => server strPort flags operations
  | secureServer strPort secure operations =>
      secureServer strPort { secure with eSettingsFlags := flags } operations

/-- What all that is done to the object returns. -/
def replies : Component → List Reply
  | client eSettings operations =>
      Runs.replies CTCPClient.step CTCPClient.reply (CTCPClient.init eSettings) operations
  | secureClient secure operations =>
      Runs.replies CTCPSSLClient.request CTCPSSLClient.reply (CTCPSSLClient.init secure) operations
  | server strPort eSettings operations =>
      Runs.replies CTCPServer.serve CTCPServer.reply (CTCPServer.init strPort eSettings) operations
  | secureServer strPort secure operations =>
      Runs.replies ServerPool.request ServerPool.reply (ServerPool.init (.new strPort secure))
        operations

theorem replies_silent (component : Component) :
    (component.flagged .noFlags).replies = component.replies := by
  cases component with
  | client eSettings operations =>
      exact Runs.replies_map (CTCPClient.step_seen Call.acts) (CTCPClient.reply_seen Call.acts)
        (CTCPClient.init eSettings) operations
  | secureClient secure operations =>
      exact Runs.replies_map CTCPSSLClient.request_seen CTCPSSLClient.reply_seen
        (CTCPSSLClient.init secure) operations
  | server strPort eSettings operations =>
      exact Runs.replies_map (CTCPServer.serve_seen Call.acts) (CTCPServer.reply_seen Call.acts)
        (CTCPServer.init strPort eSettings) operations
  | secureServer strPort secure operations =>
      exact Runs.replies_map ServerPool.request_seen ServerPool.reply_seen
        (ServerPool.init (.new strPort secure)) operations

theorem client_silent (keep : Call → Bool) (eSettings : SettingsFlag)
    (operations : List CTCPClient.Op) :
    (client .noFlags operations).trace = (client eSettings operations).trace.seen keep := by
  have last : operations.foldl CTCPClient.step (CTCPClient.init .noFlags) =
      (operations.foldl CTCPClient.step (CTCPClient.init eSettings)).seen keep CTCPClient.silent :=
    @List.foldl_hom _ _ _ _ _ _ operations (CTCPClient.init eSettings) (CTCPClient.step_seen keep)
  rw [trace, trace, last, CTCPClient.destroy_eq_disconnect, CTCPClient.destroy_eq_disconnect]
  exact congrArg (fun result => result.trace) (CTCPClient.disconnect_seen keep _ _)

theorem server_silent (keep : Call → Bool) (strPort : String) (eSettings : SettingsFlag)
    (operations : List CTCPServer.Request) :
    (server strPort .noFlags operations).trace =
      (server strPort eSettings operations).trace.seen keep := by
  have last : operations.foldl CTCPServer.serve (CTCPServer.init strPort .noFlags) =
      (operations.foldl CTCPServer.serve (CTCPServer.init strPort eSettings)).seen keep
        CTCPServer.silent :=
    @List.foldl_hom _ _ _ _ _ _ operations (CTCPServer.init strPort eSettings)
      (CTCPServer.serve_seen keep)
  rw [trace, trace, last]
  rfl

theorem trace_silent (component : Component) :
    (component.flagged .noFlags).trace = component.trace.seen Call.acts := by
  cases component with
  | client eSettings operations => exact client_silent Call.acts eSettings operations
  | secureClient secure operations =>
      have last : operations.foldl CTCPSSLClient.request (CTCPSSLClient.init secure.silent) =
          (operations.foldl CTCPSSLClient.request (CTCPSSLClient.init secure)).seen Call.acts
            CTCPSSLClient.silent :=
        @List.foldl_hom _ _ _ _ _ _ operations (CTCPSSLClient.init secure)
          CTCPSSLClient.request_seen
      rw [flagged, trace, trace, CTCPSSLClient.destroy_trace, CTCPSSLClient.destroy_trace]
      rw [← ASecureSocket.silent, last]
      exact congrArg (fun result => result.trace) (CTCPSSLClient.disconnect_seen _ _)
  | server strPort eSettings operations =>
      exact server_silent Call.acts strPort eSettings operations
  | secureServer strPort secure operations =>
      have last : operations.foldl ServerPool.request
            (ServerPool.init (.new strPort secure.silent)) =
          (operations.foldl ServerPool.request (ServerPool.init (.new strPort secure))).silent :=
        @List.foldl_hom _ _ _ _ _ _ operations (ServerPool.init (.new strPort secure))
          ServerPool.request_seen
      rw [flagged, trace, trace]
      rw [← ASecureSocket.silent, last]
      rfl

/-- Whatever the flags, an object answers alike and makes the same calls, save for the
messages and the two calls that only fill one; without logging it makes none of these. -/
theorem logging_transparent (component : Component) (flags : SettingsFlag) :
    (component.flagged flags).replies = component.replies ∧
      (component.flagged flags).trace.seen Call.acts = component.trace.seen Call.acts ∧
      (component.flagged .noFlags).trace = component.trace.seen Call.acts := by
  have silent : (component.flagged flags).flagged .noFlags = component.flagged .noFlags := by
    cases component <;> rfl
  refine ⟨?_, ?_, component.trace_silent⟩
  · rw [← component.replies_silent, ← silent, replies_silent]
  · rw [← component.trace_silent, ← silent, trace_silent]

end Component

end SocketCpp
