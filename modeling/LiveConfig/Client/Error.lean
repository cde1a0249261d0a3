import LiveConfig.Error
import LiveConfig.Telemetry.Submission

/-!
# Errors of a client

What can go wrong for a client besides resolution: its options, its requests and its streams.
-/

namespace LiveConfig

/-- Which options a client cannot run with. -/
inductive OptionFault where
  | noKey
  | noUrl
  | noInterval
  /-- Nothing can be fetched without a service. -/
  | noService
deriving DecidableEq, Repr

/-- The wording of a fault of options. -/
def OptionFault.message : OptionFault → String
  | noKey => "API source requires an API key"
  | noUrl => "at least one API URL is required"
  | noInterval => "telemetry sync interval must be positive"
  | noService => "client has no API source"

/-- Why an operation of a client fails. -/
inductive ClientError where
  | config (error : ConfigError)
  | options (fault : OptionFault)
  /-- A request could not be made. -/
  | unbuilt
  /-- No reply came. -/
  | unreachable
  /-- The reply's status is no success. -/
  | status (code : Nat)
  /-- A stream is not text. -/
  | stream
  /-- The data of an event is not base64. -/
  | base64
  | telemetry (fault : Telemetry.Fault)
  /-- All attempts failed; the last error, if there was an attempt. -/
  | exhausted (attempts : Nat) (last : Option ClientError)

namespace ClientError

/-- Whether another attempt may succeed. A request that could not be made will not be made then. -/
def isRetryable : ClientError → Bool
  | unreachable => true
  | status _ => true
  | _ => false

/-- The wording of an error. -/
def message : ClientError → String
  | config error => error.message
  | options fault => "Invalid options: " ++ fault.message
  | unbuilt => "HTTP error"
  | unreachable => "HTTP error"
  | status code => "Config service returned status " ++ Decimal.showInt code
  | stream => "Event stream error"
  | base64 => "Base64 decode error"
  | telemetry fault => "Telemetry error: " ++ fault.message
  | exhausted attempts last =>
    let cause := match last with
      | some error => error.message
      | none => "no API URL configured"
    "Request failed after " ++ Decimal.showInt attempts ++ " attempts: " ++ cause

end ClientError

end LiveConfig
