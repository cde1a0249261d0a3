import LiveConfig.Http
import LiveConfig.Telemetry.Recorder

/-!
# Submitting telemetry

Submitting drains the recorder and posts the reports. Without reports nothing is sent; what has been
drained is not recorded again when the post fails.
-/

namespace LiveConfig.Telemetry

/-- Why telemetry is not submitted. -/
inductive Fault where
  /-- No reply came, or no request could be made. -/
  | unreachable
  | status (code : Nat)
  /-- There is no host to post to. -/
  | noHost
deriving DecidableEq, Repr

/-- The wording of a fault. -/
def Fault.message : Fault → String
  | unreachable => "HTTP error"
  | status code => "Telemetry endpoint returned status " ++ Decimal.showInt code
  | noHost => "Configuration error: telemetry host must not be empty"

/-- The host to post to, without slashes at its end. -/
def checkHost (host : String) : Except Fault String :=
  let trimmed := Http.trimSlashes host
  if trimmed.isEmpty then .error .noHost else .ok trimmed

/-- What a reply to a post means. -/
def accept : Http.Reply → Except Fault Unit
  | .unbuilt | .unreachable => .error .unreachable
  | .answered status _ => if Http.isSuccess status then .ok () else .error (.status status)

/-- What a submission does. -/
structure Submission where
  /-- The reports that the post holds, if there is one. It holds them even if it cannot go out. -/
  posted : Option (List Report)
  /-- Whether anything was posted. -/
  outcome : Except Fault Bool
  /-- The recorder afterwards. -/
  left : Recorder

/-- Posts what has been recorded, given the reply that a post would get. -/
def Recorder.submit (r : Recorder) (reply : Http.Reply) : Submission :=
  let (reports, drained) := r.drain
  if reports.isEmpty then { posted := none, outcome := .ok false, left := drained }
  else
    { posted := some reports, outcome := (accept reply).map fun _ => true, left := drained }

end LiveConfig.Telemetry
