import LiveConfig.Text.Blank
import LiveConfig.Text.Lowercase

/-!
# Log levels
-/

namespace LiveConfig

/-- How severe a message must be to be logged. -/
inductive LogLevel where
  | trace | debug | info | warn | error | fatal
deriving DecidableEq, Repr

namespace LogLevel

/-- The levels from the least to the most severe. -/
def all : List LogLevel :=
  [.trace, .debug, .info, .warn, .error, .fatal]

/-- The name of a level. -/
def name : LogLevel → String
  | .trace => "TRACE"
  | .debug => "DEBUG"
  | .info => "INFO"
  | .warn => "WARN"
  | .error => "ERROR"
  | .fatal => "FATAL"

/-- The form in which a text is looked up: no blanks around it, in lower case. -/
def normalForm (text : String) : String :=
  Text.lowercase (Text.trim text)

/-- The level that a text in normal form names. -/
def ofNormalForm? : String → Option LogLevel
  | "trace" => some .trace
  | "debug" => some .debug
  | "info" => some .info
  | "warn" => some .warn
  | "warning" => some .warn
  | "error" => some .error
  | "fatal" => some .fatal
  | _ => none

/-- The level that a text names, in any case and with blanks around it. -/
def parse? (text : String) : Option LogLevel :=
  ofNormalForm? (normalForm text)

end LogLevel

end LiveConfig
