import LiveConfig.Config
import LiveConfig.Duration.Short
import LiveConfig.Secret
import LiveConfig.Text.Quoted
import LiveConfig.Yaml.Node

/-!
# Errors

What can go wrong while configs are loaded and resolved, as causes. The wording of every cause is in
one place, `ConfigError.message` and the functions it calls.

Three texts are left open because the grammars of YAML, JSON and the wire format say only that a
document is malformed: such causes have a message without detail.
-/

namespace LiveConfig

/-- How a config breaks the rules of its structure. -/
inductive ConfigFault where
  | split (fault : Split.Fault)
  /-- A split without arms was to be decided. -/
  | emptySplit (key : String)
  /-- A split was read as if it were decided. -/
  | undecidedSplit
  /-- A provided value does not say where it comes from. -/
  | noOrigin
  /-- A provided value does not say where it comes from. -/
  | noOriginFor (name : String)
  | valueWithoutType
  | armWithoutValue
  | ruleWithoutValue (key : String)
  | unknownLevel (number : Int32)
  | flagWithoutValue (key : String)

/-- Why a written document gives no value or no config. -/
inductive ReadFault where
  /-- No level has this name, given in normal form. -/
  | logLevel (name : String)
  | duration (text : String)
  | json
  | yaml
  | notMapping
  | badKey (node : Yaml.Node)
  | levelNotText (key : String) (node : Yaml.Node)
  | criterionNotMapping (key : String) (node : Yaml.Node)
  | noOperator (key : String)
  | operator (key : String)
  | notScalar (key : String) (node : Yaml.Node)
  | value (key : String) (node : Yaml.Node)

/-- Why a file cannot be read. -/
inductive FileFault where
  | missing
  | directory
  | notText
deriving DecidableEq, Repr

mutual

/-- Why a config cannot be served. -/
inductive ConfigError where
  | missingConfig (key : String)
  | missingVariable (name : String)
  /-- The text of the variable is not of the value type of the config. -/
  | notCoercible (name : String) (target : ValueType)
  | undecryptable (fault : DecryptionFault)
  /-- The first configs did not arrive in time. -/
  | timedOut (limit : Duration)
  | invalid (fault : ConfigFault)
  | unreadable (fault : ReadFault)
  /-- The bytes do not follow the wire format. -/
  | undecodable
  | inaccessible (fault : FileFault)
  /-- A duration is longer than any that can be represented. -/
  | tooLong

/-- Why a secret is not opened. -/
inductive DecryptionFault where
  | secret (fault : Secret.Fault)
  /-- The config that holds the key cannot be served. -/
  | keyUnresolved (key : String) (cause : ConfigError)
  | keyNotText (key : String)
  /-- The key is itself a secret, and so on, beyond the limit. -/
  | chainTooDeep (key : String)

end

/-- A character between single quotes. -/
def quotedCharacter (c : Char) : String :=
  let shown := match c with
    | '\'' => ['\\', '\'']
    | '"' => ['"']
    | c => Text.quotedChar c
  String.ofList ('\'' :: shown ++ ['\''])

/-- The wording of a hexadecimal fault. -/
def Hex.Fault.message : Hex.Fault → String
  | .oddLength => "Odd number of digits"
  | .badByte byte position =>
    "Invalid character " ++ quotedCharacter (Char.ofNat byte.toNat) ++ " at position " ++
      Decimal.showInt position

/-- The wording of a fault of a secret. -/
def Secret.Fault.message : Secret.Fault → String
  | .notThreeParts => "payload must be ciphertext--iv--tag"
  | .badHex part fault => "invalid " ++ part.name ++ " hex: " ++ fault.message
  | .nonceLength length => "unsupported IV length " ++ Decimal.showInt length
  | .keyLength => "key must be 32 bytes"
  | .notAuthentic => "authentication failed"
  | .notText => "plaintext is not UTF-8"

/-- The wording of a fault of a split. -/
def Split.Fault.message : Split.Fault → String
  | .noArms => "weighted values must have at least one entry"
  | .negativeWeight => "weighted values must have non-negative weights"
  | .noWeight => "weighted values must have a positive total weight"

/-- The wording of a structural fault. -/
def ConfigFault.message : ConfigFault → String
  | split fault => fault.message
  | emptySplit key => "empty weighted values in " ++ key
  | undecidedSplit => "weighted values must be resolved before extraction"
  | noOrigin => "provided value has no source"
  | noOriginFor name => "provided value " ++ name ++ " has no source"
  | valueWithoutType => "config value has no type"
  | armWithoutValue => "weighted value without value"
  | ruleWithoutValue key => "conditional value without value in " ++ key
  | unknownLevel number => "unsupported log level " ++ Decimal.showInt number.toInt
  | flagWithoutValue key => "feature flag " ++ key ++ " has no value"

/-- The wording of a reading fault. -/
def ReadFault.message : ReadFault → String
  | logLevel name => "unknown log level: " ++ Text.quoted name
  | duration text => "invalid ISO-8601 duration: " ++ Text.quoted text
  | json => "malformed JSON document"
  | yaml => "YAML parse error"
  | notMapping => "config file must contain a mapping at the top level"
  | badKey node => "unsupported mapping key: " ++ node.shown
  | levelNotText key node => "log level for " ++ key ++ " must be a string, got " ++ node.shown
  | criterionNotMapping key node =>
    "criterion for " ++ key ++ " must be a mapping, got " ++ node.shown
  | noOperator key => "criterion for " ++ key ++ " has no operator"
  | operator key => "criterion for " ++ key ++ ": unknown operator"
  | notScalar key node => "expected a scalar under " ++ key ++ ", got " ++ node.shown
  | value key node => "unsupported value under " ++ key ++ ": " ++ node.shown

/-- The wording of a file fault. -/
def FileFault.message : FileFault → String
  | missing => "No such file or directory (os error 2)"
  | directory => "Is a directory (os error 21)"
  | notText => "stream did not contain valid UTF-8"

mutual

/-- The wording of an error. -/
def ConfigError.message : ConfigError → String
  | .missingConfig key => "Config does not exist: " ++ key
  | .missingVariable name => "Environment variable does not exist: " ++ name
  | .notCoercible name target =>
    "Cannot coerce environment variable " ++ name ++ " to " ++ target.name
  | .undecryptable fault => "Decryption failed: " ++ fault.message
  | .timedOut limit => "Initialization timed out after " ++ limit.short
  | .invalid fault => "Invalid config: " ++ fault.message
  | .unreadable fault => "Parse error: " ++ fault.message
  | .undecodable => "Protobuf decode error"
  | .inaccessible fault => "I/O error: " ++ fault.message
  | .tooLong => "overflow when adding durations"

/-- The wording of a decryption fault. -/
def DecryptionFault.message : DecryptionFault → String
  | .secret fault => fault.message
  | .keyUnresolved key cause => "key " ++ key ++ ": " ++ cause.message
  | .keyNotText key => "key " ++ key ++ " did not resolve to a string"
  | .chainTooDeep key => "decryption key chain through " ++ key ++ " is too deep"

end

/-- A duration from its written form. -/
def readDuration (text : String) : Except ConfigError Duration :=
  match Duration.parse text with
  | .ok d => .ok d
  | .error .malformed => .error (.unreadable (.duration text))
  | .error .tooLong => .error .tooLong

/-- A log level from its name. -/
def readLogLevel (text : String) : Except ConfigError LogLevel :=
  match LogLevel.parse? text with
  | some level => .ok level
  | none => .error (.unreadable (.logLevel (LogLevel.normalForm text)))

end LiveConfig
