import LiveConfig.Chance
import LiveConfig.Evaluation
import LiveConfig.Value.Native

/-!
# Resolution

Resolving a key evaluates its config and then settles the value: a split is decided, a provided
value is read from the environment and coerced to the config's value type, and a secret is opened
with the key that another config serves. What comes out of a confidential value is confidential.

A secret's key is resolved like any key, and may be a secret itself; a resolution carries how many
more keys may be resolved for it.

A split that no property decides is decided by chance. A resolver holds the fractions that chance
will give, and what is left of them after a resolution is the resolver for the next one.
-/

namespace LiveConfig

/-- What resolving a key gives. -/
structure Resolution where
  key : String
  config : Config
  /-- The rule that serves the config, if one does. -/
  selection : Option Selection
  /-- The index of the arm that was chosen, if the rule's value is a split. -/
  arm : Option Nat := none
  /-- The settled value. -/
  value : Option Value := none

/-- What resolution works with. -/
structure Resolver where
  catalog : Catalog
  vars : Variables := ∅
  decrypter : Secret.Decrypter := Secret.decrypt
  /-- How deep segments and keys may nest. -/
  depth : Nat := Catalog.defaultDepth
  /-- The fractions by which splits are decided that no property decides, in order. -/
  chance : Nat → Float := Chance.fraction 0

/-- A text coerced to a value type. -/
def coerce? (text : String) : ValueType → Option Payload
  | .unset => some (.text text)
  | .text => some (.text text)
  | .int => (Decimal.readInt64? (Text.trimChars text.toList)).map .int
  | .double => (Decimal.readDouble? (Text.trimChars text.toList)).map .double
  | .bool =>
    if Text.trim text = "true" then some (.bool true)
    else if Text.trim text = "false" then some (.bool false)
    else none
  | .duration => some (.duration text)
  | .json => some (.json text)
  | _ => none

/-- The fraction that decides a split: by the hash of a property if the split names one that is
known. -/
def Split.fraction (s : Split Value) (key : String) (lookup : Lookup) (chance : Float) : Float :=
  match s.hashBy >>= lookup with
  | some property => hashFraction key property.rawText
  | none => chance

/-- The arm that is chosen, with its index. -/
def Split.pick? (s : Split Value) (key : String) (lookup : Lookup) (chance : Float) :
    Option (Nat × Arm Value) :=
  let index := pickIndex s.weights (s.fraction key lookup chance)
  s.arms[index]?.map fun arm => (index, arm)

/-- Opens a secret, given the key of the config that holds its key. -/
abbrev Opener := String → String → Except ConfigError String

namespace Resolver

/-- Where criteria read properties: the context, then the store's default context. -/
def lookup (r : Resolver) (context : Context) : Lookup :=
  .first [context.property?, r.catalog.defaults]

/-- Decides a value: a split gives one of its arms. -/
def choose (r : Resolver) (context : Context) (key : String) (selected : Value) :
    Except ConfigError (Option Nat × Value) :=
  match selected.split? with
  | none => .ok (none, selected)
  | some s =>
    match s.pick? key (r.lookup context) (r.chance 0) with
    | none => .error (.invalid (.emptySplit key))
    | some (index, arm) => .ok (some index, arm.value)

/-- Reads a provided value as a value of the given type. -/
def provide (r : Resolver) (p : Provided) (target : ValueType) (confidential : Bool) :
    Except ConfigError Value :=
  match p.origin with
  | .unset => .error (.invalid (.noOriginFor p.name))
  | .environment =>
    match r.vars[p.name]? with
    | none => .error (.missingVariable p.name)
    | some text =>
      match coerce? text target with
      | none => .error (.notCoercible p.name target)
      | some payload => .ok { payload, confidential }

/-- Marks a value as confidential if it comes from a confidential one that it differs from. -/
def inherit (selected value : Value) : Value :=
  if selected.confidential && !value.same selected then { value with confidential := true }
  else value

/-- Settles a decided value: provided values are read and secrets are opened. -/
def settle (r : Resolver) (opener : Opener) (target : ValueType) (selected value : Value) :
    Except ConfigError Value :=
  match value.payload, value.decryptWith with
  | .provided p, _ => (r.provide p target value.confidential).map (inherit selected)
  | .text sealed, some key =>
    (opener key sealed).map fun text => { payload := .text text, confidential := true }
  | _, _ => .ok (inherit selected value)

/-- Resolves a key, given how secrets are opened. -/
def resolveWith (r : Resolver) (opener : Opener) (context : Context) (key : String) :
    Except ConfigError Resolution :=
  match r.catalog.config? key with
  | none => .error (.missingConfig key)
  | some config =>
    match r.catalog.evaluate r.depth (r.lookup context) config with
    | none => .ok { key, config, selection := none }
    | some found => do
      let selected := found.rule.value
      let (arm, decided) ← r.choose context key selected
      let value ← r.settle opener config.valueType selected decided
      return { key, config, selection := some found, arm, value := some value }

/-- Opens a secret with the text that a resolution of its key gives. -/
def openWith (r : Resolver) (resolved : Except ConfigError Resolution) (key sealed : String) :
    Except ConfigError String :=
  match resolved with
  | .error cause => .error (.undecryptable (.keyUnresolved key cause))
  | .ok resolution =>
    match resolution.value >>= Value.text? with
    | none => .error (.undecryptable (.keyNotText key))
    | some secretKey => (r.decrypter secretKey sealed).mapError (.undecryptable ∘ .secret)

/-- The value that the rules select for a key. -/
def selected? (r : Resolver) (context : Context) (key : String) : Option Value := do
  let config ← r.catalog.config? key
  let found ← r.catalog.evaluate r.depth (r.lookup context) config
  return found.rule.value

/-- How many fractions it takes to decide the value of a key: one if it is a split that no property
decides. -/
def draws (r : Resolver) (context : Context) (key : String) : Nat :=
  match r.selected? context key >>= Value.split? with
  | none => 0
  | some s => if (s.hashBy >>= r.lookup context).isNone then 1 else 0

/-- The key that opens the decided value of a key, if that is a secret. -/
def secretKey? (r : Resolver) (context : Context) (key : String) : Option String := do
  let selected ← r.selected? context key
  let (_, value) ← (r.choose context key selected).toOption
  match value.payload with
  | .text _ => value.decryptWith
  | _ => none

/-- A resolver without its first fractions. -/
def skip (r : Resolver) (count : Nat) : Resolver :=
  { r with chance := fun index => r.chance (index + count) }

/-- Resolves a key where so many more keys may be resolved for it. -/
def resolveAt (context : Context) : Nat → Resolver → String → Except ConfigError Resolution
  | 0, r, key =>
    r.resolveWith (fun name _ => .error (.undecryptable (.chainTooDeep name))) context key
  | depth + 1, r, key =>
    let rest := r.skip (r.draws context key)
    r.resolveWith (fun name sealed => r.openWith (resolveAt context depth rest name) name sealed)
      context key

/-- How many fractions are taken where so many more keys may be resolved for a key. -/
def drawsAt (context : Context) : Nat → Resolver → String → Nat
  | 0, r, key => r.draws context key
  | depth + 1, r, key =>
    let first := r.draws context key
    match r.secretKey? context key with
    | none => first
    | some name => first + drawsAt context depth (r.skip first) name

/-- Resolves a key. -/
def resolve (r : Resolver) (context : Context) (key : String) : Except ConfigError Resolution :=
  resolveAt context r.depth r key

/-- The resolver for the next key, once a key has been resolved. -/
def after (r : Resolver) (context : Context) (key : String) : Resolver :=
  r.skip (drawsAt context r.depth r key)

end Resolver

/-- What an observer of resolutions sees. -/
inductive Event where
  /-- A key is resolved for a context. -/
  | asked (context : Context)
  /-- The key of a config that is no log level has been resolved. -/
  | answered (resolution : Resolution)

/-- What is observed of a resolution, which may have failed. -/
def Resolution.events (context : Context) (outcome : Except ConfigError Resolution) : List Event :=
  .asked context :: match outcome with
    | .ok r => if r.config.kind = .logLevel then [] else [.answered r]
    | .error _ => []

end LiveConfig
