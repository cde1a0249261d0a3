import LiveConfig.Client.Basic

/-!
# Lookups

A lookup waits for the gate, lays the contexts over one another, the client's own at the bottom and
the call's on top, and resolves the key. Typed lookups give the value if it is of their type; with a
default they never fail.

The level of a logger is that of its longest configured name: a logger `a.b` asks for
`log-level.a.b`, then `log-level.a`, then `log-level`.
-/

namespace LiveConfig.Client

/-- The context of a call: the client's, then those bound to it, then the call's own. -/
def callContext (c : Client) (bound : List Context) (context : Context) : Context :=
  c.options.globalContext.overlay ((Context.layered bound).overlay context)

/-- Observes a resolution, if anything is recorded. -/
def observe (c : Client) (context : Context) (outcome : Except ConfigError Resolution) : Client :=
  { c with recorder := c.recorder.map (·.observeAll context outcome) }

/-- Resolves a key without waiting. The fractions of chance that this takes are gone. -/
def resolveNow (c : Client) (bound : List Context) (key : String) (context : Context) :
    Except ConfigError Resolution × Client :=
  let full := c.callContext bound context
  let outcome := c.resolver.resolve full key
  (outcome, { c.observe full outcome with chance := (c.resolver.after full key).chance })

/-- Resolves a key. -/
def resolve (c : Client) (bound : List Context) (key : String) (context : Context) :
    Except ClientError Resolution × Client :=
  match c.await with
  | (.error error, c) => (.error error, c)
  | (.ok (), c) =>
    let (outcome, c) := c.resolveNow bound key context
    (outcome.mapError .config, c)

/-- The value of a key as one type sees it. -/
def get {α : Type} (type : Value → Option α) (c : Client) (bound : List Context) (key : String)
    (context : Context) : Except ClientError (Option α) × Client :=
  let (outcome, c) := c.resolve bound key context
  (outcome.map fun r => r.value >>= type, c)

/-- The value of a key as one type sees it, or a default. -/
def getD {α : Type} (type : Value → Option α) (default : α) (c : Client) (bound : List Context)
    (key : String) (context : Context) : α × Client :=
  let (outcome, c) := c.get type bound key context
  ((outcome.toOption.bind id).getD default, c)

/-- Whether a flag is on. Anything but true is off. -/
def isOn (c : Client) (bound : List Context) (key : String) (context : Context) : Bool × Client :=
  c.getD Value.bool? false bound key context

/-- The beginnings of a text that end before a dot, shortest first. -/
def beforeDots : List Char → List (List Char)
  | [] => []
  | c :: rest =>
    let longer := (beforeDots rest).map (c :: ·)
    if c = '.' then [] :: longer else longer

/-- The key of a logger's own level. -/
def levelKey (logger : String) : String :=
  if logger.isEmpty then Document.levelRoot else Document.levelRoot ++ "." ++ logger

/-- The keys that are asked for a logger's level, in order. -/
def levelKeys (logger : String) : List String :=
  levelKey logger :: (beforeDots (levelKey logger).toList).reverse.map String.ofList

/-- The first level that one of the keys serves. -/
def firstLevel (c : Client) (bound : List Context) : List String → Option LogLevel × Client
  | [] => (none, c)
  | key :: rest =>
    let (outcome, c) := c.resolveNow bound key ∅
    match outcome.toOption.bind fun r => r.value >>= Value.logLevel? with
    | some level => (some level, c)
    | none => c.firstLevel bound rest

/-- The level of a logger; none if none is configured or the client is not ready. -/
def logLevel (c : Client) (bound : List Context) (logger : String) : Option LogLevel × Client :=
  match c.await with
  | (.error _, c) => (none, c)
  | (.ok (), c) => c.firstLevel bound (levelKeys logger)

/-- Reports and forgets what has been recorded. -/
def drain (c : Client) : Option (List Telemetry.Report) × Client :=
  match c.recorder with
  | none => (none, c)
  | some recorder =>
    let (reports, recorder) := recorder.drain
    (some reports, { c with recorder := some recorder })

end LiveConfig.Client
