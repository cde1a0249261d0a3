import LiveConfig.Client.Retry
import LiveConfig.Text.Quoted

/-!
# Options of a client

Options say where configs come from and how the client behaves. What is not given is taken from the
environment, and what the environment does not give has a default.
-/

namespace LiveConfig

/-- Where a client takes configs from. -/
inductive Supply where
  /-- The service: a first snapshot, then changes. -/
  | service
  /-- The documents in the config directory. -/
  | localFiles
  /-- A dump at a path, bound to an environment. -/
  | dump (path : String) (environment : Int64)
  /-- Fixed values. -/
  | values (values : Std.ExtTreeMap String Value)

/-- What lookups do when the first snapshot does not arrive in time. -/
inductive FailurePolicy where
  /-- They fail. -/
  | refuse
  /-- They go on with what there is. -/
  | unlock
deriving DecidableEq, Repr

/-- The service's usual address. -/
def defaultServiceUrl : String := "https://api.prefab.cloud"

/-- The usual address for telemetry. -/
def defaultTelemetryHost : String := "https://telemetry.prefab.cloud"

/-- The options of a client. -/
structure Options where
  key : Option String := none
  urls : List String := []
  telemetryHost : String := defaultTelemetryHost
  /-- Supplies in the order of their precedence. -/
  supplies : Option (List Supply) := none
  initTimeout : Duration := .ofSeconds 10
  onFailure : FailurePolicy := .refuse
  /-- The context under all others. -/
  globalContext : Context := ∅
  directory : String := "."
  /-- The directory whose documents come before all supplies. -/
  overrideDirectory : Option String := none
  environmentNames : List String := []
  retry : Retry := .standard
  collectSummaries : Bool := true
  uploadMode : Telemetry.UploadMode := .examples
  syncInterval : Duration := .ofSeconds 60
  depth : Nat := Catalog.defaultDepth
  vars : Variables := ∅

/-- Cuts a text at each occurrence of a character. -/
def splitAll (sep : Char) : List Char → List (List Char)
  | [] => [[]]
  | c :: rest =>
    if c = sep then [] :: splitAll sep rest
    else
      match splitAll sep rest with
      | first :: others => (c :: first) :: others
      | [] => [[c]]

/-- The name of the document for one environment. -/
def environmentFile (environment : String) : String :=
  ".prefab." ++ environment ++ ".config.yaml"

/-- The path of a file in a directory. -/
def pathIn (directory file : String) : String :=
  if directory.isEmpty || directory.toList.getLast? == some '/' then directory ++ file
  else directory ++ "/" ++ file

namespace Options

/-- The key to the service. An empty one is none. -/
def effectiveKey (o : Options) : Option String :=
  (o.key <|> o.vars["PREFAB_API_KEY"]?).filter (· ≠ "")

/-- The addresses in a list separated by commas. -/
def urlsOf (list : String) : List String :=
  ((splitAll ',' list.toList).map fun url => String.ofList (Text.trimChars url)).filter (· ≠ "")

/-- The addresses of the service. -/
def effectiveUrls (o : Options) : List String :=
  if !o.urls.isEmpty then o.urls
  else
    match (o.vars["PREFAB_API_URL"]?.map urlsOf).getD [] with
    | [] => [defaultServiceUrl]
    | urls => urls

/-- The supplies: unless given, the service if there is a key to it, and the documents. -/
def effectiveSupplies (o : Options) : List Supply :=
  match o.supplies with
  | some supplies => supplies
  | none => if o.effectiveKey.isSome then [.service, .localFiles] else [.localFiles]

/-- The directory whose documents come first: unless given, the home directory. -/
def effectiveOverride (o : Options) : Option String :=
  o.overrideDirectory <|> o.vars["HOME"]?

/-- The documents in a directory that are read: one per environment, then the default one. -/
def filesIn (o : Options) (directory : String) : List String :=
  (o.environmentNames.map environmentFile ++ [environmentFile "default"]).map (pathIn directory)

/-- Whether the service is one of the supplies. -/
def usesService (o : Options) : Bool :=
  o.effectiveSupplies.any fun
    | .service => true
    | _ => false

/-- Refuses options that a client cannot run with. -/
def validate (o : Options) : Except OptionFault Unit :=
  if o.usesService && o.effectiveKey.isNone then .error .noKey
  else if o.syncInterval.totalNanos = 0 then .error .noInterval
  else .ok ()

/-- How options begin where they are shown; the key is never shown. -/
def outlineStart (o : Options) : String :=
  "ClientOptions \x7b api_key: " ++ optionalText (fun _ => Text.quoted "<redacted>") o.key

end Options

end LiveConfig
