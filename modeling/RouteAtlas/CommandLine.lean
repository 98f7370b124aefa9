import RouteAtlas.Json.Writer
import RouteAtlas.Options.Document
import RouteAtlas.Route.Document
import RouteAtlas.Scan

set_option autoImplicit false

namespace RouteAtlas.CommandLine

inductive ValueOption where
  | root
  | config
  | framework
  | routerPattern
  | factory
  | endpoint
  deriving DecidableEq

inductive Flag where
  | pretty
  | verbose
  | help
  | version
  deriving DecidableEq

def longOption? : String → Option (ValueOption ⊕ Flag)
  | "project-root" => some (.inl .root)
  | "config" => some (.inl .config)
  | "framework" => some (.inl .framework)
  | "router-pattern" => some (.inl .routerPattern)
  | "factory" => some (.inl .factory)
  | "rpc-endpoint" => some (.inl .endpoint)
  | "pretty" => some (.inr .pretty)
  | "verbose" => some (.inr .verbose)
  | "help" => some (.inr .help)
  | "version" => some (.inr .version)
  | _ => none

def shortOption? : Char → Option (ValueOption ⊕ Flag)
  | 'r' => some (.inl .root)
  | 'c' => some (.inl .config)
  | 'v' => some (.inr .verbose)
  | 'h' => some (.inr .help)
  | 'V' => some (.inr .version)
  | _ => none

inductive Given where
  | value (option : ValueOption) (text : String)
  | flag (f : Flag)

def Given.isInfo : Given → Bool
  | .flag .help => true
  | .flag .version => true
  | _ => false

structure Reading where
  given : List Given
  pending : Option ValueOption

/-- A group of short options. What follows one that takes a value is that value, with or without
an equals sign. -/
def readShort : List Char → Option Reading
  | [] => some ⟨[], none⟩
  | c :: cs => do
    match ← shortOption? c with
    | .inr f =>
      let rest ← if (Given.flag f).isInfo then pure ⟨[], none⟩ else readShort cs
      return { rest with given := .flag f :: rest.given }
    | .inl o =>
      match cs with
      | [] => return ⟨[], some o⟩
      | '=' :: text => return ⟨[.value o (String.ofList text)], none⟩
      | text => return ⟨[.value o (String.ofList text)], none⟩

def readLong (body : List Char) : Option Reading :=
  match Text.splitFirst? '=' body with
  | some (name, text) =>
    match longOption? (String.ofList name) with
    | some (.inl o) => some ⟨[.value o (String.ofList text)], none⟩
    | _ => none
  | none =>
    match longOption? (String.ofList body) with
    | some (.inl o) => some ⟨[], some o⟩
    | some (.inr f) => some ⟨[.flag f], none⟩
    | none => none

def isOption : List Char → Bool
  | '-' :: _ :: _ => true
  | _ => false

def readArgument (arg : List Char) : Option Reading :=
  match arg with
  | '-' :: '-' :: body => readLong body
  | '-' :: c :: cs => readShort (c :: cs)
  | _ => none

/-- Reads all arguments, the first of which is the value of an option that is still pending.
There are none but options, also after a double dash. -/
def readArguments : Option ValueOption → List String → Option (List Given)
  | none, [] => some []
  | some _, [] => none
  | some o, text :: rest =>
    if isOption text.toList then none
    else (readArguments none rest).map (.value o text :: ·)
  | none, arg :: rest =>
    if arg = "--" then (if rest.isEmpty then some [] else none)
    else do
      let r ← readArgument arg.toList
      if r.given.any Given.isInfo then return r.given
      else return r.given ++ (← readArguments r.pending rest)

structure Settings where
  root : Option String := none
  config : Option String := none
  frameworks : List Framework := []
  routerPattern : Option String := none
  factories : List String := []
  endpoint : Option String := none
  pretty : Bool := false
  verbose : Bool := false

inductive Request where
  | scan (root : String) (settings : Settings)
  | help
  | version

def setOnce {α : Type} (old : Option α) (new : α) : Option (Option α) :=
  match old with
  | none => some (some new)
  | some _ => none

def nonEmpty? (text : String) : Option String := if text.isEmpty then none else some text

def Settings.setValue (s : Settings) (text : String) : ValueOption → Option Settings
  | .root => do return { s with root := ← setOnce s.root (← nonEmpty? text) }
  | .config => do return { s with config := ← setOnce s.config (← nonEmpty? text) }
  | .framework => do return { s with frameworks := s.frameworks ++ [← Framework.ofName? text] }
  | .routerPattern => do return { s with routerPattern := ← setOnce s.routerPattern text }
  | .factory => some { s with factories := s.factories ++ [text] }
  | .endpoint => do return { s with endpoint := ← setOnce s.endpoint text }

def request? : Settings → List Given → Option Request
  | s, [] => s.root.map fun root => .scan root s
  | s, .value o text :: rest => (s.setValue text o).bind (request? · rest)
  | _, .flag .help :: _ => some .help
  | _, .flag .version :: _ => some .version
  | s, .flag .pretty :: rest => if s.pretty then none else request? { s with pretty := true } rest
  | s, .flag .verbose :: rest => if s.verbose then none else request? { s with verbose := true } rest

def Settings.apply (s : Settings) (o : ScanOptions) : ScanOptions :=
  { o with
    frameworks := { o.frameworks with force := o.frameworks.force ++ s.frameworks }
    rpc :=
      { o.rpc with
        factoryNames := o.rpc.factoryNames ++ s.factories
        routerPattern := s.routerPattern.or o.rpc.routerPattern
        endpoint := s.endpoint.getD o.rpc.endpoint } }

inductive Failure where
  | options (path : String) (reason : ScanOptions.LoadError)
  | scan (root : String) (reason : Project.RootNotFound)

def Failure.message : Failure → String
  | .options path _ => s!"Error: loading scan options from {path}"
  | .scan root _ => s!"Error: scanning {root}"

inductive Outcome where
  | routes (text : String)
  | info (text : String)
  | failed (f : Failure)
  | usage

def Outcome.exitCode : Outcome → Nat
  | .routes _ => 0
  | .info _ => 0
  | .failed _ => 1
  | .usage => 2

def render (pretty : Bool) (routes : List Route) : String :=
  let document := Json.array (routes.map Route.toJson)
  (if pretty then document.pretty 0 else document.compact) ++ "\n"

def options (disk : Disk) (s : Settings) : Except Failure ScanOptions :=
  match s.config with
  | none => .ok (s.apply {})
  | some path =>
    match ScanOptions.load disk path with
    | .ok o => .ok (s.apply o)
    | .error e => .error (.options path e)

def runScan (disk : Disk) (root : String) (s : Settings) : Logged Outcome :=
  match options disk s with
  | .error f => pure (.failed f)
  | .ok o =>
    match scan disk root o with
    | .error e => pure (.failed (.scan root e))
    | .ok routes => do return .routes (render s.pretty (← routes))

def helpText : String :=
  "Finds the HTTP routes of a project in its sources and prints them as JSON\n\n" ++
  "  -r, --project-root <DIR>      Root of the project to scan\n" ++
  "  -c, --config <FILE>           TOML file with scan options\n" ++
  "      --framework <NAME>        Framework to look for in any case\n" ++
  "      --router-pattern <REGEX>  Names of calls that make routers\n" ++
  "      --factory <NAME>          Further name of a call that makes a router\n" ++
  "      --rpc-endpoint <PATH>     Where the routers are mounted\n" ++
  "      --pretty                  Print the JSON on several lines\n" ++
  "  -v, --verbose                 Report details\n"

def versionText : String := "route-scanner 0.1.0\n"

def parse? (args : List String) : Option Request := (readArguments none args).bind (request? {})

def run (disk : Disk) (args : List String) : Logged Outcome :=
  match parse? args with
  | none => pure .usage
  | some .help => pure (.info helpText)
  | some .version => pure (.info versionText)
  | some (.scan root s) => runScan disk root s

end RouteAtlas.CommandLine
