import GroupAccess.Config.Load
import GroupAccess.Net.Uri
import GroupAccess.Startup.Log
import GroupAccess.Store.DatabaseUrl

namespace GroupAccess

/-- Why the service stops before it listens. -/
inductive StartError
  | config (text : String)
  | internal (text : String)
  deriving DecidableEq, Repr

namespace StartError

def shown : StartError → String
  | config text => s!"ConfigError({text})"
  | internal text => s!"InternalError({text})"

/-- How the text goes on is up to the part that found the fault. -/
def detail : String := "refused"

def ofLoad : LoadError → StartError
  | .source => config s!"invalid type: {detail}"
  | .fault e => config e.message

def ofPool : PoolError → StartError
  | .notConfigured => internal PoolError.notConfigured.message
  | .malformed => internal s!"{PoolError.malformed.message}: {detail}"

def badAddress : StartError := internal s!"Invalid bind address: {detail}"

def badEndpoint (service endpoint : String) : StartError :=
  let place := s!"for service '{service}' at endpoint '{endpoint}'"
  internal s!"Failed to initialize OTLP tracer {place}: {detail}"

end StartError

/-- How far the service gets on its own. -/
inductive StartState
  | failed (e : StartError)
  /-- A connection to the database is the next step. -/
  | connects (url : String)
  | listens (settings : Settings)

structure Start where
  lines : List LogLine
  state : StartState

namespace Start

def serviceTarget : String := "membership_service"

/-- Traces are sent to this path of the endpoint. -/
def tracesPath : String := "/v1/traces"

def startingLine (s : Settings) : LogLine :=
  { level := .info, target := serviceTarget, message := "Starting membership service"
    fields := [("service", s.serviceName), ("version", s.serviceVersion),
      ("environment", s.environment.name), ("store", s.store.backend.name)] }

def memoryLine : LogLine :=
  { level := .warn, target := serviceTarget
    message := "Using in-memory store; data does not survive restarts" }

def connectingLine : LogLine :=
  { level := .info, target := serviceTarget ++ "::db", message := "Connecting to PostgreSQL..." }

/-- The filter of the first variable, if it is set and well-formed, else of the settings. -/
def filter (vs : Variables) (s : Settings) : LogFilter :=
  ((vs.get? "RUST_LOG").bind LogFilter.ofText?).getD (LogFilter.ofTextLossy s.logLevel)

def openStore (s : Settings) : Start :=
  match s.store.backend with
  | .postgres =>
    match poolUrl s.store.databaseUrl with
    | .ok url => ⟨[connectingLine], .connects url⟩
    | .error .notConfigured => ⟨[], .failed (.ofPool .notConfigured)⟩
    | .error .malformed => ⟨[connectingLine], .failed (.ofPool .malformed)⟩
  | .memory =>
    ⟨[memoryLine],
      if Net.isSocketAddress s.listener.address.toList then .listens s else .failed .badAddress⟩

/-- The steps after the settings; the log begins when the endpoint for traces is known. -/
def withSettings (vs : Variables) (s : Settings) : Start :=
  let isSound (endpoint : String) := Net.isUri (endpoint ++ tracesPath).toList
  match s.listener.tracesTo.filter (!isSound ·) with
  | some endpoint => ⟨[], .failed (.badEndpoint s.serviceName endpoint)⟩
  | none =>
    let start := openStore s
    { start with lines := (startingLine s :: start.lines).filter (filter vs s).lets }

end Start

def Surroundings.start (s : Surroundings) : Start :=
  match Settings.load s with
  | .error e => ⟨[], .failed (.ofLoad e)⟩
  | .ok settings => Start.withSettings s.allVariables settings

end GroupAccess
