import GroupAccess.Config.Source

namespace GroupAccess

/-- What a variable is read with. One that is not set has a default outside production only; one
that is set has to be readable. -/
structure VariableReader where
  vars : Variables
  inProduction : Bool

namespace VariableReader

def text (r : VariableReader) (name : String) (default : Option String) :
    Except ConfigFault String :=
  match r.vars.get? name, r.inProduction, default with
  | some text, _, _ => .ok text
  | none, false, some text => .ok text
  | none, _, _ => .error (.missing name r.inProduction)

def whole (r : VariableReader) (bounds : Decimal.Bounds) (name default : String) :
    Except ConfigFault Int := do
  let text ← r.text name default
  (Decimal.readWhole bounds text).mapError (.unreadable name)

def natural (r : VariableReader) (bits : Nat) (name default : String) :
    Except ConfigFault Nat := do
  return (← r.whole (.unsigned bits) name default).toNat

def float (r : VariableReader) (name default : String) : Except ConfigFault Float := do
  let text ← r.text name default
  (Decimal.readFloat text).mapError (.unreadable name)

end VariableReader

namespace StoreSettings

/-- Only the backend has a default in production too. -/
def read (r : VariableReader) : Except ConfigFault (Backend × Option String) := do
  let backend ← Backend.ofText ((r.vars.get? "STORE_BACKEND").getD "postgres")
  match backend with
  | .postgres => return (backend, some (← r.text "DATABASE_URL" none))
  | .memory => return (backend, none)

end StoreSettings

namespace Settings

/-- Reads the variables one after the other; the first fault wins. -/
def readAll (vs : Variables) (listener : Listener) (processors : Nat) :
    Except ConfigFault Settings := do
  let environment ← Environment.ofText ((vs.get? "ENVIRONMENT").getD "dev")
  let r : VariableReader := ⟨vs, environment == .prod⟩
  let (backend, databaseUrl) ← StoreSettings.read r
  let serviceName ← r.text "SERVICE_NAME" "membership-service"
  let serviceVersion ← r.text "SERVICE_VERSION" "0.1.0"
  let logLevel ← r.text "LOG_LEVEL" "info"
  let maxConnections ← r.natural 32 "DATABASE_MAX_CONNECTIONS" "20"
  let minConnections ← r.natural 32 "DATABASE_MIN_CONNECTIONS" "2"
  let timeoutMillis ← r.natural 64 "STORE_TIMEOUT_MS" "5000"
  let signingKey ← r.text "TOKEN_SIGNING_KEY" "dev-only-signing-key-change-me-0000000000"
  let accessMinutes ← r.whole (.signed 64) "ACCESS_TOKEN_EXPIRY_MINUTES" "15"
  let refreshDays ← r.whole (.signed 64) "REFRESH_TOKEN_EXPIRY_DAYS" "7"
  let secretDays ← r.whole (.signed 64) "OPAQUE_TOKEN_EXPIRY_DAYS" "30"
  let purgeSeconds ← r.natural 64 "TOKEN_PURGE_INTERVAL_SECONDS" "3600"
  let serverSecret ← r.text "PASSWORD_SERVER_SALT" "dev-only-server-salt-change-me-00000000"
  let minEntropy ← r.float "PASSWORD_MIN_ENTROPY_BITS" "60"
  let maxBytes ← r.natural 64 "PASSWORD_MAX_BYTES" "72"
  let hashConcurrency ← r.natural 64 "HASH_CONCURRENCY" (toString processors)
  return {
    listener, environment, serviceName, serviceVersion, logLevel
    store := { backend, databaseUrl, maxConnections, minConnections, timeoutMillis }
    policy := {
      tokens := { signingKey, accessMinutes, refreshDays, secretDays }
      passwords := { serverSecret, minEntropy, maxBytes } }
    purgeSeconds, hashConcurrency }

/-- Settings that keep all rules. -/
def read (vs : Variables) (listener : Listener) (processors : Nat) :
    Except ConfigFault Settings := do
  let settings ← readAll vs listener processors
  settings.validate
  return settings

end Settings

/-- What the service finds when it starts. -/
structure Surroundings where
  vars : Variables
  /-- A file with further variables. -/
  variableFile : Option String := none
  configuration : Option (Format × String) := none
  processors : Nat := 1

namespace Surroundings

def allVariables (s : Surroundings) : Variables :=
  match s.variableFile with
  | some text => s.vars.addFile text
  | none => s.vars

end Surroundings

/-- Why there are no settings: a layer that cannot be read comes before all other faults. -/
inductive LoadError
  | source
  | fault (e : ConfigFault)
  deriving DecidableEq, Repr

def Settings.load (s : Surroundings) : Except LoadError Settings :=
  match Listener.load? s.configuration s.allVariables with
  | none => .error .source
  | some listener => (Settings.read s.allVariables listener s.processors).mapError .fault

end GroupAccess
