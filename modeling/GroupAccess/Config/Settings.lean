import GroupAccess.Core.Operation
import GroupAccess.Decimal.Reading

namespace GroupAccess

inductive ConfigFault
  | unknownEnvironment (text : String)
  | unknownBackend (text : String)
  | missing (name : String) (inProduction : Bool)
  | unreadable (name : String) (e : Decimal.NumberError)
  | portZero
  | outOfRange (name : String) (limit : Int)
  | badEntropy
  | timeoutZero
  | passwordLimitZero
  | signingKeyEmpty
  | databaseMissing
  | shortSecret (name : String) (limit : Nat)
  deriving DecidableEq, Repr

def ConfigFault.message : ConfigFault → String
  | .unknownEnvironment text => s!"Invalid environment: {text}"
  | .unknownBackend text => s!"Invalid store backend: {text}"
  | .missing name true => s!"{name} is required in production but not set"
  | .missing name false => s!"{name} is required but not set"
  | .unreadable name e => s!"{name}: {e.message}"
  | .portZero => "PORT must be greater than 0"
  | .outOfRange name limit => s!"{name} must be between 1 and {limit}"
  | .badEntropy => "PASSWORD_MIN_ENTROPY_BITS must be a non-negative number"
  | .timeoutZero => "STORE_TIMEOUT_MS must be positive"
  | .passwordLimitZero => "PASSWORD_MAX_BYTES must be positive"
  | .signingKeyEmpty => "TOKEN_SIGNING_KEY must not be empty"
  | .databaseMissing => "DATABASE_URL is required for the postgres backend"
  | .shortSecret name limit => s!"{name} must be at least {limit} bytes in production"

inductive Environment
  | dev
  | prod
  deriving DecidableEq, Repr

namespace Environment

def name : Environment → String
  | dev => "Dev"
  | prod => "Prod"

/-- A name in either case. -/
def ofText (text : String) : Except ConfigFault Environment :=
  let word := Text.lowercase text
  if word = "dev" then .ok .dev
  else if word = "prod" then .ok .prod
  else .error (.unknownEnvironment text)

end Environment

inductive Backend
  | postgres
  | memory
  deriving DecidableEq, Repr

namespace Backend

def name : Backend → String
  | postgres => "Postgres"
  | memory => "Memory"

/-- A name in either case. -/
def ofText (text : String) : Except ConfigFault Backend :=
  let word := Text.lowercase text
  if word = "postgres" then .ok .postgres
  else if word = "memory" then .ok .memory
  else .error (.unknownBackend text)

end Backend

/-- Where the service listens and where it sends traces. -/
structure Listener where
  host : String := "0.0.0.0"
  port : Nat := 8080
  tracesTo : Option String := none
  deriving DecidableEq, Repr

def Listener.address (l : Listener) : String := s!"{l.host}:{l.port}"

structure StoreSettings where
  backend : Backend
  databaseUrl : Option String
  maxConnections : Nat
  minConnections : Nat
  timeoutMillis : Nat
  deriving DecidableEq, Repr

structure Settings where
  listener : Listener
  environment : Environment
  serviceName : String
  serviceVersion : String
  logLevel : String
  store : StoreSettings
  policy : Policy
  purgeSeconds : Nat
  hashConcurrency : Nat

namespace Settings

/-- The fewest bytes of a secret in production. -/
def minSecretBytes : Nat := 32

/-- The most days that a token may live. -/
def maxDays : Int := 3650

def maxMinutes : Int := maxDays * 24 * 60

/-- Whether a value is between one and a limit. -/
def checkRange (name : String) (limit value : Int) : Except ConfigFault Unit :=
  if 1 ≤ value ∧ value ≤ limit then .ok () else .error (.outOfRange name limit)

def refuseIf (c : Bool) (e : ConfigFault) : Except ConfigFault Unit :=
  if c then .error e else .ok ()

/-- The first rule that is broken, if one is. -/
def validate (s : Settings) : Except ConfigFault Unit := do
  let tokens := s.policy.tokens
  let passwords := s.policy.passwords
  refuseIf (s.listener.port == 0) .portZero
  checkRange "ACCESS_TOKEN_EXPIRY_MINUTES" maxMinutes tokens.accessMinutes
  checkRange "REFRESH_TOKEN_EXPIRY_DAYS" maxDays tokens.refreshDays
  checkRange "OPAQUE_TOKEN_EXPIRY_DAYS" maxDays tokens.secretDays
  refuseIf (!passwords.minEntropy.isFinite || passwords.minEntropy < 0) .badEntropy
  refuseIf (s.store.timeoutMillis == 0) .timeoutZero
  refuseIf (passwords.maxBytes == 0) .passwordLimitZero
  refuseIf tokens.signingKey.isEmpty .signingKeyEmpty
  refuseIf (s.store.backend == .postgres && s.store.databaseUrl.isNone) .databaseMissing
  if s.environment = .prod then
    refuseIf (tokens.signingKey.utf8ByteSize < minSecretBytes)
      (.shortSecret "TOKEN_SIGNING_KEY" minSecretBytes)
    refuseIf (passwords.serverSecret.utf8ByteSize < minSecretBytes)
      (.shortSecret "PASSWORD_SERVER_SALT" minSecretBytes)

end Settings

end GroupAccess
