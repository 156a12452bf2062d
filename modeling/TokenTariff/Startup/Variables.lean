import TokenTariff.Net.Url.Read
import TokenTariff.Startup.Basic
import TokenTariff.Text.Pieces

/-!
# Starting from environment variables

Each setting has a variable and a default. The variables are read in a fixed order, and the first
that cannot be used is reported; the address to listen at is looked at last.
-/

namespace TokenTariff.Startup

open Net

abbrev Variables := Table String

def textOr (vars : Variables) (name default : String) : String := (vars.get? name).getD default

/-- The number below `limit` that a variable holds, or its default. -/
def numberOr (vars : Variables) (name : String) (limit default : Nat) : Except StartupError Nat :=
  match vars.get? name with
  | none => .ok default
  | some raw => (readWhole limit (trimChars raw.toList)).mapError (.badNumber name raw)

/-- A variable that is set to more than blanks. -/
def given? (vars : Variables) (name : String) : Option String :=
  (vars.get? name).filter (!isBlank ·)

/-- A list with commas, without blanks around its items and without empty ones. -/
def listOf (s : String) : List String :=
  ((splitAll ',' s.toList).map trimChars |>.filter (!·.isEmpty)).map String.ofList

def readStage (vars : Variables) : Except StartupError Stage :=
  let name := textOr vars "APP_ENVIRONMENT" "development"
  match Stage.parse? name with
  | some stage => .ok stage
  | none => .error (.unknownStage name)

def readServer (vars : Variables) : Except StartupError Server := do
  let number ← numberOr vars "APP_PORT" UInt16.size 3000
  let timeout ← numberOr vars "REQUEST_TIMEOUT_SECS" UInt64.size 30
  return {
    host := textOr vars "APP_HOST" "0.0.0.0"
    number := UInt16.ofNat number
    logLevel := textOr vars "LOG_LEVEL" "info"
    origins := listOf (textOr vars "CORS_ALLOWED_ORIGINS" "http://localhost:3000")
    timeout := UInt64.ofNat timeout }

/-- The address has to be one; whether paths can be added to it is not looked at. -/
def readAddress (vars : Variables) : Except StartupError String :=
  let address := textOr vars "UPSTREAM_BASE_URL" "http://127.0.0.1:3000"
  match Url.parse address with
  | .ok _ => .ok address
  | .error _ => .error (.badAddress address)

def readRemote (vars : Variables) : Except StartupError RemoteAccess := do
  let address ← readAddress vars
  let timeout ← numberOr vars "UPSTREAM_TIMEOUT_SECS" UInt64.size 10
  return {
    address
    token := given? vars "UPSTREAM_ACCESS_TOKEN"
    user := given? vars "UPSTREAM_USER_ID"
    timeout := UInt64.ofNat timeout }

def ofVariables (vars : Variables) : Except StartupError Startup := do
  let stage ← readStage vars
  let server ← readServer vars
  let remote ← readRemote vars
  let interval ← numberOr vars "RATIO_REFRESH_INTERVAL_SECS" UInt64.size 60
  let _ ← server.listener
  return { stage, server, remote, interval := UInt64.ofNat interval }

end TokenTariff.Startup
