import TokenTariff.Json.Value
import TokenTariff.Net.SocketAddress
import TokenTariff.Text.Digits
import TokenTariff.Text.Lower

/-!
# What the service is started with

Where the service listens, where the remote store is found, and how often tariffs are loaded.
-/

namespace TokenTariff

open Json Net

inductive Stage where
  | development
  | production
  | testing
deriving DecidableEq

namespace Stage

def parse? (s : String) : Option Stage :=
  match lowerText s with
  | "development" => some development
  | "production" => some production
  | "testing" => some testing
  | _ => none

def name : Stage → String
  | development => "Development"
  | production => "Production"
  | testing => "Testing"

end Stage

structure Server where
  host : String
  number : UInt16
  logLevel : String
  origins : List String
  timeout : UInt64

structure RemoteAccess where
  address : String
  token : Option String
  user : Option String
  timeout : UInt64

structure Startup where
  stage : Stage
  server : Server
  remote : RemoteAccess
  /-- Seconds between two loads; zero stands for none. -/
  interval : UInt64

inductive StartupError where
  | unknownStage (name : String)
  | badNumber (key raw : String) (fault : WholeFault)
  | badAddress (address : String)
  | badListener (host : String) (number : UInt16)

def StartupError.message : StartupError → String
  | unknownStage name => s!"Unknown environment: {name}"
  | badNumber key raw fault => s!"环境变量 {key} 无效 ({raw}): {fault.message}"
  | badAddress address => s!"UPSTREAM_BASE_URL 不是有效的URL: {address}"
  | badListener host number =>
    s!"无效的监听地址 {host}:{number.toNat}: invalid socket address syntax"

def Server.listener (s : Server) : Except StartupError SocketAddress :=
  match SocketAddress.ofHost? s.host s.number with
  | some a => .ok a
  | none => .error (.badListener s.host s.number)

def Server.toValue (s : Server) : Value :=
  .ofMembers [
    ("host", .text s.host), ("port", .int s.number.toNat), ("log_level", .text s.logLevel),
    ("cors_allowed_origins", .list (s.origins.map .text)),
    ("request_timeout_secs", .int s.timeout.toNat)]

def textValue (s : Option String) : Value := (s.map .text).getD .null

def RemoteAccess.toValue (r : RemoteAccess) : Value :=
  .ofMembers [
    ("base_url", .text r.address), ("access_token", textValue r.token),
    ("user_id", textValue r.user), ("timeout_secs", .int r.timeout.toNat)]

namespace Startup

def isProduction (s : Startup) : Bool := s.stage = .production

def toValue (s : Startup) : Value :=
  .ofMembers [
    ("environment", .text s.stage.name), ("server", s.server.toValue),
    ("upstream", s.remote.toValue),
    ("refresh", .ofMembers [("interval_secs", .int s.interval.toNat)])]

end Startup

end TokenTariff
