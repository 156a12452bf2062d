import TokenTariff.Envelope
import TokenTariff.Json.Bytes
import TokenTariff.Net.Url.Read
import TokenTariff.Remote.Session
import TokenTariff.Startup.Basic
import TokenTariff.Web.Message
import TokenTariff.Web.Status

/-!
# A store on the web

The remote store is reached at an address below which it offers its settings and its records. Every
answer is an envelope. An answer that is none counts as a refusal if its status says that something
went wrong.
-/

namespace TokenTariff

open Json Net

structure Sent where
  method : Web.Method
  url : Url
  token : Option String := none
  user : Option String := none
  body : Option Value := none

structure Received where
  status : Nat := 200
  body : List UInt8 := []

def Received.read {α : Type} (r : Reader α) (a : Received) : Except Fault α := r.parseBytes a.body

def Received.open {α : Type} (r : Reader α) (a : Received) : Except RemoteError (Option α) :=
  match a.read (Envelope.reader r) with
  | .error f =>
    if Web.isSuccess a.status then .error (.undecodable f)
    else .error (.rejected (Web.statusText a.status))
  | .ok e =>
    if e.success then .ok e.data
    else .error (.rejected (if e.message.isEmpty then Web.statusText a.status else e.message))

/-- A network in states `σ`; nothing may come back. -/
structure Network (σ : Type) where
  exchange : Sent → σ → Option Received × σ

def isFieldText (s : String) : Bool :=
  s.toList.all fun c => c = '\t' || (0x20 ≤ c.toNat && c.toNat != 0x7F)

/-- The address and credentials of a store. Paths can be added to the address. -/
structure Client where
  base : Url
  token : Option String := none
  user : Option String := none
  hierarchical : base.isFlat = false

namespace Client

def ofAccess (r : RemoteAccess) : Except RemoteError Client :=
  match Url.parse r.address with
  | .error e => .error (.badAddress s!"{r.address}: {e.message}")
  | .ok base =>
    if h : base.isFlat = false then .ok ⟨base, r.token, r.user, h⟩
    else .error (.badAddress r.address)

def endpoint (c : Client) (segments : List String) : Url :=
  (c.base.below? (segments.map String.toList)).getD c.base

def settingsUrl (c : Client) : Url := c.endpoint ["api", "option", ""]

def recordsUrl (c : Client) : Url := c.endpoint ["api", "segmented_ratio", ""]

def recordUrl (c : Client) (model : String) : Url := c.endpoint ["api", "segmented_ratio", model]

/-- A message can be sent under a scheme of the web, with credentials that are field text. -/
def canSend (s : Sent) : Bool :=
  (s.url.scheme = "http" || s.url.scheme = "https") && s.token.all isFieldText &&
    s.user.all isFieldText

variable {σ : Type} (c : Client) (n : Network σ)

def send {α : Type} (r : Reader α) (method : Web.Method) (url : Url) (body : Option Value) (s : σ) :
    Except RemoteError (Option α) × σ :=
  let sent : Sent := { method, url, token := c.token, user := c.user, body }
  if canSend sent then
    match n.exchange sent s with
    | (none, s) => (.error .transport, s)
    | (some a, s) => (a.open r, s)
  else (.error .transport, s)

/-- Asks for data; missing ones are `empty`. -/
def fetch {α : Type} (r : Reader α) (empty : α) (url : Url) (s : σ) : Except RemoteError α × σ :=
  let (result, s) := c.send n r .get url none s
  (result.map (·.getD empty), s)

/-- Asks for a change; whatever data come back are left. -/
def change (method : Web.Method) (url : Url) (body : Option Value) (s : σ) :
    Except RemoteError Unit × σ :=
  let (result, s) := c.send n Reader.anything method url body s
  (result.map fun _ => (), s)

/-- Puts settings in order up to the first failure. -/
def putAll : List Setting → σ → Except RemoteError Unit × σ
  | [], s => (.ok (), s)
  | setting :: rest, s =>
    match c.change n .put c.settingsUrl (some setting.toValue) s with
    | (.ok (), s) => putAll rest s
    | (.error e, s) => (.error e, s)

def answer : {β : Type} → Call β → σ → Except RemoteError β × σ
  | _, .listSettings, s => c.fetch n (Reader.items Setting.reader) [] c.settingsUrl s
  | _, .putSettings settings, s => c.putAll n settings s
  | _, .listRecords, s => c.fetch n (Reader.table TierRecord.reader) ∅ c.recordsUrl s
  | _, .upsertRecord record, s => c.change n .post c.recordsUrl (some record.toValue) s
  | _, .deleteRecord model, s => c.change n .delete (c.recordUrl model) none s

def backend : Backend σ := ⟨c.answer n⟩

end Client

end TokenTariff
