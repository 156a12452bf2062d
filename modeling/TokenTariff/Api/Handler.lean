import TokenTariff.Api.Payload
import TokenTariff.Api.Route
import TokenTariff.Envelope
import TokenTariff.Price.Quote
import TokenTariff.Registry.Service
import TokenTariff.Text.Lower
import TokenTariff.Web.Origin

/-!
# Answering requests

A request that cannot be understood is answered in plain text. Every other one is answered with an
envelope, which holds the data that were asked for or the message of an error.
-/

namespace TokenTariff.Api

open Json Web

inductive Misreading where
  | notJson
  | body (f : Fault)
  | repeatedSearch
  | name

def Misreading.response : Misreading → Response
  | notJson => .text 415 "Expected request with `Content-Type: application/json`"
  | body f =>
    if f.inContent then
      .text 422 s!"Failed to deserialize the JSON body into the target type: {f.message}"
    else .text 400 s!"Failed to parse the request body as JSON: {f.message}"
  | repeatedSearch => .text 400 "Failed to deserialize query string: duplicate field `search`"
  | name => .text 400 "Invalid URL: Invalid UTF-8 in `model_name`"

def readBody {α : Type} (r : Reader α) (request : Request) : Except Misreading α :=
  if request.declaresJson then (r.front request.body).mapError .body else .error .notJson

/-- The word that is searched for; a missing one is blank. -/
def readSearch (t : Target) : Except Misreading String :=
  match t.fields.filter (·.1 = "search") with
  | [] => .ok ""
  | [(_, word)] => .ok word
  | _ => .error .repeatedSearch

def readName (name : List Char) : Except Misreading String :=
  match Target.decodeSegment? name with
  | some s => .ok s
  | none => .error .name

def readTariff (v : Value) : Except ServiceError Tariff :=
  (Tariff.reader.ofValue v).mapError fun f => .pricing (.malformed (.unreadable f))

def succeed (data : Value) (message : String := "") : Response :=
  .json 200 ((Envelope.ok data message).toValue id)

def refuse (e : ServiceError) : Response :=
  .json e.status ((Envelope.failure e.message : Envelope Value).toValue id)

def reply {α : Type} (write : α → Value) (result : Except ServiceError α) (message : String := "") :
    Response :=
  match result with
  | .ok a => succeed (write a) message
  | .error e => refuse e

def understood (result : Except Misreading Response) : Response :=
  match result with
  | .ok r => r
  | .error m => m.response

def convert (request : Request) : Response := understood do
  let q ← readBody Quote.reader request
  return reply PriceSheet.toValue (q.sheet.mapError .pricing)

def matching (request : Request) : Response := understood do
  let q ← readBody MatchQuestion.reader request
  return reply MatchAnswer.toValue (q.answer.mapError .pricing)

def resolve (r : Registry) (request : Request) : Response := understood do
  let q ← readBody ResolveQuestion.reader request
  return reply Charge.toValue (r.resolve q.model q.input q.output)

def list (r : Registry) (request : Request) : Response := understood do
  let word ← readSearch request.target
  return succeed (.list ((r.tariffs.filter fun t => finds word t.model).map Tariff.toValue))

def detail (r : Registry) (name : List Char) : Response := understood do
  let model ← readName name
  return match r.get? model with
    | some t => succeed (detailValue t)
    | none => refuse (.notFound model)

def status (r : Registry) : Response := succeed (statusValue r.status)

variable {σ : Type} (b : Backend σ) (now : String)

def save (request : Request) (s : Service σ) : Response × Service σ :=
  match readBody Reader.whole request with
  | .error m => (m.response, s)
  | .ok v =>
    match readTariff v with
    | .error e => (refuse e, s)
    | .ok t =>
      let (result, s) := s.save b now t
      (reply Tariff.toValue result "保存成功", s)

def delete (name : List Char) (s : Service σ) : Response × Service σ :=
  match readName name with
  | .error m => (m.response, s)
  | .ok model =>
    let (result, s) := s.delete b now model
    (reply (fun kind => .text kind.name) result "倍率配置已删除", s)

def refresh (s : Service σ) : Response × Service σ :=
  let (result, s) := s.refresh b now
  (reply (fun _ => statusValue s.registry.status) (result.mapError .remote), s)

def Action.perform (request : Request) (s : Service σ) : Action → Response × Service σ
  | health => (.text 200 "OK", s)
  | convert => (Api.convert request, s)
  | matching => (Api.matching request, s)
  | resolve => (Api.resolve s.registry request, s)
  | list => (Api.list s.registry request, s)
  | detail name => (Api.detail s.registry name, s)
  | status => (Api.status s.registry, s)
  | save => Api.save b now request s
  | delete name => Api.delete b now name s
  | refresh => Api.refresh b now s

/-- The response before other origins are thought of. -/
def dispatch (request : Request) (s : Service σ) : Response × Service σ :=
  match Route.ofTarget? request.target with
  | none => (if request.method = .options then Origins.preflight else { status := 404 }, s)
  | some route =>
    if request.method = .options then (Origins.preflight.withHeader "allow" route.allow, s)
    else
      match route.action? request.method with
      | none => (Response.withHeader { status := 405 } "allow" route.allow, s)
      | some action => action.perform b now request s

/-- The response without its body, if only its head was asked for. -/
def trim (request : Request) (r : Response) : Response :=
  if request.method = .head then { r with body := .empty } else r

def handle (origins : Origins) (request : Request) (s : Service σ) : Response × Service σ :=
  let (r, s) := dispatch b now request s
  (origins.mark request (trim request r), s)

end TokenTariff.Api
