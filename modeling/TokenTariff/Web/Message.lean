import TokenTariff.Json.Value
import TokenTariff.Web.MediaType
import TokenTariff.Web.Target

/-!
# Requests and responses

A request has a method, a target, header fields and a text as its body. A response has a status,
header fields and a body that is JSON, plain text or empty.
-/

namespace TokenTariff.Web

open Json

inductive Method where
  | get
  | head
  | post
  | put
  | delete
  | options
  | other (name : String)
deriving DecidableEq

namespace Method

/-- Names of methods are in capitals. -/
def ofName : String → Method
  | "GET" => get
  | "HEAD" => head
  | "POST" => post
  | "PUT" => put
  | "DELETE" => delete
  | "OPTIONS" => options
  | name => other name

def name : Method → String
  | get => "GET"
  | head => "HEAD"
  | post => "POST"
  | put => "PUT"
  | delete => "DELETE"
  | options => "OPTIONS"
  | other name => name

end Method

structure Request where
  method : Method := .get
  target : Target
  /-- Header fields, their names in small letters. -/
  headers : List (String × String) := []
  body : String := ""

def Request.header? (r : Request) (name : String) : Option String := r.headers.lookup name

def Request.declaresJson (r : Request) : Bool :=
  ((r.header? "content-type").bind fun s => MediaType.parse? s.toList).any MediaType.isJson

inductive Body where
  | empty
  | text (s : String)
  | json (v : Value)

structure Response where
  status : Nat := 200
  headers : List (String × String) := []
  body : Body := .empty

namespace Response

def json (status : Nat) (v : Value) : Response where
  status := status
  headers := [("content-type", "application/json")]
  body := .json v

def text (status : Nat) (s : String) : Response where
  status := status
  headers := [("content-type", "text/plain; charset=utf-8")]
  body := .text s

def withHeader (r : Response) (name value : String) : Response :=
  { r with headers := r.headers ++ [(name, value)] }

end Response

end TokenTariff.Web
