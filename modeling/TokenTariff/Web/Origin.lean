import TokenTariff.Web.Message

/-!
# Requests from other origins

A browser lets a page use our responses when they name the origin of the page. Either every origin is
allowed or those of a list, and each of these is answered with its own name. A request that asks for
options is answered at once and allows every method and header field.
-/

namespace TokenTariff.Web

inductive Origins where
  | any
  | only (names : List String)

namespace Origins

def isFieldChar (c : Char) : Bool := c = '\t' || (0x20 ≤ c.toNat && c.toNat < 0x7F)

/-- The star stands for every origin; names that no header field can hold are left out. -/
def ofNames (names : List String) : Origins :=
  if names.contains "*" then any else only (names.filter (·.toList.all isFieldChar))

/-- The origin that a response to a page of `origin` names. -/
def allowed? (o : Origins) (origin : Option String) : Option String :=
  match o with
  | any => some "*"
  | only names => origin.filter names.contains

def vary : String := "origin, access-control-request-method, access-control-request-headers"

def mark (o : Origins) (request : Request) (r : Response) : Response :=
  let r :=
    match o.allowed? (request.header? "origin") with
    | some name => r.withHeader "access-control-allow-origin" name
    | none => r
  r.withHeader "vary" vary

def preflight : Response where
  headers := [("access-control-allow-methods", "*"), ("access-control-allow-headers", "*")]

end Origins

end TokenTariff.Web
