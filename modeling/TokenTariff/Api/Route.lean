import TokenTariff.Web.Message

/-!
# Routes

Each path of the service is a route, and a route offers an action for some of the methods. A method
that asks for the head of a response is served where its whole is.
-/

namespace TokenTariff.Api

open Web

inductive Action where
  | health
  | convert
  | matching
  | resolve
  | list
  | save
  /-- Shows the tariff of a model, whose name is given as it stands in the path. -/
  | detail (name : List Char)
  | delete (name : List Char)
  | refresh
  | status

inductive Route where
  | health
  | convert
  | matching
  | resolve
  | tariffs
  | tariff (name : List Char)
  | refresh
  | status

namespace Route

/-- The route of a path. The name of a model is one part of a path, and not an empty one. -/
def ofTarget? (t : Target) : Option Route :=
  match t.segments.map String.ofList with
  | ["", "health"] => some health
  | ["", "v1", "ratio", "convert"] => some convert
  | ["", "v1", "ratio", "match"] => some matching
  | ["", "v1", "ratio", "resolve"] => some resolve
  | ["", "v1", "ratio", "configs"] => some tariffs
  | ["", "v1", "ratio", "configs", name] => if name.isEmpty then none else some (tariff name.toList)
  | ["", "v1", "ratio", "refresh"] => some refresh
  | ["", "v1", "ratio", "status"] => some status
  | _ => none

def action? : Route → Method → Option Action
  | health, .get | health, .head => some .health
  | convert, .post => some .convert
  | matching, .post => some .matching
  | resolve, .post => some .resolve
  | tariffs, .get | tariffs, .head => some .list
  | tariffs, .post => some .save
  | tariff name, .get | tariff name, .head => some (.detail name)
  | tariff name, .delete => some (.delete name)
  | refresh, .post => some .refresh
  | status, .get | status, .head => some .status
  | _, _ => none

def allow (r : Route) : String :=
  ",".intercalate
    (([.get, .head, .post, .delete].filter fun m => (r.action? m).isSome).map Method.name)

end Route

end TokenTariff.Api
