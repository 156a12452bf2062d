import TokenTariff.Tariff.Charge

/-!
# The registry

The registry holds the tariffs that were loaded last and answers from them.
-/

namespace TokenTariff

structure Registry where
  tariffs : List Tariff := []
  /-- When the tariffs were loaded, if they ever were. -/
  loadedAt : Option String := none

namespace Registry

def get? (r : Registry) (model : String) : Option Tariff :=
  r.tariffs.find? (·.model == model)

structure Status where
  count : Nat
  tiered : Nat
  flat : Nat
  loadedAt : Option String

def status (r : Registry) : Status :=
  let tiered := (r.tariffs.filter (·.kind = .tiered)).length
  { count := r.tariffs.length, tiered, flat := r.tariffs.length - tiered, loadedAt := r.loadedAt }

def resolve (r : Registry) (model : String) (input output : UInt64) : Except ServiceError Charge :=
  match r.get? model with
  | none => .error (.notFound model)
  | some t => if t.enabled then (t.charge input output).mapError .pricing else .error (.disabled model)

end Registry

end TokenTariff
