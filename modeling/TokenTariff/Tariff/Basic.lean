import TokenTariff.Error

/-!
# Tariffs

The tariff of a model is either flat, with a price per call or ratios, or tiered by token counts. A
draft is a tariff as it is written down: it names its kind and has the fields of both kinds, of
which only those of its own may be used.
-/

namespace TokenTariff

/-- The fields of a flat tariff. A price per call makes the ratios idle; a missing ratio is left to
a default elsewhere. -/
structure FlatRate where
  price : Option Float := none
  modelRatio : Option Float := none
  completionRatio : Option Float := none
deriving DecidableEq

inductive Plan where
  | flat (rate : FlatRate)
  | tiered (tiers : List Tier)
deriving DecidableEq

inductive PlanKind where
  | flat
  | tiered
deriving DecidableEq

def PlanKind.names : List (String × PlanKind) := [("fixed", .flat), ("segmented", .tiered)]

def PlanKind.name : PlanKind → String
  | flat => "fixed"
  | tiered => "segmented"

structure Tariff where
  model : String
  enabled : Bool := true
  plan : Plan
deriving DecidableEq

namespace Tariff

def flat (model : String) (rate : FlatRate) : Tariff := { model, plan := .flat rate }

/-- A tiered tariff needs a tier. -/
def tiered (model : String) (tiers : List Tier) (enabled : Bool := true) : Except Malformed Tariff :=
  if tiers.isEmpty then .error .noTiers else .ok { model, enabled, plan := .tiered tiers }

def kind (t : Tariff) : PlanKind :=
  match t.plan with
  | .flat _ => .flat
  | .tiered _ => .tiered

def tiers (t : Tariff) : List Tier :=
  match t.plan with
  | .flat _ => []
  | .tiered tiers => tiers

structure Draft where
  model : String := ""
  enabled : Bool := true
  kind : PlanKind := .flat
  rate : FlatRate := {}
  tiers : List Tier := []

def Draft.hasFlatField (d : Draft) : Bool :=
  d.rate.price.isSome || d.rate.modelRatio.isSome || d.rate.completionRatio.isSome

/-- The tariff of a draft that uses only the fields of its kind. -/
def Draft.settle (d : Draft) : Except Malformed Tariff :=
  match d.kind with
  | .flat =>
    if d.tiers.isEmpty then .ok ⟨d.model, d.enabled, .flat d.rate⟩
    else .error (.flatWithTiers d.model)
  | .tiered =>
    if d.hasFlatField then .error (.tieredWithFlatFields d.model)
    else if d.tiers.isEmpty then .error (.tieredWithoutTiers d.model)
    else .ok ⟨d.model, d.enabled, .tiered d.tiers⟩

def draft (t : Tariff) : Draft :=
  match t.plan with
  | .flat rate => { model := t.model, enabled := t.enabled, kind := .flat, rate }
  | .tiered tiers => { model := t.model, enabled := t.enabled, kind := .tiered, tiers }

end Tariff

end TokenTariff
