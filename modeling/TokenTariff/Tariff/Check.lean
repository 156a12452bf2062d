import TokenTariff.Price.Conversion
import TokenTariff.Tariff.Basic
import TokenTariff.Text.Pieces

/-!
# What may be saved

A tariff is checked as a whole before it is saved; the first thing wrong with it is reported.
-/

namespace TokenTariff

namespace FlatRate

def fields (r : FlatRate) : List (String × Option Float) :=
  [("fixed_price", r.price), ("model_ratio", r.modelRatio), ("completion_ratio", r.completionRatio)]

def badField? (r : FlatRate) : Option (String × Float) :=
  r.fields.findSome? fun f => (f.2.filter isBadAmount).map (f.1, ·)

def check (r : FlatRate) : Except Malformed Unit :=
  if r.price.isNone && r.modelRatio.isNone then .error .nothingSet
  else
    match r.badField? with
    | some (field, value) => .error (.notNonNegative field value)
    | none => .ok ()

end FlatRate

/-- The first tier with problems, counting from `position`. -/
def checkTiers (position : Nat) : List Tier → Except Malformed Unit
  | [] => .ok ()
  | t :: rest =>
    if t.problems.isEmpty then checkTiers (position + 1) rest
    else .error (.badTier position t.problems)

/-- The first thing that keeps a tariff from being saved. -/
def Tariff.check (t : Tariff) : Except Malformed Unit :=
  if isBlank t.model then .error .blankModel
  else
    match t.plan with
    | .flat rate => if t.enabled then rate.check else .error .flatDisabled
    | .tiered tiers => if tiers.isEmpty then .error .noTiers else checkTiers 1 tiers

end TokenTariff
