import TokenTariff.Tariff.Basic
import TokenTariff.Tier.Wire

/-!
# Tariffs in JSON

A tariff is written as its draft, without the fields that are not set. Reading a tariff is reading a
draft and settling it; a draft that cannot be settled is refused.
-/

namespace TokenTariff

open Json

def PlanKind.reader : Reader PlanKind := Reader.choice PlanKind.names

def optionalReal (key : String) (x : Option Float) : List (String × Value) :=
  match x with
  | none => []
  | some x => [(key, .real x)]

namespace Tariff

def Draft.shape : Shape Draft where
  title := "struct RatioConfigDraft"
  blank := {}
  fields := [
    .required "model_name" Reader.text fun s d => { d with model := s },
    .defaulted "enabled" Reader.bool fun b d => { d with enabled := b },
    .required "mode" PlanKind.reader fun k d => { d with kind := k },
    .defaulted "fixed_price" (Reader.optional Reader.real) fun x d =>
      { d with rate.price := x },
    .defaulted "model_ratio" (Reader.optional Reader.real) fun x d =>
      { d with rate.modelRatio := x },
    .defaulted "completion_ratio" (Reader.optional Reader.real) fun x d =>
      { d with rate.completionRatio := x },
    .defaulted "rules" (Reader.items Tier.reader) fun ts d => { d with tiers := ts }]

def Draft.reader : Reader Draft := shape.reader

def Draft.toValue (d : Draft) : Value :=
  .ofMembers <|
    [("model_name", .text d.model), ("enabled", .bool d.enabled), ("mode", .text d.kind.name)]
      ++ optionalReal "fixed_price" d.rate.price
      ++ optionalReal "model_ratio" d.rate.modelRatio
      ++ optionalReal "completion_ratio" d.rate.completionRatio
      ++ (if d.tiers.isEmpty then [] else [("rules", .list (d.tiers.map Tier.toValue))])

/-- A draft is read to its end before it is settled. -/
def reader : Reader Tariff := fun src doc => do
  let d ← Draft.reader src doc
  match d.settle with
  | .ok t => .ok t
  | .error cause => .error (.refused (PricingError.malformed cause).message)

def toValue (t : Tariff) : Value := t.draft.toValue

end Tariff

end TokenTariff
