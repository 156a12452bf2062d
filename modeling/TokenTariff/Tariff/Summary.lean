import TokenTariff.Tariff.Basic

/-!
# Tariffs in words

A tiered tariff has a line for each tier, a flat one a single line.
-/

namespace TokenTariff

def ratioText (x : Option Float) : String :=
  match x with
  | none => "default"
  | some x => plainText x

def FlatRate.summary (r : FlatRate) : String :=
  match r.price with
  | some price => s!"fixed price: ${plainText price}"
  | none =>
    s!"model_ratio: {ratioText r.modelRatio} | completion_ratio: {ratioText r.completionRatio}"

def Tariff.summary (t : Tariff) : List String :=
  match t.plan with
  | .flat rate => [rate.summary]
  | .tiered tiers => tiers.map Tier.summary

end TokenTariff
