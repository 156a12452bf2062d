import TokenTariff.Json.Reader
import TokenTariff.Tariff.Basic
import TokenTariff.Tariff.Wire

/-!
# Charges

What a call is billed by: a price per call, or ratios.
-/

namespace TokenTariff

open Json

inductive Charge where
  | perCall (price : Float)
  | byRatio (modelRatio completionRatio : Option Float)

def Tariff.charge (t : Tariff) (input output : UInt64) : Except PricingError Charge :=
  match t.plan with
  | .flat rate =>
    match rate.price with
    | some price => .ok (.perCall price)
    | none => .ok (.byRatio rate.modelRatio rate.completionRatio)
  | .tiered tiers =>
    match Tier.pick? tiers input output with
    | some (_, tier) => .ok (.byRatio (some tier.modelRatio) (some tier.completionRatio))
    | none => .error (.noMatchingTier input output)

def realValue (x : Option Float) : Value :=
  match x with
  | none => .null
  | some x => .real x

namespace Charge

def perCallShape : Shape Charge where
  title := "struct variant EffectiveRatio::FixedPrice"
  blank := .perCall 0
  fields := [.required "fixed_price" Reader.real fun x _ => .perCall x]

def byRatioShape : Shape (Option Float × Option Float) where
  title := "struct variant EffectiveRatio::Ratio"
  blank := (none, none)
  fields := [
    .optional "model_ratio" (Reader.optional Reader.real) fun x r => (x, r.2),
    .optional "completion_ratio" (Reader.optional Reader.real) fun x r => (r.1, x)]

def tagged : Tagged Charge where
  title := "internally tagged enum EffectiveRatio"
  tag := "kind"
  cases := [
    ("fixed_price", perCallShape.reader),
    ("ratio", byRatioShape.reader.map fun r => .byRatio r.1 r.2)]

def reader : Reader Charge := tagged.reader

def toValue : Charge → Value
  | perCall price => .ofMembers [("kind", .text "fixed_price"), ("fixed_price", .real price)]
  | byRatio m c =>
    .ofMembers [
      ("kind", .text "ratio"), ("model_ratio", realValue m), ("completion_ratio", realValue c)]

end Charge

end TokenTariff
