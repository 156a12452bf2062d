import TokenTariff.Price.Conversion
import TokenTariff.Tariff.Charge

/-!
# Price sheets

The prices that a pair of ratios amounts to, in both currencies and rounded to six places. Output
prices are computed from the input prices before these are rounded.
-/

namespace TokenTariff

open Json

structure PriceSheet where
  modelRatio : Float
  completionRatio : Option Float
  inputUsd : Float
  inputCny : Float
  outputUsd : Option Float
  outputCny : Option Float

namespace PriceSheet

def ofRatios (model : Float) (completion : Option Float) : PriceSheet where
  modelRatio := model
  completionRatio := completion
  inputUsd := roundPrice (usdOfRatio model)
  inputCny := roundPrice (cnyOfRatio model)
  outputUsd := completion.map fun c => roundPrice (usdOfRatio model * c)
  outputCny := completion.map fun c => roundPrice (cnyOfRatio model * c)

/-- Only a flat tariff that is billed by a model ratio has prices per token. -/
def ofTariff? (t : Tariff) : Option PriceSheet :=
  match t.plan with
  | .flat { price := none, modelRatio := some m, completionRatio := c } => some (ofRatios m c)
  | _ => none

def shape : Shape PriceSheet where
  title := "struct PriceView"
  blank := ⟨0, none, 0, 0, none, none⟩
  fields := [
    .required "model_ratio" Reader.real fun x p => { p with modelRatio := x },
    .optional "completion_ratio" (Reader.optional Reader.real) fun x p =>
      { p with completionRatio := x },
    .required "input_price_usd" Reader.real fun x p => { p with inputUsd := x },
    .required "input_price_cny" Reader.real fun x p => { p with inputCny := x },
    .optional "output_price_usd" (Reader.optional Reader.real) fun x p => { p with outputUsd := x },
    .optional "output_price_cny" (Reader.optional Reader.real) fun x p => { p with outputCny := x }]

def reader : Reader PriceSheet := shape.reader

/-- The sheet as an object; `real` says how its numbers are written. -/
def toValueWith (real : Float → Value) (p : PriceSheet) : Value :=
  let optional (x : Option Float) : Value := (x.map real).getD .null
  .ofMembers [
    ("model_ratio", real p.modelRatio),
    ("completion_ratio", optional p.completionRatio),
    ("input_price_usd", real p.inputUsd),
    ("input_price_cny", real p.inputCny),
    ("output_price_usd", optional p.outputUsd),
    ("output_price_cny", optional p.outputCny)]

def toValue (p : PriceSheet) : Value := p.toValueWith .real

end PriceSheet

end TokenTariff
