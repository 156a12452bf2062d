import TokenTariff.Price.Conversion
import TokenTariff.Price.Sheet

/-!
# Quotes

A quote gives the price of a model as an editor enters it: as ratios, in dollars or in yuan. Its
normal form is a pair of ratios.
-/

namespace TokenTariff

open Json

inductive Quote where
  | ratio (model : Float) (completion : Option Float)
  | usd (input : Float) (output : Option Float)
  | cny (input : Float) (output : Option Float)

def checkAmount (field : String) (x : Float) : Except PricingError Unit :=
  if isBadAmount x then .error (.badArgument (.notNonNegative field x)) else .ok ()

/-- Both values of a pair; the second may be left out. -/
def checkAmounts (first second : String) (x : Float) (y : Option Float) :
    Except PricingError Unit := do
  checkAmount first x
  match y with
  | none => .ok ()
  | some y => checkAmount second y

def optionally (f : Float → Except PricingError Float) :
    Option Float → Except PricingError (Option Float)
  | none => .ok none
  | some x => (f x).map some

namespace Quote

def normalize : Quote → Except PricingError (Float × Option Float)
  | ratio model completion => do
    checkAmounts "model_ratio" "completion_ratio" model completion
    .ok (model, completion)
  | usd input output => do
    checkAmounts "input_price" "output_price" input output
    let completion ← optionally (completionRatio input) output
    .ok (ratioOfUsd input, completion)
  | cny input output => do
    checkAmounts "input_price" "output_price" input output
    let completion ← optionally
      (fun output => completionRatio (input / cnyPerUsd) (output / cnyPerUsd)) output
    .ok (ratioOfCny input, completion)

def sheet (q : Quote) : Except PricingError PriceSheet :=
  q.normalize.map fun r => PriceSheet.ofRatios r.1 r.2

def pairShape (title first second : String) : Shape (Float × Option Float) where
  title := title
  blank := (0, none)
  fields := [
    .required first Reader.real fun x r => (x, r.2),
    .optional second (Reader.optional Reader.real) fun x r => (r.1, x)]

def tagged : Tagged Quote where
  title := "internally tagged enum PriceInput"
  tag := "unit"
  cases := [
    ("ratio", (pairShape "struct variant PriceInput::Ratio" "model_ratio" "completion_ratio").reader.map
      fun r => .ratio r.1 r.2),
    ("usd", (pairShape "struct variant PriceInput::Usd" "input_price" "output_price").reader.map
      fun r => .usd r.1 r.2),
    ("cny", (pairShape "struct variant PriceInput::Cny" "input_price" "output_price").reader.map
      fun r => .cny r.1 r.2)]

def reader : Reader Quote := tagged.reader

def toValue : Quote → Value
  | ratio m c =>
    .ofMembers [("unit", .text "ratio"), ("model_ratio", .real m), ("completion_ratio", realValue c)]
  | usd i o => .ofMembers [("unit", .text "usd"), ("input_price", .real i), ("output_price", realValue o)]
  | cny i o => .ofMembers [("unit", .text "cny"), ("input_price", .real i), ("output_price", realValue o)]

end Quote

end TokenTariff
