import TokenTariff.Json.Reader
import TokenTariff.Tier.Basic

/-!
# Tiers in JSON

A bound of zero stands for no bound, in both directions. Only the two ratios have to be given.
-/

namespace TokenTariff

open Json

/-- A bound; zero and `null` stand for none. -/
def boundReader : Reader (Option UInt64) :=
  (Reader.optional Reader.count).map fun b => b.filter (· != 0)

namespace Tier

def shape : Shape Tier where
  title := "struct SegmentRule"
  blank := { modelRatio := 0, completionRatio := 0 }
  fields := [
    .defaulted "input_min" boundReader fun b t => { t with input.lower := b },
    .defaulted "input_max" boundReader fun b t => { t with input.upper := b },
    .defaulted "input_min_exclusive" Reader.bool fun b t => { t with input.openBelow := b },
    .defaulted "input_max_exclusive" Reader.bool fun b t => { t with input.openAbove := b },
    .defaulted "output_min" boundReader fun b t => { t with output.lower := b },
    .defaulted "output_max" boundReader fun b t => { t with output.upper := b },
    .defaulted "output_min_exclusive" Reader.bool fun b t => { t with output.openBelow := b },
    .defaulted "output_max_exclusive" Reader.bool fun b t => { t with output.openAbove := b },
    .required "model_ratio" Reader.real fun x t => { t with modelRatio := x },
    .required "completion_ratio" Reader.real fun x t => { t with completionRatio := x },
    .defaulted "priority" Reader.small fun p t => { t with priority := p }]

def reader : Reader Tier := shape.reader

def boundValue (b : Option UInt64) : Value := .int (b.getD 0).toNat

def toValue (t : Tier) : Value :=
  .ofMembers [
    ("input_min", boundValue t.input.lower),
    ("input_max", boundValue t.input.upper),
    ("input_min_exclusive", .bool t.input.openBelow),
    ("input_max_exclusive", .bool t.input.openAbove),
    ("output_min", boundValue t.output.lower),
    ("output_max", boundValue t.output.upper),
    ("output_min_exclusive", .bool t.output.openBelow),
    ("output_max_exclusive", .bool t.output.openAbove),
    ("model_ratio", .real t.modelRatio),
    ("completion_ratio", .real t.completionRatio),
    ("priority", .int t.priority.toInt)]

end Tier

end TokenTariff
