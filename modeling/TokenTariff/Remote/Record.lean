import TokenTariff.Tariff.Wire

/-!
# Records of tiered tariffs

Tiered tariffs are kept in the remote store as records. A record may be without tiers; then it is no
tariff.
-/

namespace TokenTariff

open Json

structure TierRecord where
  model : String
  tiers : List Tier := []
  enabled : Bool := false

namespace TierRecord

def shape : Shape TierRecord where
  title := "struct SegmentedRatioRecord"
  blank := { model := "" }
  fields := [
    .required "model_name" Reader.text fun s r => { r with model := s },
    .defaulted "rules" (Reader.items Tier.reader) fun ts r => { r with tiers := ts },
    .defaulted "enabled" Reader.bool fun b r => { r with enabled := b }]

def reader : Reader TierRecord := shape.reader

def toValue (r : TierRecord) : Value :=
  .ofMembers [
    ("model_name", .text r.model), ("rules", .list (r.tiers.map Tier.toValue)),
    ("enabled", .bool r.enabled)]

def toTariff (r : TierRecord) : Except Malformed Tariff := Tariff.tiered r.model r.tiers r.enabled

/-- A flat tariff has no record. -/
def ofTariff? (t : Tariff) : Option TierRecord :=
  match t.plan with
  | .tiered tiers => some ⟨t.model, tiers, t.enabled⟩
  | .flat _ => none

end TierRecord

end TokenTariff
