import TokenTariff.Price.Sheet
import TokenTariff.Registry.Basic
import TokenTariff.Tariff.Summary

/-!
# What requests ask and answers tell

The data of requests and answers that are no data of the domain by themselves.
-/

namespace TokenTariff.Api

open Json

def countValue (n : UInt64) : Value := .int n.toNat

structure MatchQuestion where
  tiers : List Tier
  input : UInt64
  output : UInt64

namespace MatchQuestion

def shape : Shape MatchQuestion where
  title := "struct MatchRuleRequest"
  blank := ⟨[], 0, 0⟩
  fields := [
    .required "rules" (Reader.items Tier.reader) fun ts q => { q with tiers := ts },
    .required "input_tokens" Reader.count fun n q => { q with input := n },
    .required "output_tokens" Reader.count fun n q => { q with output := n }]

def reader : Reader MatchQuestion := shape.reader

def toValue (q : MatchQuestion) : Value :=
  .ofMembers [
    ("rules", .list (q.tiers.map Tier.toValue)), ("input_tokens", countValue q.input),
    ("output_tokens", countValue q.output)]

end MatchQuestion

structure MatchAnswer where
  position : Nat
  tier : Tier
  summary : String

namespace MatchAnswer

def shape : Shape MatchAnswer where
  title := "struct MatchRuleResponse"
  blank := ⟨0, { modelRatio := 0, completionRatio := 0 }, ""⟩
  fields := [
    .required "index" Reader.position fun k a => { a with position := k },
    .required "rule" Tier.reader fun t a => { a with tier := t },
    .required "summary" Reader.text fun s a => { a with summary := s }]

def reader : Reader MatchAnswer := shape.reader

def toValue (a : MatchAnswer) : Value :=
  .ofMembers [
    ("index", .int a.position), ("rule", a.tier.toValue), ("summary", .text a.summary)]

end MatchAnswer

def MatchQuestion.answer (q : MatchQuestion) : Except PricingError MatchAnswer :=
  match Tier.pick? q.tiers q.input q.output with
  | some (k, t) => .ok ⟨k, t, t.summary⟩
  | none => .error (.noMatchingTier q.input q.output)

structure ResolveQuestion where
  model : String
  input : UInt64
  output : UInt64

namespace ResolveQuestion

def shape : Shape ResolveQuestion where
  title := "struct ResolveRequest"
  blank := ⟨"", 0, 0⟩
  fields := [
    .required "model_name" Reader.text fun s q => { q with model := s },
    .required "input_tokens" Reader.count fun n q => { q with input := n },
    .required "output_tokens" Reader.count fun n q => { q with output := n }]

def reader : Reader ResolveQuestion := shape.reader

def toValue (q : ResolveQuestion) : Value :=
  .ofMembers [
    ("model_name", .text q.model), ("input_tokens", countValue q.input),
    ("output_tokens", countValue q.output)]

end ResolveQuestion

def detailValue (t : Tariff) : Value :=
  .ofMembers [
    ("config", t.toValue), ("summary", .list (t.summary.map .text)),
    ("price", ((PriceSheet.ofTariff? t).map PriceSheet.toValue).getD .null)]

def statusValue (s : Registry.Status) : Value :=
  .ofMembers [
    ("config_count", .int s.count), ("segmented_count", .int s.tiered),
    ("fixed_count", .int s.flat), ("refreshed_at", (s.loadedAt.map .text).getD .null)]

end TokenTariff.Api
