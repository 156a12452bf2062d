import TokenTariff.Decimal.Layout
import TokenTariff.Tier.Basic

/-!
# Tiers in words

A short text for a tier. Bounds from a thousand on are rounded to thousands, a half upwards, and
whether a bound is open is not shown: a lower bound is written as open, an upper one as closed.
-/

namespace TokenTariff

def countText (n : UInt64) : String :=
  if 1000 ≤ n then s!"{(n.toFloat / 1000).round.toUInt64}K" else toString n

def rangeText (lower upper : Option UInt64) : String :=
  match lower, upper with
  | none, none => "unbounded"
  | none, some b => s!"≤ {countText b}"
  | some a, none => s!"> {countText a}"
  | some a, some b => s!"{countText a} < x ≤ {countText b}"

def Span.text (s : Span) : String := rangeText s.lower s.upper

def plainText (x : Float) : String := Layout.plain.write x

def Tier.summary (t : Tier) : String :=
  s!"input: {t.input.text} | output: {t.output.text} | " ++
    s!"model_ratio: {plainText t.modelRatio} | completion_ratio: {plainText t.completionRatio}"

end TokenTariff
