import TokenTariff.Error

/-!
# Prices and ratios

Ratios are what is stored; prices per million tokens are views of them. A ratio of one stands for
two dollars, and yuan are converted through dollars. Prices and ratios that may be used are finite
and not negative.
-/

namespace TokenTariff

def isBadAmount (x : Float) : Bool := !x.isFinite || x < 0

def usdPerRatio : Float := 2

def cnyPerUsd : Float := 7.3

def ratioOfUsd (price : Float) : Float := price / usdPerRatio

def usdOfRatio (ratio : Float) : Float := ratio * usdPerRatio

def ratioOfCny (price : Float) : Float := ratioOfUsd (price / cnyPerUsd)

def cnyOfRatio (ratio : Float) : Float := usdOfRatio ratio * cnyPerUsd

/-- The ratio of output to input price, both in one currency. -/
def completionRatio (input output : Float) : Except PricingError Float :=
  if input == 0 then .error (.badArgument .zeroInputPrice) else .ok (output / input)

/-- Rounded to six places, a half away from zero. -/
def roundPrice (x : Float) : Float := (x * 1000000).round / 1000000

end TokenTariff
