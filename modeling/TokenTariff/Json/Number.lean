import TokenTariff.Decimal.Layout
import TokenTariff.Decimal.Numeral

/-!
# JSON numbers

A number written without point and exponent is an integer as long as it fits in 64 bits, signed or
unsigned; every other number is a real. Minus zero is a real, since no integer is it.
-/

namespace TokenTariff.Json

inductive Number where
  | int (i : Int)
  | real (x : Float)

namespace Number

def int? (n : Numeral) : Option Int :=
  if !n.whole then none
  else if n.negative then
    (if n.mantissa = 0 ∨ UInt64.size < 2 * n.mantissa then none else some (-(n.mantissa : Int)))
  else if n.mantissa < UInt64.size then some n.mantissa else none

/-- The number that a numeral denotes; a real beyond every float has none. -/
def ofNumeral? (n : Numeral) : Option Number :=
  match int? n with
  | some i => some (.int i)
  | none => n.toFloat?.map .real

def toFloat : Number → Float
  | .int i => Float.ofInt i
  | .real x => x

end Number

end TokenTariff.Json
