/-!
# Decimal numerals

What a decimal numeral says, and the float it is read as. The digits that fit in 64 bits are taken
together and scaled by a power of ten. Both steps round, so the float that is read need not be the
one nearest to the numeral.
-/

namespace TokenTariff

/-- The number `± mantissa * 10 ^ (exponent - places)`; `whole` tells that neither a point nor an
exponent was written. -/
structure Numeral where
  negative : Bool := false
  mantissa : Nat := 0
  places : Nat := 0
  exponent : Int := 0
  whole : Bool := true
deriving DecidableEq, Repr

def powerOfTen (k : Nat) : Float := Float.ofScientific 1 false k

/-- The float divided by `10 ^ 308` so many times, or until nothing is left of it. -/
def shrink (x : Float) : Nat → Float
  | 0 => x
  | k + 1 => if x == 0 then x else shrink (x / powerOfTen 308) k

/-- The float times `10 ^ e`, unless that is too large. No float is a power of ten beyond the 308th,
so smaller numbers are reached in several divisions. -/
def scale? (x : Float) (e : Int) : Option Float :=
  if e < 0 then
    let k := (-e).toNat
    let steps := (k - 1) / 308
    some (shrink x steps / powerOfTen (k - 308 * steps))
  else if x == 0 then some x
  else if 308 < e then none
  else
    let y := x * powerOfTen e.toNat
    if y.isInf then none else some y

namespace Numeral

def power (n : Numeral) : Int := n.exponent - n.places

/-- Puts the digits of `m` below the place `p` behind those of `s`, up to the first that no longer
fits in 64 bits. The second part says how many are left out. -/
def takeDigits (s m : Nat) : Nat → Nat × Nat
  | 0 => (s, 0)
  | p + 1 =>
    let next := s * 10 + m / Nat.pow 10 p % 10
    if next < UInt64.size then takeDigits next m p else (s, p + 1)

/-- The digits that are kept, and the power of ten they stand for. After digits before the point
have been left out, those behind it are tried again. -/
def kept (n : Numeral) : Nat × Int :=
  let whole := n.mantissa / Nat.pow 10 n.places
  let (s, left) := takeDigits 0 whole (whole.log2 + 1)
  let (s, left') := takeDigits s n.mantissa n.places
  (s, n.power + left + left')

/-- The float that is read. A numeral that gets too large has none; one too small is zero. -/
def toFloat? (n : Numeral) : Option Float :=
  let (s, e) := n.kept
  (scale? s.toUInt64.toFloat e).map fun x => if n.negative then -x else x

end Numeral

end TokenTariff
