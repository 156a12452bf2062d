/-!
# Shortest decimals

A finite binary number stands for the interval of reals that round to it. Of the decimals in that
interval we choose one with the fewest digits, and of those the one nearest to the number. All
comparisons are between natural numbers; nothing here rounds.
-/

namespace TokenTariff

/-- A finite non-negative binary number `mantissa * 2 ^ exponent`. Below a power of two the gap to
the next number is half the gap above, and `narrow` records that. -/
structure Binary where
  mantissa : Nat
  exponent : Int
  narrow : Bool

namespace Binary

def ofFloat (x : Float) : Binary :=
  let bits := x.toBits
  let field := ((bits >>> 52) &&& 0x7FF).toNat
  let fraction := (bits &&& 0xFFFFFFFFFFFFF).toNat
  if field = 0 then ⟨fraction, -1074, false⟩
  else ⟨(1 <<< 52) + fraction, (field : Int) - 1075, fraction = 0 ∧ 1 < field⟩

end Binary

structure Decimal where
  digits : Nat
  exponent : Int
deriving DecidableEq, Repr

inductive Tie where
  | even
  | up

/-- A power of two; a negative exponent counts as zero. -/
def twos (e : Int) : Nat := Nat.pow 2 e.toNat

/-- A power of ten; a negative exponent counts as zero. -/
def tens (e : Int) : Nat := Nat.pow 10 e.toNat

/-- Order of `a * 10 ^ i` and `b * 2 ^ j`. -/
def compareScaled (a : Nat) (i : Int) (b : Nat) (j : Int) : Ordering :=
  compare (a * tens i * twos (-j)) (b * twos j * tens (-i))

namespace Decimal

/-- The decimal lies among the reals that round to `x`; the ends of that interval belong to it
exactly when the mantissa is even. -/
def roundsTo (d : Decimal) (x : Binary) : Bool :=
  let low := if x.narrow then 4 * x.mantissa - 1 else 4 * x.mantissa - 2
  let high := 4 * x.mantissa + 2
  let closed := x.mantissa % 2 == 0
  let atLow := compareScaled d.digits d.exponent low (x.exponent - 2)
  let atHigh := compareScaled d.digits d.exponent high (x.exponent - 2)
  (atLow == .gt || (closed && atLow == .eq)) && (atHigh == .lt || (closed && atHigh == .eq))

/-- `⌊x / 10 ^ i⌋`. -/
def floorAt (x : Binary) (i : Int) : Nat :=
  x.mantissa * twos x.exponent * tens (-i) / (twos (-x.exponent) * tens i)

/-- The least `k` from `k₀` on, tried `fuel` times, with `x < 10 ^ k`. -/
def scaleFrom (x : Binary) : Nat → Int → Int
  | 0, k => k
  | fuel + 1, k =>
    if compareScaled 1 k x.mantissa x.exponent == .gt then k else scaleFrom x fuel (k + 1)

/-- The least `k` with `x < 10 ^ k`. The binary logarithm gives a start that is one too small at
most, so few tries are needed. -/
def scale (x : Binary) : Int :=
  scaleFrom x 4 (((x.mantissa.log2 : Int) + x.exponent) * 30103 / 100000 - 1)

/-- The neighbour of `x` on the grid `10 ^ i` that rounds to `x`, if one does; of two the nearer. -/
def onGrid? (tie : Tie) (x : Binary) (i : Int) : Option Decimal :=
  let below : Decimal := ⟨floorAt x i, i⟩
  let above : Decimal := ⟨below.digits + 1, i⟩
  if below.roundsTo x then
    if above.roundsTo x then
      match compareScaled (2 * below.digits + 1) i (2 * x.mantissa) x.exponent, tie with
      | .gt, _ => some below
      | .lt, _ => some above
      | .eq, .up => some above
      | .eq, .even => some (if below.digits % 2 = 0 then below else above)
    else some below
  else if above.roundsTo x then some above
  else none

/-- The first grid that offers a decimal, coarsest first. -/
def searchFrom (tie : Tie) (x : Binary) (k : Int) : Nat → Nat → Option Decimal
  | 0, _ => none
  | fuel + 1, n => (onGrid? tie x (k - n)).orElse fun _ => searchFrom tie x k fuel (n + 1)

def exact (x : Binary) : Decimal :=
  ⟨x.mantissa * twos x.exponent * Nat.pow 5 (-x.exponent).toNat, -((-x.exponent).toNat : Int)⟩

/-- Moves trailing zeros of the digits into the exponent, at most `fuel` of them. -/
def stripZeros : Nat → Decimal → Decimal
  | 0, d => d
  | fuel + 1, d =>
    if d.digits % 10 = 0 ∧ d.digits ≠ 0 then stripZeros fuel ⟨d.digits / 10, d.exponent + 1⟩ else d

/-- The shortest decimal that rounds to `x`, without trailing zeros. -/
def shortest (tie : Tie) (x : Binary) : Decimal :=
  stripZeros 400 ((searchFrom tie x (scale x) 17 1).getD (exact x))

end Decimal

end TokenTariff
