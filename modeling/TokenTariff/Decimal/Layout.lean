import TokenTariff.Decimal.Shortest

/-!
# How numbers are written

Two layouts of the same digits: the one of JSON numbers, which switches to an exponent for very
large and very small values and always shows that a number is a real, and the plain one of
messages, which never uses an exponent.
-/

namespace TokenTariff

structure Layout where
  /-- Least exponent of the leading digit that is written positionally, if there is a least one. -/
  plainFrom : Option Int
  /-- First exponent of the leading digit that is no longer written positionally. -/
  plainBelow : Option Int
  /-- What follows the digits of a whole number. -/
  wholeMark : String
  tie : Tie

/-- JSON: `0.00001`, `4.0`, `1e+16`, `1e-6`. -/
def Layout.json : Layout where
  plainFrom := some (-5)
  plainBelow := some 16
  wholeMark := ".0"
  tie := .even

/-- Messages: `0.0000001`, `4`, `10000000000000000`. -/
def Layout.plain : Layout where
  plainFrom := none
  plainBelow := none
  wholeMark := ""
  tie := .up

namespace Layout

def isPlain (l : Layout) (e : Int) : Bool :=
  l.plainFrom.all (· ≤ e) && l.plainBelow.all (e < ·)

def positional (l : Layout) (digits : List Char) (exponent : Int) : List Char :=
  let point := (digits.length : Int) + exponent
  if point ≤ 0 then ['0', '.'] ++ List.replicate (-point).toNat '0' ++ digits
  else if 0 ≤ exponent then digits ++ List.replicate exponent.toNat '0' ++ l.wholeMark.toList
  else digits.take point.toNat ++ '.' :: digits.drop point.toNat

def scientific (digits : List Char) (lead : Int) : List Char :=
  let sign := if lead < 0 then '-' else '+'
  let power := 'e' :: sign :: Nat.toDigits 10 lead.natAbs
  match digits with
  | [] => power
  | [d] => d :: power
  | d :: rest => d :: '.' :: rest ++ power

def decimal (l : Layout) (d : Decimal) : List Char :=
  let digits := Nat.toDigits 10 d.digits
  let lead := (digits.length : Int) + d.exponent - 1
  if l.isPlain lead then l.positional digits d.exponent else scientific digits lead

/-- The sign bit of a float, which `-0.0` has too. -/
def isSigned (x : Float) : Bool := x.toBits >>> 63 == 1

def magnitude (l : Layout) (x : Float) : List Char :=
  let b := Binary.ofFloat x
  if b.mantissa = 0 then '0' :: l.wholeMark.toList else l.decimal (.shortest l.tie b)

/-- The text of a float; the values that are no numbers have names. -/
def write (l : Layout) (x : Float) : String :=
  if x.isNaN then "NaN"
  else if x.isInf then (if x < 0 then "-inf" else "inf")
  else String.ofList (if isSigned x then '-' :: l.magnitude x else l.magnitude x)

end Layout

end TokenTariff
