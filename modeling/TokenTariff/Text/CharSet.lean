import TokenTariff.Text.Digits
import TokenTariff.Text.Pieces

/-!
# Sets and images of characters

A set of characters is kept as the ascending list of the code points at which membership changes:
the first is in, the second is the first that is out again, and so on.

Some characters stand for others: a capital for its small letter, a letter with an accent for the
letter and the accent. Where the images of neighbours are a fixed distance away the neighbours form
a run; where they follow no rule the neighbours form a row, which lists the images.
-/

namespace TokenTariff

/-- The code points at which membership changes, in ascending order. -/
structure CharSet where
  bounds : Array Nat

namespace CharSet

/-- The number of bounds that are at most `n`, sought between `lo` and `hi`. -/
def rank (s : CharSet) (n : Nat) : Nat → Nat → Nat → Nat
  | 0, lo, _ => lo
  | fuel + 1, lo, hi =>
    if hi ≤ lo then lo
    else
      let mid := (lo + hi) / 2
      if s.bounds.getD mid 0 ≤ n then rank s n fuel (mid + 1) hi else rank s n fuel lo mid

/-- A character is in the set when an odd number of bounds is at most its code point. -/
def contains (s : CharSet) (c : Char) : Bool :=
  s.rank c.toNat 16 0 s.bounds.size % 2 == 1

end CharSet

/-! ### Images -/

/-- Characters from `first` to `last`, `step` apart, whose images are `shift` away. -/
structure CharRun where
  first : Nat
  last : Nat
  step : Nat
  shift : Int

def CharRun.image? (r : CharRun) (c : Char) : Option Char :=
  let n := c.toNat
  if r.first ≤ n ∧ n ≤ r.last ∧ (n - r.first) % r.step = 0 then
    some (Char.ofNat (n + r.shift).toNat)
  else none

/-- Neighbours from `first` on. Their images stand between blanks, each as its code points in
hexadecimal with full stops between them. -/
structure CharRow where
  first : Nat
  images : String

namespace CharRow

def readPoint (cs : List Char) : Char :=
  Char.ofNat (cs.foldl (fun n c => n * 16 + (hexDigit? c).getD 0) 0)

def toList (r : CharRow) : List (List Char) :=
  (splitAll ' ' r.images.toList).map fun cs => (splitAll '.' cs).map readPoint

def image? (rows : List CharRow) (c : Char) : Option (List Char) := do
  let row ← (rows.filter (·.first ≤ c.toNat)).getLast?
  row.toList[c.toNat - row.first]?

end CharRow

end TokenTariff
