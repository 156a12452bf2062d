/-!
# Punycode

A name with characters beyond ASCII is written in ASCII: first its plain characters, then the others
as differences in ascending order of code points. Differences are written in digits of base 36 whose
weights adapt to the size of those before.
-/

namespace TokenTariff.Net.Punycode

def firstPoint : Nat := 128

def firstBias : Nat := 72

def digitChar (d : Nat) : Char := Char.ofNat (if d < 26 then 'a'.toNat + d else '0'.toNat + (d - 26))

def digitValue? (c : Char) : Option Nat :=
  if 'a' ≤ c ∧ c ≤ 'z' then some (c.toNat - 'a'.toNat)
  else if 'A' ≤ c ∧ c ≤ 'Z' then some (c.toNat - 'A'.toNat)
  else if '0' ≤ c ∧ c ≤ '9' then some (c.toNat - '0'.toNat + 26)
  else none

/-- The threshold of the digit at `k`, between 1 and 26. -/
def threshold (k bias : Nat) : Nat := min 26 (max 1 (k - bias))

/-- Divides by 35 until the difference is small; the bias grows by 36 each time. -/
def shrink (delta : Nat) : Nat × Nat :=
  if 455 < delta then
    let (rest, bias) := shrink (delta / 35)
    (rest, bias + 36)
  else (delta, 0)
termination_by delta

/-- The bias after a difference, when `points` characters are known. -/
def adapt (delta points : Nat) (first : Bool) : Nat :=
  let delta := if first then delta / 700 else delta / 2
  let (rest, bias) := shrink (delta + delta / points)
  bias + 36 * rest / (rest + 38)

def writeDelta (bias k q : Nat) : List Char :=
  let t := threshold k bias
  if h : q < t then [digitChar q]
  else digitChar (t + (q - t) % (36 - t)) :: writeDelta bias (k + 36) ((q - t) / (36 - t))
termination_by q
decreasing_by
  have hk : 1 ≤ threshold k bias := by unfold threshold; omega
  have hd := Nat.div_le_self (q - threshold k bias) (36 - threshold k bias)
  have _ht : ¬q < threshold k bias := h
  show (q - threshold k bias) / (36 - threshold k bias) < q
  omega

structure Writer where
  out : List Char
  delta : Nat
  bias : Nat
  /-- How many characters have been written. -/
  known : Nat

/-- Passes a character while those of code point `m` are written. -/
def Writer.pass (plain m : Nat) (w : Writer) (c : Char) : Writer :=
  if c.toNat < m then { w with delta := w.delta + 1 }
  else if c.toNat = m then
    { out := w.out ++ writeDelta w.bias 36 w.delta
      delta := 0
      bias := adapt w.delta (w.known + 1) (w.known == plain)
      known := w.known + 1 }
  else w

/-- Writes the characters of each code point, `n` being the last one done. -/
def writePoints (plain : Nat) (cs : List Char) : List Nat → Nat → Writer → Writer
  | [], _, w => w
  | m :: rest, n, w =>
    let w := cs.foldl (Writer.pass plain m) { w with delta := w.delta + (m - n) * (w.known + 1) }
    writePoints plain cs rest (m + 1) { w with delta := w.delta + 1 }

/-- The ascending list with one more point, unless it has it already. -/
def enter (m : Nat) : List Nat → List Nat
  | [] => [m]
  | n :: rest =>
    if m < n then m :: n :: rest else if m = n then n :: rest else n :: enter m rest

def encode (cs : List Char) : List Char :=
  let plain := cs.filter (·.toNat < firstPoint)
  let points := (cs.filter (firstPoint ≤ ·.toNat)).foldl (fun ps c => enter c.toNat ps) []
  let start := if plain.isEmpty then [] else plain ++ ['-']
  (writePoints plain.length cs points firstPoint ⟨start, 0, firstBias, plain.length⟩).out

/-- A name that is being read, and the difference that is being read. -/
structure Reader where
  chars : List Char
  point : Nat := firstPoint
  position : Nat := 0
  bias : Nat := firstBias
  first : Bool := true
  delta : Nat := 0
  weight : Nat := 1
  k : Nat := 36

/-- The difference is complete: a character takes its place. -/
def Reader.place (r : Reader) : Option Reader :=
  let points := r.chars.length + 1
  let total := r.position + r.delta
  let point := r.point + total / points
  let position := total % points
  if h : point.isValidChar then
    some
      { chars := r.chars.take position ++ Char.ofNatAux point h :: r.chars.drop position
        point := point
        position := position + 1
        bias := adapt r.delta points r.first
        first := false }
  else none

def Reader.step (r : Reader) (c : Char) : Option Reader := do
  let digit ← digitValue? c
  let t := threshold r.k r.bias
  let r := { r with delta := r.delta + digit * r.weight }
  if digit < t then r.place
  else if UInt32.size ≤ r.delta then none
  else return { r with weight := r.weight * (36 - t), k := r.k + 36 }

/-- The plain characters before the last hyphen, and what follows it. A hyphen with nothing before
it separates nothing. -/
def splitPlain (cs : List Char) : List Char × List Char :=
  let digits := (cs.reverse.takeWhile (· != '-')).reverse
  let plain := cs.take (cs.length - digits.length - 1)
  if plain.isEmpty then ([], cs) else (plain, digits)

def decode? (cs : List Char) : Option (List Char) := do
  let (plain, digits) := splitPlain cs
  let r ← digits.foldlM Reader.step { chars := plain }
  if r.k = 36 then some r.chars else none

end TokenTariff.Net.Punycode
