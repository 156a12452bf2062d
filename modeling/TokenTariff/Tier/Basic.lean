/-!
# Tiers

A tier gives the ratios for the calls whose input and output token counts lie in its spans. Of the
tiers that cover a call the one of highest priority counts, and of several the earliest.
-/

namespace TokenTariff

/-- A range of token counts. A missing bound does not limit it; a bound belongs to the range unless
it is open. -/
structure Span where
  lower : Option UInt64 := none
  upper : Option UInt64 := none
  openBelow : Bool := true
  openAbove : Bool := false
deriving DecidableEq

namespace Span

def aboveLower (s : Span) (n : UInt64) : Bool :=
  match s.lower with
  | none => true
  | some b => if s.openBelow then b < n else b ≤ n

def belowUpper (s : Span) (n : UInt64) : Bool :=
  match s.upper with
  | none => true
  | some b => if s.openAbove then n < b else n ≤ b

def contains (s : Span) (n : UInt64) : Bool := s.aboveLower n && s.belowUpper n

def isInverted (s : Span) : Bool :=
  match s.lower, s.upper with
  | some a, some b => b < a
  | _, _ => false

end Span

structure Tier where
  input : Span := {}
  output : Span := {}
  modelRatio : Float
  completionRatio : Float
  priority : Int32 := 0
deriving DecidableEq

namespace Tier

def covers (t : Tier) (input output : UInt64) : Bool :=
  t.input.contains input && t.output.contains output

/-- The tier kept when `next` comes after `best`: only a higher priority displaces. -/
def better (best : Option (Nat × Tier)) (next : Nat × Tier) : Option (Nat × Tier) :=
  match best with
  | none => some next
  | some b => if next.2.priority ≤ b.2.priority then some b else some next

def covering (tiers : List Tier) (input output : UInt64) : List (Nat × Tier) :=
  (tiers.zipIdx.map fun p => (p.2, p.1)).filter fun p => p.2.covers input output

def pick? (tiers : List Tier) (input output : UInt64) : Option (Nat × Tier) :=
  (covering tiers input output).foldl better none

end Tier

end TokenTariff
