import TokenTariff.Net.Domain.Label

/-!
# Domain names

A domain name is brought to ASCII before it is used. Its characters are made plain and composed;
then each label with a character beyond ASCII is written in Punycode behind a mark.
-/

namespace TokenTariff.Net.Domain

def isForbidden (c : Char) : Bool :=
  c.toNat ≤ 0x20 || c.toNat == 0x7F || "%#/:<>?@[\\]^|".toList.contains c

/-- The plain form of a name; none if a character may not stand in it. -/
def plainName? (cs : List Char) : Option (List Char) := do
  let images ← cs.mapM plain?
  let name := composed images.flatten
  if name.any isForbidden then none else some name

def toAscii? (cs : List Char) : Option (List Char) := do
  let labels := splitAll '.' (← plainName? cs)
  let meant ← labels.mapM readLabel?
  let directed := meant.all fun label => isDirected (label.map Direction.ofChar)
  if meant.all isSound && (!meant.any isRightward || directed) then
    some (joinWith '.' (labels.map labelToAscii))
  else none

end TokenTariff.Net.Domain
