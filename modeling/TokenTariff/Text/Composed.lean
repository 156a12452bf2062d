import TokenTariff.Text.Composite
import TokenTariff.Text.Mark

/-!
# The composed form of a text

A letter with its marks can be written as one character or as several, and marks in several orders.
The composed form is one of these spellings: the text is taken apart, its marks are put in order,
and what can be composed again is composed.
-/

namespace TokenTariff

/-- The parts of a character, taken apart at most `depth` times. -/
def takeApart : Nat → Char → List Char
  | 0, c => [c]
  | depth + 1, c =>
    match Composite.split? c with
    | some (a, b) => takeApart depth a ++ takeApart depth b
    | none => [c]

/-- Puts a character before an ordered text, behind the marks there that have a lower class. -/
def placeMark (c : Char) : List Char → List Char
  | [] => [c]
  | d :: rest =>
    if 0 < markClass d ∧ markClass d < markClass c then d :: placeMark c rest else c :: d :: rest

def orderMarks (cs : List Char) : List Char := cs.foldr placeMark []

/-- Composes what follows the character `c`. The marks `kept` stand between the two, the last one
first; what follows cannot pass a mark of its own class or a higher one. -/
def composeFrom (c : Char) (kept : List Char) : List Char → List Char
  | [] => c :: kept.reverse
  | d :: rest =>
    let free := match kept with
      | [] => true
      | m :: _ => markClass m < markClass d
    match if free then Composite.join? c d else none with
    | some whole => composeFrom whole kept rest
    | none =>
      if markClass d = 0 then c :: kept.reverse ++ composeFrom d [] rest
      else composeFrom c (d :: kept) rest

/-- The composed form of a text. A text of letters without marks is composed already. -/
def composed (cs : List Char) : List Char :=
  if cs.all (·.toNat < 0xC0) then cs
  else
    match orderMarks (cs.flatMap (takeApart 4)) with
    | [] => []
    | c :: rest => composeFrom c [] rest

end TokenTariff
