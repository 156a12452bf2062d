import TokenTariff.Text.Cased
import TokenTariff.Text.Pieces

/-!
# Lower case

Each capital becomes its small letter. Two characters are special: `İ` becomes an `i` with its dot
kept as a mark, and a sigma takes its final form at the end of a word, that is after a cased letter
and before none, characters that case ignores left out of account.

A search word is looked for anywhere in a text, without regard to case. A blank word finds
everything.
-/

namespace TokenTariff

/-- The first character that case does not ignore is a cased letter. -/
def meetsCased (cs : List Char) : Bool :=
  match cs.dropWhile CharSet.caseIgnored.contains with
  | [] => false
  | c :: _ => CharSet.cased.contains c

/-- The small letters of one character that is no sigma. -/
def lowerChar (c : Char) : List Char :=
  if c.toNat < 0x80 then [c.toLower]
  else if c = 'İ' then ['i', '\u0307']
  else [(capitals.findSome? (·.image? c)).getD c]

/-- Lower case of a text of which `before` has been read already, its last character first. -/
def lowerChars (before : List Char) : List Char → List Char
  | [] => []
  | c :: rest =>
    let small :=
      if c = 'Σ' then [if meetsCased before && !meetsCased rest then 'ς' else 'σ'] else lowerChar c
    small ++ lowerChars (c :: before) rest

def lowerText (s : String) : String := String.ofList (lowerChars [] s.toList)

/-! ### Searching -/

def occurs (word : List Char) : List Char → Bool
  | [] => word.isEmpty
  | c :: rest => word.isPrefixOf (c :: rest) || occurs word rest

def finds (word text : String) : Bool :=
  isBlank word || occurs (lowerText (trimBlanks word)).toList (lowerText text).toList

end TokenTariff
