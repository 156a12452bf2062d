import TokenTariff.Net.Punycode
import TokenTariff.Net.Domain.Mapping
import TokenTariff.Text.Composed
import TokenTariff.Text.Direction
import TokenTariff.Text.Joining

/-!
# Labels of domain names

The labels of a domain name stand between its full stops. A label in Punycode stands for another
one, which has to be in its plain form already. Some rules hold for every label: it starts with no
mark, and a joiner stands only where it shows. If any label has letters that are read from right to
left, then each label has to be read in one direction.
-/

namespace TokenTariff.Net.Domain

def codeMark : List Char := ['x', 'n', '-', '-']

def isForeign (c : Char) : Bool := 0x80 ≤ c.toNat

/-- How many characters a label beyond ASCII may have. -/
def labelLimit : Nat := 1000

/-- How many characters a label in Punycode may have behind its mark. -/
def codeLimit : Nat := 2000

/-- What a text in Punycode stands for: a plain label that cannot be written without it. -/
def readCode? (code : List Char) : Option (List Char) :=
  if code.getLast?.all (· == '-') || codeLimit < code.length || code.any isForeign then none
  else
    match Punycode.decode? code with
    | none => none
    | some label =>
      if label.all (fun c => plain? c == some [c]) && composed label == label then some label
      else none

def readLabel? (label : List Char) : Option (List Char) :=
  if codeMark.isPrefixOf label then readCode? (label.drop codeMark.length) else some label

def labelToAscii (label : List Char) : List Char :=
  if label.any isForeign then codeMark ++ Punycode.encode label else label

/-- The first character that is no mark between joined letters. -/
def firstLetter? (cs : List Char) : Option Char := (cs.dropWhile isTransparent).head?

/-- A joiner shows after a letter without its vowel; one that parts letters shows also between
letters that would be joined. The text before it comes with its last character first. -/
def joinerShows (before : List Char) (c : Char) (after : List Char) : Bool :=
  before.head?.any isVowelKiller ||
    (c == '\u200C' && (firstLetter? before).any CharSet.joinsNext.contains &&
      (firstLetter? after).any CharSet.joinsPrevious.contains)

/-- Every joiner of a text shows. The text `before` has been read, its last character first. -/
def joinersShow (before : List Char) : List Char → Bool
  | [] => true
  | c :: rest => (!isJoiner c || joinerShows before c rest) && joinersShow (c :: before) rest

def isSound (label : List Char) : Bool :=
  !label.head?.any isMark && joinersShow [] label &&
    !(label.any isForeign && labelLimit < label.length)

/-- The label has letters or digits of a script that is read from right to left. -/
def isRightward (label : List Char) : Bool :=
  label.any fun c => 0x590 ≤ c.toNat &&
    (Direction.ofChar c == .right || Direction.ofChar c == .arabic)

/-- The directions allow a label to be read in one way, from the side on which it starts. -/
def isDirected (ds : List Direction) : Bool :=
  let last := (ds.reverse.dropWhile (· == .mark)).head?
  match ds.head? with
  | none => true
  | some .left =>
    (last == some .left || last == some .european) &&
      ds.all fun d => d != .right && d != .arabic
  | some .right =>
    last != some .neutral && ds.all (· != .left) && !(ds.contains .european && ds.contains .arabic)
  | some _ => false

end TokenTariff.Net.Domain
