/-!
# Media types

The media type that a message declares for its body: two names with a slash between them, the second
perhaps with a suffix behind a plus sign, and parameters behind semicolons. Case does not matter.
-/

namespace TokenTariff.Web

structure MediaType where
  type : List Char
  subtype : List Char
  suffix : Option (List Char) := none

def isTokenChar (c : Char) : Bool :=
  c.isAlphanum || "!#$%&'*+-.^_`|~".toList.contains c

namespace MediaType

inductive Params where
  /-- Blanks, a name or the end may come. -/
  | next
  | name
  /-- After the equals sign. -/
  | value
  | bare
  /-- After the opening quote; a quote that comes at once does not close. -/
  | opened
  | quoted
  /-- After the closing quote. -/
  | closed

namespace Params

def isQuotedChar (c : Char) : Bool := 0x20 ≤ c.toNat && c.toNat != 0x7F

def step : Params → Char → Option Params
  | next, c => if c = ' ' then some next else if isTokenChar c then some name else none
  | name, c => if c = '=' then some value else if isTokenChar c then some name else none
  | value, c => if c = '"' then some opened else if isTokenChar c then some bare else none
  | bare, c => if c = ';' then some next else if isTokenChar c then some bare else none
  | opened, c => if isQuotedChar c then some quoted else none
  | quoted, c => if c = '"' then some closed else if isQuotedChar c then some quoted else none
  | closed, c => if c = ';' then some next else if c = ' ' then some closed else none

/-- The parameters may end here. -/
def isEnd : Params → Bool
  | next | value | bare | closed => true
  | name | opened | quoted => false

/-- The text behind the first semicolon is a list of parameters. -/
def accepts (cs : List Char) : Bool := (cs.foldlM step next).any isEnd

end Params

/-- Splits the suffix off at the last plus sign, unless the name starts with it. -/
def splitSuffix (name : List Char) : List Char × Option (List Char) :=
  let suffix := (name.reverse.takeWhile (· != '+')).reverse
  let front := name.take (name.length - suffix.length - 1)
  if suffix.length < name.length ∧ front ≠ [] then (front, some suffix) else (name, none)

def parse? (cs : List Char) : Option MediaType :=
  let cs := cs.map Char.toLower
  let type := cs.takeWhile isTokenChar
  match type, cs.dropWhile isTokenChar with
  | _ :: _, '/' :: rest =>
    let name := rest.takeWhile isTokenChar
    let (subtype, suffix) := splitSuffix name
    match rest.dropWhile isTokenChar with
    | [] => some ⟨type, subtype, suffix⟩
    | ';' :: params =>
      if !name.isEmpty && Params.accepts params then some ⟨type, subtype, suffix⟩ else none
    | _ => none
  | _, _ => none

def isJson (m : MediaType) : Bool :=
  m.type == "application".toList && (m.subtype == "json".toList || m.suffix == some "json".toList)

end MediaType

end TokenTariff.Web
