import TokenTariff.Net.Host

/-!
# Addresses on the web

An address has a scheme, a host with credentials and a number, a path, a query and a fragment. Its
path is a list of segments or, where there is no hierarchy, a text that nothing can be added to.
Every part is kept as it is written, with the characters escaped that may not stand in it.
-/

namespace TokenTariff.Net

/-- Schemes are of three families, which are read differently. -/
inductive Family where
  /-- A scheme of the web, with the number that is usual for it. -/
  | web (usual : UInt16)
  | file
  | other
deriving DecidableEq

namespace Family

def ofScheme (scheme : String) : Family :=
  match scheme with
  | "http" | "ws" => web 80
  | "https" | "wss" => web 443
  | "ftp" => web 21
  | "file" => file
  | _ => other

/-- A backslash counts as a slash. -/
def isKnown : Family → Bool
  | web _ | file => true
  | other => false

def usual? : Family → Option UInt16
  | web n => some n
  | file | other => none

def isSlash (f : Family) (c : Char) : Bool := c = '/' || (f.isKnown && c = '\\')

end Family

inductive UrlPath where
  | segments (parts : List (List Char))
  | text (cs : List Char)

def UrlPath.write : UrlPath → List Char
  | .segments parts => parts.flatMap ('/' :: ·)
  | .text cs => cs

structure Url where
  scheme : String
  user : List Char := []
  password : List Char := []
  host : Option Host := none
  /-- The number behind the host, unless it is the usual one. -/
  number : Option UInt16 := none
  path : UrlPath
  query : Option (List Char) := none
  fragment : Option (List Char) := none

namespace Url

def visibleBut (excluded : String) (c : Char) : Bool :=
  0x20 < c.toNat && c.toNat < 0x7F && !excluded.toList.contains c

def isFragmentChar : Char → Bool := visibleBut "\"<>`"

def isPathChar : Char → Bool := visibleBut "\"#<>?`\x7b\x7d"

def isUserChar : Char → Bool := visibleBut "\"#<>?`\x7b\x7d/:;=@[\\]^|"

def isQueryChar (f : Family) : Char → Bool :=
  visibleBut (if f.isKnown then "\"#<>'" else "\"#<>")

def isSegmentChar (f : Family) : Char → Bool :=
  visibleBut (if f.isKnown then "\"#<>?`\x7b\x7d/%\\" else "\"#<>?`\x7b\x7d/%")

def isSkipped (c : Char) : Bool := c = '\t' || c = '\n' || c = '\r'

/-- A full stop, which may be escaped. -/
def isDot (cs : List Char) : Bool :=
  cs = ['.'] || cs.map Char.toLower = ['%', '2', 'e']

def isDots (cs : List Char) : Bool :=
  match cs with
  | '.' :: rest => isDot rest
  | '%' :: a :: b :: rest => isDot ['%', a, b] && isDot rest
  | _ => false

def isDrive (cs : List Char) : Bool :=
  match cs with
  | [c, d] => c.isAlpha && (d = ':' || d = '|')
  | _ => false

/-- The path without its last segment; a drive stays. -/
def shorten (f : Family) (parts : List (List Char)) : List (List Char) :=
  match f, parts with
  | .file, [drive] => if isDrive drive then [drive] else []
  | _, parts => parts.dropLast

/-- The first segment of a file path names a drive with a colon. -/
def driveForm (f : Family) (parts : List (List Char)) (part : List Char) : List Char :=
  if f = .file ∧ parts = [] ∧ isDrive part then part.take 1 ++ [':'] else part

/-- The path with one more segment, which `last` tells to be the last one. Two full stops go one
segment back and a single one stays, and both leave an empty segment at the end. -/
def addPart (f : Family) (last : Bool) (parts : List (List Char)) (part : List Char) :
    List (List Char) :=
  let ending := if last then [[]] else []
  if isDots part then shorten f parts ++ ending
  else if isDot part then parts ++ ending
  else parts ++ [driveForm f parts part]

def addParts (f : Family) (parts : List (List Char)) : List (List Char) → List (List Char)
  | [] => parts
  | [part] => addPart f true parts part
  | part :: rest => addParts f (addPart f false parts part) rest

def family (u : Url) : Family := .ofScheme u.scheme

/-- Nothing can be added to the path. -/
def isFlat (u : Url) : Bool :=
  match u.path with
  | .segments _ => false
  | .text _ => true

/-- A path that ends in an empty segment loses it, unless it is the only one. -/
def dropEmptyEnd (parts : List (List Char)) : List (List Char) :=
  if 1 < parts.length ∧ parts.getLast? = some [] then parts.dropLast else parts

/-- The segments in which the only one, if it is empty, is not counted. -/
def withoutRoot (parts : List (List Char)) : List (List Char) :=
  if parts = [[]] then [] else parts

/-- The path with a segment added that stands for a text. A full stop or two are left out. -/
def pushSegment (f : Family) (parts : List (List Char)) (segment : List Char) : List (List Char) :=
  if segment = ['.'] ∨ segment = ['.', '.'] then parts
  else
    addPart f true (withoutRoot parts)
      (Percent.encode (isSegmentChar f) (segment.filter (!isSkipped ·)))

/-- The address of something below this one, found by these segments. -/
def below? (u : Url) (segments : List (List Char)) : Option Url :=
  match u.path with
  | .text _ => none
  | .segments parts =>
    some { u with path := .segments (segments.foldl (pushSegment u.family) (dropEmptyEnd parts)) }

def target (u : Url) : String :=
  let query :=
    match u.query with
    | some q => '?' :: q
    | none => []
  String.ofList (u.path.write ++ query)

end Url

end TokenTariff.Net
