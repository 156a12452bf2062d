import TokenTariff.Net.Url.Basic

/-!
# Reading an address

The fragment and the query are cut off first, and what is left is a host and a path. A scheme of the
web always has a host, a file may have one, and under any other scheme two slashes announce it.
-/

namespace TokenTariff.Net.Url

/-- The text without blanks and control characters at its ends, and without those passed over. -/
def clean (cs : List Char) : List Char :=
  let isEdge (c : Char) : Bool := c.toNat ≤ 0x20
  (((cs.dropWhile isEdge).reverse.dropWhile isEdge).reverse).filter (!isSkipped ·)

def isSchemeChar (c : Char) : Bool := c.isAlphanum || c = '+' || c = '-' || c = '.'

/-- The scheme, in small letters, and what follows its colon. -/
def readScheme? (cs : List Char) : Option (List Char × List Char) :=
  match cs with
  | c :: _ =>
    if c.isAlpha then
      match cs.dropWhile isSchemeChar with
      | ':' :: rest => some ((cs.takeWhile isSchemeChar).map Char.toLower, rest)
      | _ => none
    else none
  | [] => none

/-- The text before the first `c`, and the text after it if there is one. -/
def cutAt (c : Char) (cs : List Char) : List Char × Option (List Char) :=
  match cs.dropWhile (· != c) with
  | [] => (cs, none)
  | _ :: rest => (cs.takeWhile (· != c), some rest)

/-- The text before a colon that stands outside brackets, and the text from it on. -/
def splitHost : Bool → List Char → List Char × List Char
  | _, [] => ([], [])
  | bracketed, c :: rest =>
    if c = ':' ∧ !bracketed then ([], c :: rest)
    else
      let (host, after) := splitHost (c = '[' || (bracketed && c != ']')) rest
      (c :: host, after)

/-- The text before the last at sign, if there is one, and the text after it. -/
def splitCredentials (cs : List Char) : Option (List Char) × List Char :=
  if cs.contains '@' then
    let host := (cs.reverse.takeWhile (· != '@')).reverse
    (some (cs.take (cs.length - host.length - 1)), host)
  else (none, cs)

/-- The number behind a host, and what follows it; an empty number and the usual one are none. -/
def readNumber (f : Family) (cs : List Char) : Except AddressError (Option UInt16 × List Char) :=
  match cs with
  | ':' :: rest =>
    let digits := rest.takeWhile Char.isDigit
    let after := rest.dropWhile Char.isDigit
    if !(after.isEmpty || after.head? = some '\\') || UInt16.size ≤ decimalValue digits then
      .error .badNumber
    else
      let n := UInt16.ofNat (decimalValue digits)
      .ok (if digits.isEmpty || f.usual? = some n then none else some n, after)
  | _ => .ok (none, cs)

structure Authority where
  user : List Char := []
  password : List Char := []
  host : Option Host := none
  number : Option UInt16 := none
  /-- What belongs to the path already. -/
  rest : List Char := []

/-- The host, which must not be empty where a number or credentials belong to it. -/
def readHost (f : Family) (credentials : Bool) (cs after : List Char) :
    Except AddressError (Option Host) :=
  if cs.isEmpty then
    if f.isKnown || !after.isEmpty || credentials then .error .emptyHost else .ok none
  else (if f.isKnown then Host.known cs else Host.opaqueHost cs).map some

/-- Reads host, number and credentials; `more` tells that something follows them. -/
def readAuthority (f : Family) (more : Bool) (cs : List Char) : Except AddressError Authority := do
  let (credentials, place) := splitCredentials cs
  if credentials = some [] ∧ place = [] ∧ more then .error .emptyHost
  else
    let (user, password) := cutAt ':' (credentials.getD [])
    let user := Percent.encode isUserChar user
    let password := Percent.encode isUserChar (password.getD [])
    let (name, after) := splitHost false place
    let host ← readHost f (!user.isEmpty || !password.isEmpty) name after
    let (number, rest) ← readNumber f after
    return { user, password, host, number, rest }

/-- The segments of a text that a slash opens or that is empty. -/
def readSegments (f : Family) (cs : List Char) : List (List Char) :=
  let cs :=
    match cs with
    | c :: rest => if f.isSlash c then rest else cs
    | [] => []
  let pieces := splitAll '/' (cs.map fun c => if f.isSlash c then '/' else c)
  addParts f [] (pieces.map (Percent.encode isPathChar))

/-- A path under a scheme that we know is never without a segment. -/
def readPath (f : Family) (cs : List Char) : List (List Char) :=
  if cs.isEmpty then (if f.isKnown then [[]] else []) else readSegments f cs

/-- Empty segments at the start of a file path are left out, unless there is nothing else. -/
def dropEmptyStart : List (List Char) → List (List Char)
  | [] :: part :: rest => dropEmptyStart (part :: rest)
  | parts => parts

def readWeb (u : Url) (more : Bool) (cs : List Char) : Except AddressError Url := do
  let f := u.family
  let cs := cs.dropWhile f.isSlash
  let path := cs.dropWhile (!f.isSlash ·)
  let a ← readAuthority f (more || !path.isEmpty) (cs.takeWhile (!f.isSlash ·))
  return { u with
    user := a.user, password := a.password, host := a.host, number := a.number
    path := .segments (readPath f (a.rest ++ path)) }

/-- The host of a file; the local one is not named. -/
def readFileHost (cs : List Char) : Except AddressError (Option Host) :=
  if cs.isEmpty then .ok none
  else
    (Host.known cs).map fun
      | .domain name => if name = "localhost".toList then none else some (.domain name)
      | host => some host

def readFile (u : Url) (cs : List Char) : Except AddressError Url :=
  let f := Family.file
  let finish (host : Option Host) (path : List Char) : Url :=
    { u with host, path := .segments (dropEmptyStart (readPath f path)) }
  match cs with
  | c :: d :: rest =>
    if f.isSlash c && f.isSlash d then
      let name := rest.takeWhile (!f.isSlash ·)
      if isDrive name then .ok (finish none rest)
      else (readFileHost name).map (finish · (rest.dropWhile (!f.isSlash ·)))
    else .ok (finish none cs)
  | _ => .ok (finish none cs)

def readOther (u : Url) (more : Bool) (cs : List Char) : Except AddressError Url :=
  match cs with
  | '/' :: '/' :: rest => do
    let path := rest.dropWhile (· != '/')
    let a ← readAuthority .other (more || !path.isEmpty) (rest.takeWhile (· != '/'))
    return { u with
      user := a.user, password := a.password, host := a.host, number := a.number
      path := .segments (readPath .other (a.rest ++ path)) }
  | '/' :: _ => .ok { u with path := .segments (readSegments .other cs) }
  | _ => .ok { u with path := .text (Percent.encode Host.isNoControl cs) }

def parse (s : String) : Except AddressError Url :=
  match readScheme? (clean s.toList) with
  | none => .error .relative
  | some (scheme, rest) =>
    let (rest, fragment) := cutAt '#' rest
    let (rest, query) := cutAt '?' rest
    let scheme := String.ofList scheme
    let f := Family.ofScheme scheme
    let u : Url :=
      { scheme, path := .text []
        query := query.map (Percent.encode (isQueryChar f))
        fragment := fragment.map (Percent.encode isFragmentChar) }
    let more := query.isSome || fragment.isSome
    match f with
    | .web _ => readWeb u more rest
    | .file => readFile u rest
    | .other => readOther u more rest

end TokenTariff.Net.Url
