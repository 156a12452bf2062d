import TokenTariff.Text.Pieces
import TokenTariff.Text.Utf8

/-!
# Request targets

The target of a request is a path and a query. The path is split at slashes, and each part is
decoded by itself; the query is a list of names and values, in the coding of forms.
-/

namespace TokenTariff.Web

structure Target where
  path : List Char
  query : List Char := []

namespace Target

/-- What follows the authority of an absolute target. -/
def afterAuthority (cs : List Char) : List Char :=
  let rest := cs.dropWhile fun c => c != '/' && c != '?'
  match rest with
  | '/' :: _ => rest
  | _ => '/' :: rest

/-- The part of an absolute target behind its scheme. -/
def afterScheme? : List Char → Option (List Char)
  | ':' :: '/' :: '/' :: rest => some rest
  | '/' :: _ | '?' :: _ | [] => none
  | _ :: rest => afterScheme? rest

def ofText (s : String) : Target :=
  let cs := s.toList.takeWhile (· != '#')
  let cs :=
    match afterScheme? cs with
    | some rest => afterAuthority rest
    | none => cs
  let (path, query) := cut '?' cs
  ⟨path, query⟩

def segments (t : Target) : List (List Char) := splitAll '/' t.path

def decodeSegment? (cs : List Char) : Option String :=
  (Utf8.decode? (Percent.decode cs)).map String.ofList

def decodeField (cs : List Char) : String :=
  String.ofList (Utf8.decodeLossy (Percent.decode (cs.map fun c => if c = '+' then ' ' else c)))

def fields (t : Target) : List (String × String) :=
  ((splitAll '&' t.query).filter (!·.isEmpty)).map fun piece =>
    let (name, value) := cut '=' piece
    (decodeField name, decodeField value)

end Target

end TokenTariff.Web
