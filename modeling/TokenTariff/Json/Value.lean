import TokenTariff.Json.Doc
import TokenTariff.Table

/-!
# JSON values

A value is a document without faults in which every key occurs once; of two members with one key the
later counts, and members stand in the order of their keys. Values are written without blanks.
-/

namespace TokenTariff.Json

inductive Value where
  | null
  | bool (b : Bool)
  | number (n : Number)
  | text (s : String)
  | list (items : List Value)
  | object (members : List (String × Value))

def escapeChar (c : Char) : List Char :=
  match c with
  | '"' => ['\\', '"']
  | '\\' => ['\\', '\\']
  | '\n' => ['\\', 'n']
  | '\r' => ['\\', 'r']
  | '\t' => ['\\', 't']
  | '\x08' => ['\\', 'b']
  | '\x0c' => ['\\', 'f']
  | c =>
    if c.toNat < 0x20 then
      ['\\', 'u', '0', '0', Nat.digitChar (c.toNat / 16), Nat.digitChar (c.toNat % 16)]
    else [c]

def writeText (s : String) : String :=
  String.ofList ('"' :: s.toList.flatMap escapeChar ++ ['"'])

def Number.write : Number → String
  | .int i => toString i
  | .real x => Layout.json.write x

namespace Value

mutual

def write : Value → String
  | null => "null"
  | bool b => if b then "true" else "false"
  | number n => n.write
  | text s => writeText s
  | list items => "[" ++ writeItems true items ++ "]"
  | object members => "\x7b" ++ writeMembers true members ++ "\x7d"

/-- Items with commas between them; `first` tells that none stands before. -/
def writeItems (first : Bool) : List Value → String
  | [] => ""
  | v :: rest => (if first then "" else ",") ++ write v ++ writeItems false rest

def writeMembers (first : Bool) : List (String × Value) → String
  | [] => ""
  | (k, v) :: rest =>
    (if first then "" else ",") ++ writeText k ++ ":" ++ write v ++ writeMembers false rest

end

mutual

def toDoc : Value → Doc
  | null => .null
  | bool b => .bool b
  | number n => .number (.ok n)
  | text s => .text (.ok s)
  | list items => .list (toDocs items) .closed
  | object members => .object (toMembers members) .closed

def toDocs : List Value → List Doc
  | [] => []
  | v :: rest => toDoc v :: toDocs rest

def toMembers : List (String × Value) → List (Except Fault String × Doc)
  | [] => []
  | (k, v) :: rest => (.ok k, toDoc v) :: toMembers rest

end

def get? (v : Value) (key : String) : Option Value :=
  match v with
  | object members => Entries.get? key members
  | _ => none

def ofMembers (members : List (String × Value)) : Value :=
  object (members.foldl (fun l m => Entries.insert m.1 m.2 l) [])

def int (i : Int) : Value := number (.int i)

/-- A real; `null` stands for the values that are no numbers. -/
def real (x : Float) : Value := if x.isFinite then number (.real x) else null

end Value

namespace Doc

mutual

/-- The value of a document that is at most `depth` lists and objects deep. -/
def toValue (depth : Nat) : Doc → Except Fault Value
  | null => .ok .null
  | bool b => .ok (.bool b)
  | number n => n.map .number
  | text s => s.map .text
  | broken f _ | garbled f _ => .error f
  | list items ending =>
    if depth ≤ 1 then .error .tooDeep
    else do
      let items ← toValues (depth - 1) items
      match ending.onRead with
      | some f => .error f
      | none => .ok (.list items)
  | object members ending =>
    if depth ≤ 1 then .error .tooDeep
    else do
      let members ← toEntries (depth - 1) members []
      match ending.onRead with
      | some f => .error f
      | none => .ok (.object members)

def toValues (depth : Nat) : List Doc → Except Fault (List Value)
  | [] => .ok []
  | d :: rest => do
    let v ← toValue depth d
    let rest ← toValues depth rest
    .ok (v :: rest)

def toEntries (depth : Nat) :
    List (Except Fault String × Doc) → List (String × Value) → Except Fault (List (String × Value))
  | [], read => .ok read
  | (k, d) :: rest, read => do
    let k ← k
    let v ← toValue depth d
    toEntries depth rest (Entries.insert k v read)

end

end Doc

/-- How deep lists and objects may be nested in a text that is read as a value. -/
def depthLimit : Nat := 128

def Value.parse (s : String) : Except Fault Value :=
  let (doc, more) := Doc.ofText s
  match doc.toValue depthLimit with
  | .error f => .error f
  | .ok v => if more then .error .trailingText else .ok v

end TokenTariff.Json
