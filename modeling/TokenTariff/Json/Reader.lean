import TokenTariff.Json.Value

/-!
# Reading data from documents

A reader turns a document into data or reports the first fault it meets. Records are read by a
shape, which lists their fields: from an object by the names of the fields, from a list by their
order. Choices are read by name, and tagged choices by a member that names the case.
-/

namespace TokenTariff.Json

/-- Where a document comes from. A text is read from the front; a value has been read before and
tells its sizes; a buffered document is a part of one whose form was checked already. -/
inductive Source where
  | value
  | text
  | buffered

abbrev Reader (α : Type) : Type := Source → Doc → Except Fault α

namespace Reader

variable {α β : Type}

def map (f : α → β) (r : Reader α) : Reader β := fun src d => (r src d).map f

def real : Reader Float
  | _, .number (.ok n) => .ok n.toFloat
  | _, d => .error (d.unwanted "f64")

/-- An integer from 0 to 2⁶⁴ - 1; `wanted` is how a fault calls it. -/
def word (wanted : String) : Reader UInt64
  | _, .number (.ok (.int i)) =>
    if 0 ≤ i ∧ i < UInt64.size then .ok (UInt64.ofNat i.toNat) else .error (.wrongInteger i wanted)
  | _, d => .error (d.unwanted wanted)

def count : Reader UInt64 := word "u64"

def position : Reader Nat := (word "usize").map UInt64.toNat

/-- An integer from -2³¹ to 2³¹ - 1. -/
def small : Reader Int32
  | _, .number (.ok (.int i)) =>
    if Int32.minValue.toInt ≤ i ∧ i ≤ Int32.maxValue.toInt then .ok (Int32.ofInt i) else .error (.wrongInteger i "i32")
  | _, d => .error (d.unwanted "i32")

def bool : Reader Bool
  | _, .bool b => .ok b
  | _, d => .error (d.unwanted "a boolean")

def text : Reader String
  | _, .text (.ok s) => .ok s
  | _, d => .error (d.unwanted "a string")

def optional (r : Reader α) : Reader (Option α)
  | _, .null => .ok none
  | src, d => (r src d).map some

def items (r : Reader α) : Reader (List α)
  | src, .list ds ending => do
    let xs ← ds.mapM (r src)
    match ending.onRead with
    | some f => .error f
    | none => .ok xs
  | _, d => .error (d.unwanted "a sequence")

def member (r : Reader α) (src : Source) (m : Except Fault String × Doc) :
    Except Fault (String × α) := do
  let k ← m.1
  let x ← r src m.2
  .ok (k, x)

def members (r : Reader α) : Reader (List (String × α))
  | src, .object ms ending => do
    let xs ← ms.mapM (member r src)
    match ending.onRead with
    | some f => .error f
    | none => .ok xs
  | _, d => .error (d.unwanted "a map")

/-- The members of an object as a table; of two with one key the later counts. -/
def table (r : Reader α) : Reader (Table α) := (members r).map Table.ofList

def whole : Reader Value := fun _ d => d.toValue depthLimit

/-- A member of any content. It is part of an object, so one level is used up already. -/
def anything : Reader Value := fun _ d => d.toValue (depthLimit - 1)

def name (known : List (String × α)) (found : String) : Except Fault α :=
  match known.lookup found with
  | some a => .ok a
  | none => .error (.unknownVariant found (known.map (·.1)))

def unit : Reader Unit
  | _, .null => .ok ()
  | _, d => .error (d.unwanted "unit")

/-- A name, or an object with the name as its only key and `null` as its value, in a value. -/
def choiceInValue (known : List (String × α)) : Doc → Except Fault α
  | .text s => s >>= name known
  | .object [(k, d)] _ => do
    let a ← k >>= name known
    unit .value d
    .ok a
  | .object .. => .error .notSingleKey
  | d => .error (d.unwanted "string or map")

def choiceInText (known : List (String × α)) : Doc → Except Fault α
  | .text s => s >>= name known
  | .object [] ending => .error (ending.onRead.getD .noValue)
  | .object ((k, d) :: rest) ending => do
    let a ← k >>= name known
    unit .text d
    if rest.isEmpty then
      match ending with
      | .closed => .ok a
      | .cut => .error .endInObject
      | _ => .error .noValue
    else .error .noValue
  | .broken f _ => .error f
  | _ => .error .noValue

def choice (known : List (String × α)) : Reader α
  | .text, d => choiceInText known d
  | _, d => choiceInValue known d

def front (r : Reader α) (s : String) : Except Fault α := r .text (Doc.ofText s).1

def alone (r : Reader α) : Doc × Bool → Except Fault α
  | (doc, more) =>
    match r .text doc with
    | .error f => .error f
    | .ok a => if more then .error .trailingText else .ok a

def parse (r : Reader α) (s : String) : Except Fault α := r.alone (Doc.ofText s)

def ofValue (r : Reader α) (v : Value) : Except Fault α := r .value v.toDoc

end Reader

inductive Absence where
  | fault
  /-- A member may be missing, an item of a list may not. -/
  | inObject
  | anywhere
deriving DecidableEq

structure Field (ρ : Type) where
  name : String
  absence : Absence
  read : Reader (ρ → ρ)

namespace Field

variable {ρ β : Type}

def required (name : String) (r : Reader β) (set : β → ρ → ρ) : Field ρ :=
  ⟨name, .fault, r.map set⟩

/-- A field that need not be a member, but has its place in a list. -/
def optional (name : String) (r : Reader β) (set : β → ρ → ρ) : Field ρ :=
  ⟨name, .inObject, r.map set⟩

/-- A field with a default, which the blank record holds. -/
def defaulted (name : String) (r : Reader β) (set : β → ρ → ρ) : Field ρ :=
  ⟨name, .anywhere, r.map set⟩

end Field

/-- How a record is read: its title in faults, the record before any field is read, and its fields
in order. -/
structure Shape (ρ : Type) where
  title : String
  blank : ρ
  fields : List (Field ρ)

def elements (n : Nat) : String := if n = 1 then "1 element" else s!"{n} elements"

namespace Shape

variable {ρ : Type}

/-- Reads members one after the other. Members of other names are skipped, and no field may be given
twice. The names of the fields read are collected in `seen`. -/
def readMembers (s : Shape ρ) (src : Source) :
    List (Except Fault String × Doc) → ρ → List String → Except Fault (ρ × List String)
  | [], r, seen => .ok (r, seen)
  | (k, d) :: rest, r, seen => do
    let k ← k
    match s.fields.find? (·.name == k) with
    | none =>
      match d.onSkip with
      | some f => .error f
      | none => readMembers s src rest r seen
    | some field =>
      if seen.contains k then .error (.duplicate k)
      else do
        let set ← field.read src d
        readMembers s src rest (set r) (k :: seen)

def missing? (s : Shape ρ) (seen : List String) : Option String :=
  (s.fields.find? fun f => f.absence == .fault && !seen.contains f.name).map (·.name)

def readObject (s : Shape ρ) (src : Source) (members : List (Except Fault String × Doc))
    (ending : ObjectEnd) : Except Fault ρ := do
  let (r, seen) ← s.readMembers src members s.blank []
  match ending.onRead with
  | some f => .error f
  | none =>
    match s.missing? seen with
    | some name => .error (.missing name)
    | none => .ok r

/-- Reads items one after the other, the first of them at position `i`; returns those left over. -/
def readItems (s : Shape ρ) (src : Source) (ending : ListEnd) :
    List (Field ρ) → Nat → List Doc → ρ → Except Fault (ρ × List Doc)
  | [], _, rest, r => .ok (r, rest)
  | field :: fields, i, [], r =>
    match ending.onRead with
    | some f => .error f
    | none =>
      if field.absence == .anywhere then readItems s src ending fields (i + 1) [] r
      else .error (.wrongLength i s!"{s.title} with {elements s.fields.length}")
  | field :: fields, i, d :: rest, r => do
    let set ← field.read src d
    readItems s src ending fields (i + 1) rest (set r)

def leftOver (s : Shape ρ) (src : Source) (ending : ListEnd) (length : Nat) (rest : List Doc) :
    Option Fault :=
  match src with
  | .text => if rest.isEmpty then ending.onClose else some .trailingText
  | .value => if rest.isEmpty then none else some (.wrongLength length "fewer elements in array")
  | .buffered =>
    if rest.isEmpty then none
    else some (.wrongLength length s!"{elements s.fields.length} in sequence")

def readList (s : Shape ρ) (src : Source) (items : List Doc) (ending : ListEnd) :
    Except Fault ρ := do
  let (r, rest) ← s.readItems src ending s.fields 0 items s.blank
  match s.leftOver src ending items.length rest with
  | some f => .error f
  | none => .ok r

def reader (s : Shape ρ) : Reader ρ
  | src, .object members ending => s.readObject src members ending
  | src, .list items ending => s.readList src items ending
  | _, d => .error (d.unwanted s.title)

end Shape

/-- Records of several cases, told apart by the member `tag`. -/
structure Tagged (α : Type) where
  title : String
  tag : String
  cases : List (String × Reader α)

namespace Tagged

variable {α : Type}

def readTag (t : Tagged α) : Doc → Except Fault (Reader α)
  | .text (.ok s) => Reader.name t.cases s
  | d => .error (d.unwanted "variant identifier")

def check (d : Doc) : Except Fault Unit :=
  match d.onRead (depthLimit - 1) with
  | some f => .error f
  | none => .ok ()

def readMembers (t : Tagged α) :
    List (Except Fault String × Doc) → Option (Reader α) →
      Except Fault (Option (Reader α) × List (Except Fault String × Doc))
  | [], found => .ok (found, [])
  | (k, d) :: rest, found => do
    let k ← k
    if k = t.tag then
      if found.isSome then .error (.duplicate t.tag)
      else do
        let r ← t.readTag d
        readMembers t rest (some r)
    else do
      check d
      let (r, others) ← readMembers t rest found
      .ok (r, (.ok k, d) :: others)

/-- A record of one of the cases: an object with the tag among its members, or a list that the tag
opens. -/
def reader (t : Tagged α) : Reader α
  | _, .object members ending => do
    let (found, others) ← t.readMembers members none
    match ending.onRead, found with
    | some f, _ => .error f
    | none, none => .error (.missing t.tag)
    | none, some r => r .buffered (.object others .closed)
  | _, .list [] ending =>
    match ending.onRead with
    | some f => .error f
    | none => .error (.missing t.tag)
  | _, .list (d :: rest) ending => do
    let r ← t.readTag d
    rest.forM check
    match ending.onRead with
    | some f => .error f
    | none => r .buffered (.list rest .closed)
  | _, d => .error (d.unwanted t.title)

end Tagged

end TokenTariff.Json
