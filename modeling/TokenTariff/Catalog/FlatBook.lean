import TokenTariff.Catalog.Setting
import TokenTariff.Tariff.Basic
import TokenTariff.Text.Pieces

/-!
# The book of flat tariffs, and the catalog

Flat tariffs are spread over three tables: prices per call, model ratios and completion ratios. A
model has a flat tariff when it is in one of the first two; an entry of the third alone bills
nothing.

The catalog has all tariffs in one list: first the tiered ones in order of their models, then the
flat ones in order of theirs. A model with a tiered tariff does not show its flat one.
-/

namespace TokenTariff

open Json

structure FlatBook where
  prices : Table Float := ∅
  ratios : Table Float := ∅
  completions : Table Float := ∅

namespace FlatBook

/-- A table as it stands in a setting: a JSON object of numbers, or nothing at all. -/
def readTable (key text : String) : Except Malformed (Table Float) :=
  if isBlank text then .ok ∅
  else
    match (Reader.table Reader.real).parse text with
    | .ok t => .ok t
    | .error f => .error (.badTable key f)

/-- The book after one more setting: a setting with the key of a table replaces that table. -/
def readSetting (b : FlatBook) (s : Setting) : Except Malformed FlatBook :=
  if s.key = priceKey then (readTable s.key s.value).map ({ b with prices := · })
  else if s.key = ratioKey then (readTable s.key s.value).map ({ b with ratios := · })
  else if s.key = completionKey then (readTable s.key s.value).map ({ b with completions := · })
  else .ok b

def ofSettings (settings : List Setting) : Except Malformed FlatBook :=
  settings.foldlM readSetting {}

def writeEntry (e : String × Float) : String :=
  "\n  " ++ writeText e.1 ++ ": " ++ (Value.real e.2).write

def writeTable (t : Table Float) : String :=
  if t.entries.isEmpty then "\x7b\x7d"
  else "\x7b" ++ ",".intercalate (t.entries.map writeEntry) ++ "\n\x7d"

def toSettings (b : FlatBook) : List Setting :=
  [⟨priceKey, writeTable b.prices⟩, ⟨ratioKey, writeTable b.ratios⟩,
    ⟨completionKey, writeTable b.completions⟩]

def rate (b : FlatBook) (model : String) : FlatRate :=
  ⟨b.prices.get? model, b.ratios.get? model, b.completions.get? model⟩

def contains (b : FlatBook) (model : String) : Bool :=
  b.prices.contains model || b.ratios.contains model

def mentions (b : FlatBook) (model : String) : Bool :=
  b.contains model || b.completions.contains model

def models (b : FlatBook) : List String :=
  (b.ratios.names.foldl (fun t n => t.insert n ()) (b.prices.names.foldl (fun t n => t.insert n ())
    (∅ : Table Unit))).names

def tariffs (b : FlatBook) (skip : List String) : List Tariff :=
  (b.models.filter fun m => !skip.contains m).map fun m => Tariff.flat m (b.rate m)

def erase (b : FlatBook) (model : String) : FlatBook :=
  ⟨b.prices.erase model, b.ratios.erase model, b.completions.erase model⟩

/-- The book with a flat tariff entered. A price displaces the ratios; without one the ratios
displace the price. -/
def enter (b : FlatBook) (t : Tariff) : Except Malformed FlatBook :=
  match t.plan with
  | .tiered _ => .error (.notFlat t.model)
  | .flat { price := some p, .. } =>
    .ok ⟨b.prices.insert t.model p, b.ratios.erase t.model, b.completions.erase t.model⟩
  | .flat { price := none, modelRatio := none, .. } => .error .nothingSet
  | .flat { price := none, modelRatio := some r, completionRatio := c } =>
    .ok ⟨b.prices.erase t.model, b.ratios.insert t.model r,
      match c with
      | some c => b.completions.insert t.model c
      | none => b.completions.erase t.model⟩

end FlatBook

def catalog (tiered : List Tariff) (book : FlatBook) : List Tariff :=
  let sorted := tiered.mergeSort fun a b => decide (a.model ≤ b.model)
  sorted ++ book.tariffs (sorted.map (·.model))

end TokenTariff
