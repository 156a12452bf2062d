import TokenTariff.Catalog.FlatBook
import TokenTariff.Remote.Session
import TokenTariff.Tariff.Check

/-!
# Loading and changing tariffs

A tiered tariff is a record and a flat one is spread over the tables of the book, so changing the
kind of a tariff clears the other place. The new place is written first, and a record hides what the
tables say, so that an interrupted change shows either the old tariff or the new one. Every change
loads all tariffs again at its end.
-/

namespace TokenTariff.Session

/-- Reads all tariffs. Records without tiers are left out. -/
def load : Session RemoteError (List Tariff) := do
  let records ← ask .listRecords
  let settings ← ask .listSettings
  let book ← ofExcept (RemoteError.pricing ∘ PricingError.malformed) (FlatBook.ofSettings settings)
  return catalog (records.toList.filterMap fun r => r.2.toTariff.toOption) book

def reload : Session ServiceError (List Tariff) := load.mapError .remote

/-- What is wrong with a tariff or a table, as an error of the change that met it. -/
def malformed (cause : Malformed) : ServiceError := .pricing (.malformed cause)

def readBook : Session ServiceError FlatBook := do
  let settings ← ask .listSettings
  ofExcept malformed (FlatBook.ofSettings settings)

def saveTiered (record : TierRecord) (book : FlatBook) : Session ServiceError Unit := do
  ask (.upsertRecord record)
  if book.mentions record.model then ask (.putSettings (book.erase record.model).toSettings)

def saveFlat (t : Tariff) (book : FlatBook) : Session ServiceError Unit := do
  let book ← ofExcept malformed (book.enter t)
  ask (.putSettings book.toSettings)
  let records ← ask .listRecords
  if records.contains t.model then ask (.deleteRecord t.model)

def save (t : Tariff) : Session ServiceError (List Tariff) := do
  ofExcept malformed t.check
  let book ← readBook
  match TierRecord.ofTariff? t with
  | some record => saveTiered record book
  | none => saveFlat t book
  reload

/-- Deletes the record of a model or, if there is none, its entries in the tables; returns the kind
of the tariff that was deleted. -/
def remove (model : String) : Session ServiceError PlanKind := do
  let records ← ask .listRecords
  if records.contains model then
    ask (.deleteRecord model)
    return .tiered
  let book ← readBook
  if book.contains model then
    ask (.putSettings (book.erase model).toSettings)
    return .flat
  else fail (.notFound model)

def delete (model : String) : Session ServiceError (PlanKind × List Tariff) := do
  let kind ← remove model
  let tariffs ← reload
  return (kind, tariffs)

end TokenTariff.Session
