import TokenTariff.Remote.Session

/-!
# A store in memory

Settings are a list, records a table. Putting a setting replaces the first one of its key in place
or adds it at the end. The store keeps a journal of every access, and it can be told to refuse one.
-/

namespace TokenTariff

structure Store where
  settings : List Setting := []
  records : Table TierRecord := ∅

namespace Store

/-- The list with a setting put in place of the first one of its key, or at the end. -/
def putIn (s : Setting) : List Setting → List Setting
  | [] => [s]
  | t :: rest => if t.key = s.key then s :: rest else t :: putIn s rest

def putSetting (st : Store) (s : Setting) : Store := { st with settings := putIn s st.settings }

/-- The list with a setting moved to the end. -/
def setSetting (st : Store) (s : Setting) : Store :=
  { st with settings := st.settings.filter (·.key != s.key) ++ [s] }

def upsertRecord (st : Store) (r : TierRecord) : Store :=
  { st with records := st.records.insert r.model r }

def deleteRecord (st : Store) (model : String) : Store :=
  { st with records := st.records.erase model }

end Store

inductive Access where
  | listSettings
  | putSetting (s : Setting)
  | listRecords
  | upsertRecord (r : TierRecord)
  | deleteRecord (model : String)

inductive Access.Kind where
  | listSettings
  | putSetting
  | listRecords
  | upsertRecord
  | deleteRecord
deriving DecidableEq

def Access.kind : Access → Access.Kind
  | listSettings => .listSettings
  | putSetting _ => .putSetting
  | listRecords => .listRecords
  | upsertRecord _ => .upsertRecord
  | deleteRecord _ => .deleteRecord

def Store.apply (st : Store) : Access → Store
  | .listSettings | .listRecords => st
  | .putSetting s => st.putSetting s
  | .upsertRecord r => st.upsertRecord r
  | .deleteRecord model => st.deleteRecord model

/-- A refusal that is to come: it strikes the access of this kind that follows `after` others. -/
structure Refusal where
  kind : Access.Kind
  after : Nat := 0
  reason : String

/-- A store with its journal, the last access first, and the refusal to come. -/
structure Memory where
  store : Store := {}
  refusal : Option Refusal := none
  journal : List Access := []

namespace Memory

/-- Whether a refusal strikes now, and what is left of it. -/
def strike (refusal : Option Refusal) (k : Access.Kind) : Option String × Option Refusal :=
  match refusal with
  | none => (none, none)
  | some r =>
    if r.kind = k then
      match r.after with
      | 0 => (some r.reason, none)
      | n + 1 => (none, some { r with after := n })
    else (none, some r)

/-- One access, which is noted in the journal whether it is refused or not. -/
def attempt (m : Memory) (a : Access) : Except RemoteError Unit × Memory :=
  let (struck, refusal) := strike m.refusal a.kind
  let noted := { m with refusal, journal := a :: m.journal }
  match struck with
  | some reason => (.error (.rejected reason), noted)
  | none => (.ok (), { noted with store := noted.store.apply a })

/-- Settings are put in order up to the first refusal. -/
def attemptAll : Memory → List Setting → Except RemoteError Unit × Memory
  | m, [] => (.ok (), m)
  | m, s :: rest =>
    match m.attempt (.putSetting s) with
    | (.ok (), m) => attemptAll m rest
    | (.error e, m) => (.error e, m)

def answer : {β : Type} → Call β → Memory → Except RemoteError β × Memory
  | _, .listSettings, m =>
    let (r, m) := m.attempt .listSettings
    (r.map fun _ => m.store.settings, m)
  | _, .putSettings settings, m => m.attemptAll settings
  | _, .listRecords, m =>
    let (r, m) := m.attempt .listRecords
    (r.map fun _ => m.store.records, m)
  | _, .upsertRecord record, m => m.attempt (.upsertRecord record)
  | _, .deleteRecord model, m => m.attempt (.deleteRecord model)

def backend : Backend Memory := ⟨answer⟩

end Memory

end TokenTariff
