import TokenTariff.Catalog.FlatBook
import TokenTariff.Remote.Record

/-!
# Sessions with the remote store

What we do there is written as a session: a tree of calls in which each answer chooses the way
on. A session ends with a result or an error, and a call that fails ends it too. What the calls do
is left to a backend, so that one session can be run against a store in memory, over a network, or
against a store that fails at any point.
-/

namespace TokenTariff

inductive Call : Type → Type where
  | listSettings : Call (List Setting)
  /-- Settings that are written together: when one write fails, any of the others may have been
  made. -/
  | putSettings (settings : List Setting) : Call Unit
  | listRecords : Call (Table TierRecord)
  | upsertRecord (record : TierRecord) : Call Unit
  | deleteRecord (model : String) : Call Unit

inductive Session (ε α : Type) : Type 1 where
  | done (result : α)
  | fail (error : ε)
  | call {β : Type} (c : Call β) (next : β → Session ε α)

namespace Session

variable {ε ε' α β : Type}

def bind : Session ε α → (α → Session ε β) → Session ε β
  | done a, f => f a
  | fail e, _ => fail e
  | call c next, f => call c fun x => (next x).bind f

instance : Monad (Session ε) where
  pure := done
  bind := bind

def ask (c : Call α) : Session ε α := call c done

def mapError (f : ε → ε') : Session ε α → Session ε' α
  | done a => done a
  | fail e => fail (f e)
  | call c next => call c fun x => (next x).mapError f

def ofExcept (f : ε' → ε) : Except ε' α → Session ε α
  | .ok a => done a
  | .error e => fail (f e)

end Session

/-- How calls are answered by something with states `σ`. -/
structure Backend (σ : Type) where
  answer : {β : Type} → Call β → σ → Except RemoteError β × σ

/-- Runs a session; `failed` says what an error of a call means for it. -/
def Session.run {σ ε α : Type} (b : Backend σ) (failed : RemoteError → ε) :
    Session ε α → σ → Except ε α × σ
  | .done a, s => (.ok a, s)
  | .fail e, s => (.error e, s)
  | .call c next, s =>
    match b.answer c s with
    | (.ok x, s) => (next x).run b failed s
    | (.error e, s) => (.error (failed e), s)

namespace Session

variable {σ ε ε' α β : Type} (b : Backend σ) (failed : RemoteError → ε)

/-- A session goes on where its first part ends, unless that fails. -/
theorem run_bind (p : Session ε α) (f : α → Session ε β) (s : σ) :
    (p >>= f).run b failed s =
      match p.run b failed s with
      | (.ok a, s) => (f a).run b failed s
      | (.error e, s) => (.error e, s) := by
  change (p.bind f).run b failed s = _
  induction p generalizing s with
  | done a => rfl
  | fail e => rfl
  | call c next ih =>
    simp only [bind, run]
    split
    · exact ih _ _
    · rfl

/-- Renaming the errors of a session renames those of its run. -/
theorem run_mapError (f : ε → ε') (p : Session ε α) (s : σ) :
    (p.mapError f).run b (f ∘ failed) s =
      ((p.run b failed s).1.mapError f, (p.run b failed s).2) := by
  induction p generalizing s with
  | done a => rfl
  | fail e => rfl
  | call c next ih =>
    simp only [mapError, run]
    split
    · exact ih _ _
    · rfl

end Session

end TokenTariff
