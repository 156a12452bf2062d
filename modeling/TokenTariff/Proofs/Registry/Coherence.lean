import Mathlib
import TokenTariff.Api.Handler
import TokenTariff.Proofs.Registry.Operations

/-!
# The registry follows the store

An operation writes, or does not, and loads all tariffs as its last act. Whatever was in the store
and whatever became of its calls, an operation that succeeds therefore leaves the registry as the
store then makes it up, and one that fails leaves it as it was. Nothing is assumed of the store: its
settings may be no book, its records may stand under any names.
-/

namespace TokenTariff

namespace Session

variable {ε ε' α β : Type} {E : RemoteError → Prop} {failed : RemoteError → ε} {st : Store}

theorem ends_true (p : Session ε α) (st : Store) : p.Ends E failed (fun _ _ => True) st := by
  induction p generalizing st with
  | done a => trivial
  | fail e => trivial
  | call c next ih => exact ⟨fun as _ => ih _ _, fun _ _ _ _ => trivial⟩

/-- Only the end of a session counts when it is right from every store. -/
theorem ends_bind {Q : Except ε β → Store → Prop} (p : Session ε α) {f : α → Session ε β}
    (h : ∀ a st, (f a).Ends E failed Q st) (hno : ∀ e st, Q (.error e) st) (st : Store) :
    (p >>= f).Ends E failed Q st := by
  refine Ends.bind ((ends_true p st).mono fun r st' _ => ?_)
  cases r with
  | ok a => exact h a st'
  | error e => exact hno e st'

end Session

def Store.tariffs? (st : Store) : Except Malformed (List Tariff) :=
  (FlatBook.ofSettings st.settings).map st.listing

namespace Session

variable {ε α : Type} {E : RemoteError → Prop}

/-- The tariffs that come with a result are those that the store makes up. -/
def Mirrors (tariffs : α → List Tariff) : Except ε α → Store → Prop
  | .ok a, st => st.tariffs? = .ok (tariffs a)
  | .error _, _ => True

theorem ends_load_mirrors (st : Store) : load.Ends E id (Mirrors id) st := by
  refine Ends.bind (ends_listRecords (Ends.bind (ends_listSettings (Ends.bind ?_)
    fun _ _ => trivial)) fun _ _ => trivial)
  apply ends_ofExcept
  cases hb : FlatBook.ofSettings st.settings with
  | error c => trivial
  | ok b =>
    change st.tariffs? = .ok (st.listing b)
    rw [Store.tariffs?, hb]
    rfl

theorem ends_reload_mirrors (st : Store) : reload.Ends E .remote (Mirrors id) st := by
  refine Ends.mapError ServiceError.remote ((ends_load_mirrors st).mono fun r st' h => ?_)
  cases r with
  | error e => trivial
  | ok ts => exact h

theorem ends_save_mirrors (t : Tariff) (st : Store) : (save t).Ends E .remote (Mirrors id) st := by
  rw [save_eq]
  exact ends_bind _ (fun _ => ends_bind _ (fun _ => ends_bind _ (fun _ => ends_reload_mirrors)
    fun _ _ => trivial) fun _ _ => trivial) (fun _ _ => trivial) st

theorem ends_delete_mirrors (model : String) (st : Store) :
    (delete model).Ends E .remote (Mirrors (·.2)) st := by
  refine ends_bind (remove model) (fun kind st => ?_) (fun _ _ => trivial) st
  refine Ends.bind ((ends_reload_mirrors st).mono fun r st' h => ?_)
  cases r with
  | error e => trivial
  | ok ts => exact h

end Session

namespace Service

/-- A store whose calls are all served is loaded as it is. -/
theorem refresh_served {st : Store} {ts : List Tariff} (h : st.tariffs? = .ok ts) (r : Registry)
    (now : String) :
    (⟨r, ⟨st, []⟩⟩ : Service Faulty).refresh Faulty.backend now =
      (.ok ts.length, ⟨⟨ts, some now⟩, ⟨st, []⟩⟩) := by
  have hload : Session.load.run Faulty.backend id ⟨st, []⟩ = (.ok ts, ⟨st, []⟩) := by
    rw [Store.tariffs?] at h
    cases hb : FlatBook.ofSettings st.settings with
    | error c =>
      rw [hb] at h
      cases h
    | ok b =>
      rw [hb] at h
      cases h
      change (Session.ofExcept _ (FlatBook.ofSettings st.settings) >>= _).run _ _ _ = _
      rw [hb]
      rfl
  rw [refresh, hload]
  rfl

/-- After a success the registry is what loading the store gives that the operation has left; after
a failure it is what it was. -/
def Mirrors (now : String) (s : Service Faulty) (ok : Bool) (s' : Service Faulty) : Prop :=
  if ok then
    (⟨{}, ⟨s'.remote.store, []⟩⟩ : Service Faulty).refresh Faulty.backend now =
      (.ok s'.registry.tariffs.length, ⟨s'.registry, ⟨s'.remote.store, []⟩⟩)
  else s'.registry = s.registry

theorem mirrors_finish {ε α β : Type} {s : Service Faulty} {p : Session ε α}
    {failed : RemoteError → ε} {tariffs : α → List Tariff}
    (h : p.Ends (fun _ => True) failed (Session.Mirrors tariffs) s.remote.store) (f : α → β)
    (now : String) :
    s.Mirrors now ((s.finish now tariffs (p.run Faulty.backend failed s.remote)).1.map f).isOk
      (s.finish now tariffs (p.run Faulty.backend failed s.remote)).2 := by
  have hend := (h.run fun _ _ _ _ => trivial).1
  unfold finish
  generalize p.run Faulty.backend failed s.remote = outcome at hend
  obtain ⟨e | a, remote⟩ := outcome
  · rfl
  · exact refresh_served hend {} now

theorem mirrors_perform (s : Service Faulty) (now : String) (op : Operation) :
    s.Mirrors now (s.perform Faulty.backend now op).1.isOk
      (s.perform Faulty.backend now op).2 := by
  cases op with
  | refresh => exact mirrors_finish (Session.ends_load_mirrors s.remote.store) List.length now
  | save t => exact mirrors_finish (Session.ends_save_mirrors t s.remote.store) _ now
  | delete model => exact mirrors_finish (Session.ends_delete_mirrors model s.remote.store) _ now

end Service

namespace Api

def asked? (request : Web.Request) : Option Action :=
  (Route.ofTarget? request.target).bind (·.action? request.method)

def Action.changes : Action → Bool
  | save | delete _ | refresh => true
  | health | convert | matching | resolve | list | detail _ | status => false

variable {σ : Type} (b : Backend σ) (now : String) (origins : Web.Origins) (request : Web.Request)

theorem perform_of_not_changes {a : Action} (h : a.changes = false) (s : Service σ) :
    (a.perform b now request s).2 = s := by
  cases a with
  | save | delete | refresh => cases h
  | health | convert | matching | resolve | list | detail | status => rfl

/-- A request that asks for no change makes none. -/
theorem handle_of_not_changes (h : ∀ a, asked? request = some a → a.changes = false)
    (s : Service σ) : (handle b now origins request s).2 = s := by
  change (dispatch b now request s).2 = s
  unfold dispatch
  cases hroute : Route.ofTarget? request.target with
  | none => rfl
  | some route =>
    dsimp only
    split
    · rfl
    · cases haction : route.action? request.method with
      | none => rfl
      | some action =>
        refine perform_of_not_changes b now request (h action ?_) s
        rw [asked?, hroute]
        exact haction

end Api

namespace Service

/-- Coherence in every run, from any service, over any store and with any calls failing: after each
operation that succeeds the registry is what loading the store gives, after each that fails it is
what it was before that operation, and requests that ask for no change leave it and the store
alone. -/
theorem performAll_mirrors (s : Service Faulty) (pre post : List (String × Operation))
    (now : String) (op : Operation) :
    let before := (s.performAll Faulty.backend pre).2
    let reply := (before.perform Faulty.backend now op).1
    let after := (before.perform Faulty.backend now op).2
    (s.performAll Faulty.backend (pre ++ (now, op) :: post)).1[pre.length]? = some reply ∧
      before.Mirrors now reply.isOk after ∧
      ∀ (origins : Web.Origins) (request : Web.Request) (time : String),
        (∀ a, Api.asked? request = some a → a.changes = false) →
          (Api.handle Faulty.backend time origins request after).2 = after := by
  intro before reply after
  refine ⟨?_, mirrors_perform before now op, fun origins request time h =>
    Api.handle_of_not_changes _ time origins request h after⟩
  rw [performAll_append, performAll,
    List.getElem?_append_right (length_performAll Faulty.backend s pre).le,
    length_performAll, Nat.sub_self]
  rfl

end Service

end TokenTariff
