import Mathlib
import TokenTariff.Proofs.Registry.Changes
import TokenTariff.Registry.Service

/-!
# Operations of the service

The operations that load and change tariffs, each with its reply. An operation leaves the store as
its session does, and the registry changes only when the operation succeeds.
-/

namespace TokenTariff

inductive Operation where
  | refresh
  | save (t : Tariff)
  | delete (model : String)

inductive Reply where
  | refreshed (r : Except RemoteError Nat)
  | saved (r : Except ServiceError Tariff)
  | deleted (r : Except ServiceError PlanKind)

def Reply.isOk : Reply → Bool
  | refreshed r => r.isOk
  | saved r => r.isOk
  | deleted r => r.isOk

def Operation.model? : Operation → Option String
  | refresh => none
  | save t => some t.model
  | delete model => some model

theorem Operation.save_or_delete {op : Operation} {model : String} (h : op.model? = some model) :
    (∃ t, op = .save t ∧ t.model = model) ∨ op = .delete model := by
  cases op with
  | refresh => cases h
  | save t => exact .inl ⟨t, rfl, Option.some.inj h⟩
  | delete m => exact .inr (congrArg Operation.delete (Option.some.inj h))

namespace Service

variable {σ : Type} (b : Backend σ) (now : String)

def perform (s : Service σ) : Operation → Reply × Service σ
  | .refresh => let (r, s) := s.refresh b now; (.refreshed r, s)
  | .save t => let (r, s) := s.save b now t; (.saved r, s)
  | .delete model => let (r, s) := s.delete b now model; (.deleted r, s)

def performAll (s : Service σ) : List (String × Operation) → List Reply × Service σ
  | [] => ([], s)
  | (now, op) :: ops =>
    let (reply, s) := s.perform b now op
    let (replies, s) := s.performAll ops
    (reply :: replies, s)

theorem performAll_append (s : Service σ) (ops ops' : List (String × Operation)) :
    s.performAll b (ops ++ ops') =
      ((s.performAll b ops).1 ++ ((s.performAll b ops).2.performAll b ops').1,
        ((s.performAll b ops).2.performAll b ops').2) := by
  induction ops generalizing s with
  | nil => rfl
  | cons op ops ih => simp only [List.cons_append, performAll, ih]

theorem length_performAll (s : Service σ) (ops : List (String × Operation)) :
    (s.performAll b ops).1.length = ops.length := by
  induction ops generalizing s with
  | nil => rfl
  | cons op ops ih => exact congrArg (· + 1) (ih _)

/-! What an operation does, from how its session ends. -/

theorem perform_refresh (s : Service σ) :
    s.perform b now .refresh =
      match Session.load.run b id s.remote with
      | (.ok ts, remote) => (.refreshed (.ok ts.length), ⟨⟨ts, some now⟩, remote⟩)
      | (.error e, remote) => (.refreshed (.error e), ⟨s.registry, remote⟩) := by
  unfold perform refresh finish
  rcases Session.load.run b id s.remote with ⟨e | ts, remote⟩ <;> rfl

theorem perform_save (s : Service σ) (t : Tariff) :
    s.perform b now (.save t) =
      match (Session.save t).run b .remote s.remote with
      | (.ok ts, remote) =>
        (.saved (.ok (((⟨ts, some now⟩ : Registry).get? t.model).getD t)),
          ⟨⟨ts, some now⟩, remote⟩)
      | (.error e, remote) => (.saved (.error e), ⟨s.registry, remote⟩) := by
  change (let (r, s) := s.save b now t; (Reply.saved r, s)) = _
  unfold save finish
  rcases (Session.save t).run b ServiceError.remote s.remote with ⟨e | ts, remote⟩ <;> rfl

theorem perform_delete (s : Service σ) (model : String) :
    s.perform b now (.delete model) =
      match (Session.delete model).run b .remote s.remote with
      | (.ok (kind, ts), remote) => (.deleted (.ok kind), ⟨⟨ts, some now⟩, remote⟩)
      | (.error e, remote) => (.deleted (.error e), ⟨s.registry, remote⟩) := by
  change (let (r, s) := s.delete b now model; (Reply.deleted r, s)) = _
  unfold delete finish
  rcases (Session.delete model).run b ServiceError.remote s.remote with
    ⟨e | ⟨kind, ts⟩, remote⟩ <;> rfl

theorem remote_perform (s : Service σ) (op : Operation) :
    (s.perform b now op).2.remote =
      match op with
      | .refresh => (Session.load.run b id s.remote).2
      | .save t => ((Session.save t).run b .remote s.remote).2
      | .delete model => ((Session.delete model).run b .remote s.remote).2 := by
  have key {ε α : Type} (tariffs : α → List Tariff) (outcome : Except ε α × σ) :
      (s.finish now tariffs outcome).2.remote = outcome.2 := by
    obtain ⟨r | r, remote⟩ := outcome <;> rfl
  cases op <;> exact key _ _

theorem remote_save (s : Service σ) (t : Tariff) :
    (s.save b now t).2.remote = ((Session.save t).run b .remote s.remote).2 :=
  remote_perform b now s (.save t)

end Service

/-! ### The registry after loading -/

namespace Service

variable {s : Service Faulty} {b : FlatBook}

/-- Loading from a store whose settings make up a book leaves the store alone. It fills the
registry, unless one of its calls fails. -/
theorem refresh_cases (h : FlatBook.ofSettings s.remote.store.settings = .ok b) (now : String) :
    (s.refresh Faulty.backend now).2.remote.store = s.remote.store ∧
      (((s.refresh Faulty.backend now).1 = .ok (s.remote.store.listing b).length ∧
        (s.refresh Faulty.backend now).2.registry = ⟨s.remote.store.listing b, some now⟩) ∨
      ∃ e, (∃ f ∈ s.remote.script, f.error = some e) ∧
        (s.refresh Faulty.backend now).1 = .error e ∧
        (s.refresh Faulty.backend now).2.registry = s.registry) := by
  have hend := (Session.ends_load (E := fun e => ∃ f ∈ s.remote.script, f.error = some e)
    (Q := fun r st' => st' = s.remote.store ∧
      match r with
      | .ok ts => ts = s.remote.store.listing b
      | .error e => ∃ f ∈ s.remote.script, f.error = some e) h
    ⟨rfl, rfl⟩ fun e he => ⟨rfl, he⟩).run fun f hf e he => ⟨f, hf, he⟩
  replace hend := hend.1
  unfold refresh finish
  revert hend
  generalize Session.load.run Faulty.backend id s.remote = outcome
  obtain ⟨r, s'⟩ := outcome
  rintro ⟨hst, hr⟩
  cases r with
  | error e => exact ⟨hst, .inr ⟨e, hr, rfl, rfl⟩⟩
  | ok ts =>
    obtain rfl : ts = s.remote.store.listing b := hr
    exact ⟨hst, .inl ⟨rfl, rfl⟩⟩

theorem tariffs_of_refresh (h : FlatBook.ofSettings s.remote.store.settings = .ok b)
    {now : String} {n : ℕ} (hok : (s.refresh Faulty.backend now).1 = .ok n) :
    (s.refresh Faulty.backend now).2.registry.tariffs = s.remote.store.listing b := by
  rcases (refresh_cases h now).2 with ⟨-, hr⟩ | ⟨e, -, he, -⟩
  · rw [hr]
  · rw [he] at hok
    cases hok

theorem error_of_refresh (h : s.remote.store.Holds b) {now : String} {e : RemoteError}
    (he : (s.refresh Faulty.backend now).1 = .error e) :
    ∃ f ∈ s.remote.script, f.error = some e := by
  rcases (refresh_cases h.book now).2 with ⟨hok, -⟩ | ⟨e', hf, he', -⟩
  · rw [hok] at he
    cases he
  · rw [he'] at he
    cases he
    exact hf

theorem ok_of_refresh (h : s.remote.store.Holds b) (hs : s.remote.script = []) (now : String) :
    ∃ n, (s.refresh Faulty.backend now).1 = .ok n := by
  rcases (refresh_cases h.book now).2 with ⟨hok, -⟩ | ⟨e, ⟨f, hf, -⟩, -⟩
  · exact ⟨_, hok⟩
  · rw [hs] at hf
    exact absurd hf List.not_mem_nil

end Service

namespace Registry

theorem get?_of_listing {r : Registry} {st : Store} {b : FlatBook}
    (hown : TierRecord.OwnNames st.records) (hr : r.tariffs = st.listing b) (model : String) :
    r.get? model = shown? st.records b model := by
  rw [get?, hr]
  exact find?_catalog hown b model

end Registry

/-- The registry that loading a store gives when no call fails. -/
def Store.loaded (st : Store) (now : String) : Registry :=
  ((⟨{}, ⟨st, []⟩⟩ : Service Faulty).refresh Faulty.backend now).2.registry

theorem Store.Holds.loaded {st : Store} {b : FlatBook} (h : st.Holds b) (now : String) :
    (st.loaded now).tariffs = st.listing b := by
  obtain ⟨n, hok⟩ := Service.ok_of_refresh (s := ⟨{}, ⟨st, []⟩⟩) h rfl now
  exact Service.tariffs_of_refresh h.book hok

end TokenTariff
