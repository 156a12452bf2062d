import Mathlib
import TokenTariff.Proofs.Registry.Operations

/-!
# What an operation does

Over a store that holds a book an operation ends in one of a few ways. It succeeds, and then the
registry lists the store as the operation leaves it. It is refused, and has written nothing. Or one
of its calls fails: the store may then be changed in part, and the registry is as before. What holds
after every operation is shown by going through these cases, and for a run by induction.
-/

namespace TokenTariff

namespace Store

variable {st st' : Store} {b : FlatBook} {op : Operation}

/-- An operation has been cut short, perhaps before it began or after its end. -/
def Interrupted (st : Store) (b : FlatBook) : Operation → Store → Prop
  | .refresh, st' => st' = st
  | .save t, st' => st.Saving b t st'
  | .delete model, st' => st.Deleting b model st'

theorem Holds.interrupted (h : st.Holds b) (op : Operation) : st.Interrupted b op st := by
  cases op with
  | refresh => rfl
  | save t => exact h.saving
  | delete model => exact h.deleting

theorem Interrupted.ownNames (h : st.Interrupted b op st')
    (hown : TierRecord.OwnNames st.records) : TierRecord.OwnNames st'.records := by
  cases op with
  | refresh =>
    obtain rfl : st' = st := h
    exact hown
  | save t => exact Saving.ownNames h hown
  | delete model => exact Deleting.ownNames h hown

end Store

namespace Service

/-- The service that has just loaded a store with the book `b`. -/
def listed (remote : Faulty) (b : FlatBook) (now : String) : Service Faulty :=
  ⟨⟨remote.store.listing b, some now⟩, remote⟩

/-- How an operation at the time `now` ends: its reply, and the service after it. -/
inductive Step (s : Service Faulty) (b : FlatBook) (now : String) :
    Operation → Reply → Service Faulty → Prop where
  | refreshed {remote : Faulty} (hst : remote.store = s.remote.store) :
    Step s b now .refresh (.refreshed (.ok (remote.store.listing b).length)) (listed remote b now)
  | saved {t : Tariff} {remote : Faulty} (ht : t.check = .ok ())
    (hst : s.remote.store.Saved b t remote.store) :
    Step s b now (.save t)
      (.saved (.ok (((listed remote (b.saved t) now).registry.get? t.model).getD t)))
      (listed remote (b.saved t) now)
  | deleted {model : String} {kind : PlanKind} {remote : Faulty}
    (hst : s.remote.store.Deleted b model kind remote.store) :
    Step s b now (.delete model) (.deleted (.ok kind))
      (listed remote (Store.bookWithout b model kind) now)
  | unfit {t : Tariff} {c : Malformed} {remote : Faulty} (ht : t.check = .error c)
    (hst : remote.store = s.remote.store) :
    Step s b now (.save t) (.saved (.error (Session.malformed c))) ⟨s.registry, remote⟩
  | absent {model : String} {remote : Faulty}
    (hrecord : s.remote.store.records.contains model = false) (hbook : b.contains model = false)
    (hst : remote.store = s.remote.store) :
    Step s b now (.delete model) (.deleted (.error (.notFound model))) ⟨s.registry, remote⟩
  | failed {op : Operation} {reply : Reply} {remote : Faulty} {f : Fate} {e : RemoteError}
    (hf : f ∈ s.remote.script) (he : f.error = some e) (hreply : reply.isOk = false)
    (hst : s.remote.store.Interrupted b op remote.store) :
    Step s b now op reply ⟨s.registry, remote⟩

variable {s s' : Service Faulty} {b : FlatBook} {now : String} {op : Operation} {reply : Reply}

theorem step_perform (h : s.remote.store.Holds b) (now : String) (op : Operation) :
    Step s b now op (s.perform Faulty.backend now op).1 (s.perform Faulty.backend now op).2 := by
  have herrors : s.remote.Errors fun e => ∃ f ∈ s.remote.script, f.error = some e :=
    fun f hf e he => ⟨f, hf, he⟩
  cases op with
  | refresh =>
    obtain ⟨hst, hcases⟩ := refresh_cases h.book now
    change Step s b now .refresh (.refreshed (s.refresh Faulty.backend now).1)
      (s.refresh Faulty.backend now).2
    generalize s.refresh Faulty.backend now = outcome at hst hcases ⊢
    obtain ⟨r, ⟨registry, remote⟩⟩ := outcome
    dsimp only at hst hcases ⊢
    rcases hcases with ⟨rfl, rfl⟩ | ⟨e, ⟨f, hf, he⟩, rfl, rfl⟩
    · rw [← hst]
      exact .refreshed hst
    · exact .failed hf he rfl hst
  | save t =>
    have hend := ((Session.ends_save h t).run herrors).1
    rw [perform_save]
    rcases hrun : (Session.save t).run Faulty.backend ServiceError.remote s.remote with
      ⟨e | ts, remote⟩ <;> rw [hrun] at hend
    · rcases hend with ⟨c, hc, rfl, hst⟩ | ⟨-, ⟨e', ⟨f, hf, he⟩, rfl⟩, hst⟩
      · exact .unfit hc hst
      · exact .failed hf he rfl hst
    · obtain ⟨ht, hst, hts⟩ := hend
      dsimp only at hst hts ⊢
      subst hts
      exact .saved ht hst
  | delete model =>
    have hend := ((Session.ends_delete h model).run herrors).1
    rw [perform_delete]
    rcases hrun : (Session.delete model).run Faulty.backend ServiceError.remote s.remote with
      ⟨e | ⟨kind, ts⟩, remote⟩ <;> rw [hrun] at hend
    · rcases hend with ⟨hrecord, hbook, rfl, hst⟩ | ⟨⟨e', ⟨f, hf, he⟩, rfl⟩, hst⟩
      · exact .absent hrecord hbook hst
      · exact .failed hf he rfl hst
    · obtain ⟨hst, hts⟩ := hend
      dsimp only at hst hts ⊢
      subst hts
      exact .deleted hst

theorem step_save (h : s.remote.store.Holds b) (now : String) (t : Tariff) :
    Step s b now (.save t) (.saved (s.save Faulty.backend now t).1)
      (s.save Faulty.backend now t).2 := step_perform h now (.save t)

theorem step_delete (h : s.remote.store.Holds b) (now model : String) :
    Step s b now (.delete model) (.deleted (s.delete Faulty.backend now model).1)
      (s.delete Faulty.backend now model).2 := step_perform h now (.delete model)

namespace Step

theorem interrupted (hstep : Step s b now op reply s') (h : s.remote.store.Holds b) :
    s.remote.store.Interrupted b op s'.remote.store := by
  cases hstep with
  | refreshed hst => exact hst
  | saved ht hst => exact Store.Saved.saving hst
  | deleted hst => exact Store.Deleted.deleting hst
  | unfit ht hst =>
    rw [hst]
    exact h.interrupted _
  | absent hrecord hbook hst =>
    rw [hst]
    exact h.interrupted _
  | failed hf he hreply hst => exact hst

theorem ownNames (hstep : Step s b now op reply s') (h : s.remote.store.Holds b)
    (hown : TierRecord.OwnNames s.remote.store.records) :
    TierRecord.OwnNames s'.remote.store.records := (hstep.interrupted h).ownNames hown

/-- An operation that fails leaves the registry alone, and after one that succeeds the registry
lists the store. -/
theorem registry (hstep : Step s b now op reply s') (h : s.remote.store.Holds b) :
    (reply.isOk = false ∧ s'.registry = s.registry) ∨
      (reply.isOk = true ∧ ∃ b', s'.remote.store.Holds b' ∧
        s'.registry = ⟨s'.remote.store.listing b', some now⟩) := by
  cases hstep with
  | refreshed hst => exact .inr ⟨rfl, b, hst ▸ h, rfl⟩
  | saved ht hst => exact .inr ⟨rfl, _, Store.Becomes.holds hst, rfl⟩
  | deleted hst => exact .inr ⟨rfl, _, hst.becomes.holds, rfl⟩
  | unfit ht hst => exact .inl ⟨rfl, rfl⟩
  | absent hrecord hbook hst => exact .inl ⟨rfl, rfl⟩
  | failed hf he hreply hst => exact .inl ⟨hreply, rfl⟩

theorem deleted_of_ok {model : String} {kind : PlanKind}
    (hstep : Step s b now (.delete model) (.deleted (.ok kind)) s') :
    s.remote.store.Deleted b model kind s'.remote.store ∧
      s' = listed s'.remote (Store.bookWithout b model kind) now := by
  cases hstep with
  | deleted hst => exact ⟨hst, rfl⟩
  | failed hf he hreply hst => cases hreply

/-- A tariff that the check lets pass is saved when no call fails. -/
theorem saved_of_served {t : Tariff} (hstep : Step s b now (.save t) reply s')
    (ht : t.check = .ok ()) (hserved : ∀ f ∈ s.remote.script, f.error = none) :
    s.remote.store.Saved b t s'.remote.store ∧
      s' = listed s'.remote (b.saved t) now ∧
      reply = .saved (.ok ((s'.registry.get? t.model).getD t)) := by
  cases hstep with
  | saved ht' hst => exact ⟨hst, rfl, rfl⟩
  | unfit hc hst =>
    rw [ht] at hc
    cases hc
  | failed hf he hreply hst =>
    rw [hserved _ hf] at he
    cases he

/-- A model with a record is deleted when no call fails. -/
theorem deleted_of_served {model : String} (hstep : Step s b now (.delete model) reply s')
    (hrecord : s.remote.store.records.contains model = true)
    (hserved : ∀ f ∈ s.remote.script, f.error = none) : reply = .deleted (.ok .tiered) := by
  cases hstep with
  | @deleted _ kind _ hst =>
    cases kind with
    | tiered => rfl
    | flat =>
      rw [hst.1] at hrecord
      cases hrecord
  | absent hno hbook hst =>
    rw [hno] at hrecord
    cases hrecord
  | failed hf he hreply hst =>
    rw [hserved _ hf] at he
    cases he

end Step

end Service

end TokenTariff
