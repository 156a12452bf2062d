import Mathlib
import TokenTariff.Proofs.Registry.FlatSaves
import TokenTariff.Proofs.Registry.Isolation

/-!
# Deleted tariffs

A deletion clears one place: the record of a model or, if there is none, its entries in the tables.
A model that is in one of them only is gone then, and stays so until it is saved again. A record may
stand beside entries that count, as when a save has failed before it could clear the tables. Of such
a model the record alone is deleted, and the flat tariff that it hid shows from then on.
-/

namespace TokenTariff

/-- What is left of a model whose entries are erased in part still does not count. -/
theorem FlatBook.Mixed.contains_of_erase {b b' : FlatBook} {model : String}
    (h : b.Mixed (b.erase model).reread b') (hb : b.contains model = false) :
    b'.contains model = false := by
  rw [erase_eq_revise] at h
  rw [contains_eq_isSet] at hb ⊢
  obtain ⟨hprice, hratio⟩ := Bool.or_eq_false_iff.1 hb
  have hnone (i : Part) (hi : ((b.rate model).field i).isSome = false) :
      ((b'.rate model).field i).isSome = false := by
    rcases h.field i with heq | heq
    · rw [heq, hi]
    · rw [heq]
      cases i <;> rfl
  exact Bool.or_eq_false_iff.2 ⟨hnone .price hprice, hnone .ratio hratio⟩

/-- A deletion of a model that shows nothing leaves nothing to show, even when it is cut short. -/
theorem Store.Deleting.gone {st st' : Store} {b : FlatBook} {model : String}
    (h : st.Deleting b model st') (hrecord : st.records.get? model = none)
    (hbook : b.contains model = false) :
    ∃ b', st'.Holds b' ∧ st'.records.get? model = none ∧ b'.contains model = false := by
  obtain ⟨rs, b', hrs, hmix, -, hst'⟩ := h
  refine ⟨b', hst'.holds, ?_, hmix.contains_of_erase hbook⟩
  rw [hst'.records]
  rcases hrs with rfl | rfl
  · exact hrecord
  · rw [Table.get?_erase, if_pos rfl]

/-- A model without a record shows what the tables make up. -/
theorem Registry.get?_of_no_record {r : Registry} {st : Store} {b : FlatBook} {model : String}
    (hown : TierRecord.OwnNames st.records) (hr : r.tariffs = st.listing b)
    (hrecord : st.records.get? model = none) : r.get? model = b.tariff? model := by
  rw [get?_of_listing hown hr]
  refine shown?_of_no_tiers (fun record h => ?_) b
  rw [hrecord] at h
  cases h

namespace Service

/-- The model has no record; the tables of the book make up `v` for it, and the registry shows the
same. -/
structure ShowsFlat (s : Service Faulty) (b : FlatBook) (model : String) (v : Option Tariff) :
    Prop where
  holds : s.remote.store.Holds b
  ownNames : TierRecord.OwnNames s.remote.store.records
  record : s.remote.store.records.get? model = none
  book : b.tariff? model = v
  registry : s.registry.get? model = v

variable {s s' : Service Faulty} {b b' : FlatBook} {model now : String} {v : Option Tariff}
  {op : Operation} {reply : Reply} {kind : PlanKind}

namespace ShowsFlat

/-- Whether the operation has succeeded or not, the registry shows what the store makes up. -/
theorem after (h : s.ShowsFlat b model v) (hstep : Step s b now op reply s')
    (hb' : s'.remote.store.Holds b') (hrecord : s'.remote.store.records.get? model = none)
    (hbook : b'.tariff? model = v) : s'.ShowsFlat b' model v := by
  have hown := hstep.ownNames h.holds h.ownNames
  refine ⟨hb', hown, hrecord, hbook, ?_⟩
  rcases hstep.registry h.holds with ⟨-, hr⟩ | ⟨-, b'', hb'', hr⟩
  · rw [hr]
    exact h.registry
  · obtain rfl : b'' = b' := Except.ok.inj (hb''.book.symm.trans hb'.book)
    rw [hr, Registry.get?_of_no_record hown rfl hrecord]
    exact hbook

/-- The operation leaves a model alone of which the tables make up `v`: it is a loading, or it is
about another model and `v` is what its texts are read as, or it deletes what shows nothing. -/
def Leaves (op : Operation) (model : String) (v : Option Tariff) : Prop :=
  op = .refresh ∨ (op.model? ≠ some model ∧ v.map Tariff.settled = v) ∨
    (op = .delete model ∧ v = none)

theorem step (h : s.ShowsFlat b model v) (hstep : Step s b now op reply s')
    (hop : Leaves op model v) : ∃ b', s'.ShowsFlat b' model v := by
  by_cases hmodel : op.model? = some model
  · obtain ⟨rfl, rfl⟩ : op = .delete model ∧ v = none := by
      rcases hop with rfl | ⟨hne, -⟩ | hop
      · cases hmodel
      · exact absurd hmodel hne
      · exact hop
    have hst' : s.remote.store.Deleting b model s'.remote.store := hstep.interrupted h.holds
    obtain ⟨b', hb', hrecord, hbook⟩ :=
      hst'.gone h.record (FlatBook.tariff?_eq_none_iff.1 h.book)
    exact ⟨b', h.after hstep hb' hrecord (FlatBook.tariff?_eq_none_iff.2 hbook)⟩
  · rcases hop with rfl | ⟨-, hv⟩ | ⟨rfl, -⟩
    · have hst' : s'.remote.store = s.remote.store := hstep.interrupted h.holds
      exact ⟨b, h.after hstep (hst' ▸ h.holds) (hst' ▸ h.record) h.book⟩
    · obtain ⟨b', hspares⟩ := (hstep.interrupted h.holds).spares h.holds
      refine ⟨b', h.after hstep hspares.holds ?_ ?_⟩
      · rw [hspares.records model hmodel]
        exact h.record
      · rw [hspares.tariff? hmodel (by rw [h.book, hv]), h.book]
    · exact absurd rfl hmodel

theorem performAll (h : s.ShowsFlat b model v) (ops : List (String × Operation))
    (hops : ∀ e ∈ ops, Leaves e.2 model v) :
    ∃ b', (s.performAll Faulty.backend ops).2.ShowsFlat b' model v := by
  induction ops generalizing s b with
  | nil => exact ⟨b, h⟩
  | cons e ops ih =>
    obtain ⟨hop, hops⟩ := List.forall_mem_cons.1 hops
    obtain ⟨b₁, h₁⟩ := h.step (step_perform h.holds e.1 e.2) hop
    exact ih h₁ hops

end ShowsFlat

/-! ### Deleting -/

/-- After a deletion the model shows what is left of it in the tables. -/
theorem showsFlat_of_delete (h : s.remote.store.Holds b)
    (hown : TierRecord.OwnNames s.remote.store.records)
    (hok : (s.delete Faulty.backend now model).1 = .ok kind) :
    (s.delete Faulty.backend now model).2.ShowsFlat (Store.bookWithout b model kind) model
      ((Store.bookWithout b model kind).tariff? model) := by
  have hstep := step_delete h now model
  rw [hok] at hstep
  obtain ⟨hst, hlisted⟩ := hstep.deleted_of_ok
  have hown' := hstep.ownNames h hown
  have hrecord : (s.delete Faulty.backend now model).2.remote.store.records.get? model = none := by
    rw [hst.becomes.records, Table.get?_erase, if_pos rfl]
  refine ⟨hst.becomes.holds, hown', hrecord, rfl, ?_⟩
  rw [hlisted]
  exact Registry.get?_of_no_record hown' rfl hrecord

/-- Nothing is left in the tables of a model that was in one place only. -/
theorem tariff?_of_deleted {st' : Store} (hst : s.remote.store.Deleted b model kind st')
    (hone : s.remote.store.records.contains model = false ∨ b.contains model = false) :
    (Store.bookWithout b model kind).tariff? model = none := by
  apply FlatBook.tariff?_eq_none_iff.2
  cases kind with
  | tiered =>
    refine hone.resolve_left fun hno => ?_
    rw [hst.1] at hno
    cases hno
  | flat =>
    rw [Store.bookWithout, FlatBook.contains_reread, FlatBook.erase_eq_revise,
      FlatBook.contains_eq_isSet, FlatBook.rate_revise, if_pos rfl]
    rfl

theorem ok_of_delete (h : s.remote.store.Holds b) (hs : s.remote.script = [])
    (hrecord : s.remote.store.records.contains model = true) :
    (s.delete Faulty.backend now model).1 = .ok .tiered := by
  have hserved : ∀ f ∈ s.remote.script, f.error = none := by simp [hs]
  have hreply := (step_delete h now model).deleted_of_served hrecord hserved
  exact Reply.deleted.inj hreply

/-- What a successful deletion does to a model, seen in the registry after it and after any further
operations, whichever of their calls fail. A model that was in one place only is gone until it is
saved again. Of one whose record hid entries the record alone is deleted, and it is billed by its
entries in the tables after every loading; operations on other models do not change that if its
numbers read back. -/
theorem resolve_after_delete (h : s.remote.store.Holds b)
    (hown : TierRecord.OwnNames s.remote.store.records)
    (hok : (s.delete Faulty.backend now model).1 = .ok kind) :
    let r (ops : List (String × Operation)) : Registry :=
      ((s.delete Faulty.backend now model).2.performAll Faulty.backend ops).2.registry
    ((s.remote.store.records.contains model = false ∨ b.contains model = false) →
      ∀ ops, (∀ e ∈ ops, ∀ t, e.2 = .save t → t.model ≠ model) →
        (r ops).get? model = none ∧
          ∀ input output, (r ops).resolve model input output = .error (.notFound model)) ∧
    (∀ record, s.remote.store.records.get? model = some record → record.tiers ≠ [] →
      b.contains model = true → kind = .tiered ∧ ∀ ops,
        (∀ e ∈ ops, e.2 = .refresh ∨ e.2.model? ≠ some model ∧ (b.rate model).ReadsBack) →
        (r ops).get? model = some (.flat model (b.rate model)) ∧
          ∀ input output, (r ops).resolve model input output = (b.rate model).bill model) := by
  intro r
  have hshows := showsFlat_of_delete h hown hok
  have hstep := step_delete h now model
  rw [hok] at hstep
  obtain ⟨hst, -⟩ := hstep.deleted_of_ok
  refine ⟨fun hone ops hops => ?_, fun record hrecord htiers hbook => ?_⟩
  · rw [tariff?_of_deleted hst hone] at hshows
    obtain ⟨b', hafter⟩ := hshows.performAll ops fun e he => by
      by_cases hmodel : e.2.model? = some model
      · rcases Operation.save_or_delete hmodel with ⟨t, hop, hm⟩ | hop
        · exact absurd hm (hops e he t hop)
        · exact .inr (.inr ⟨hop, rfl⟩)
      · exact .inr (.inl ⟨hmodel, rfl⟩)
    refine ⟨hafter.registry, fun input output => ?_⟩
    rw [Registry.resolve, hafter.registry]
  · cases kind with
    | flat =>
      have hno := hst.1
      rw [Table.contains, hrecord] at hno
      cases hno
    | tiered =>
      refine ⟨rfl, fun ops hops => ?_⟩
      have htariff : b.tariff? model = some (.flat model (b.rate model)) := if_pos hbook
      have hleaves : ∀ e ∈ ops, ShowsFlat.Leaves e.2 model (b.tariff? model) := by
        intro e he
        refine (hops e he).imp_right fun hother => .inl ⟨hother.1, ?_⟩
        rw [htariff, Option.map_some, Tariff.settled_of_readsBack fun r hr => ?_]
        cases hr
        exact hother.2
      obtain ⟨b', hafter⟩ := hshows.performAll ops hleaves
      refine ⟨hafter.registry.trans htariff, fun input output => ?_⟩
      exact Registry.resolve_of_tariff? hafter.registry input output

/-- A record beside a completion ratio, which does not count: the model stays away when it is loaded
again and when it is deleted once more. -/
theorem resolve_after_delete_beside_completion :
    let b : FlatBook := ({} : FlatBook).revise "m" { completionRatio := some 1.5 }
    let record : TierRecord := ⟨"m", [{ modelRatio := 2.0, completionRatio := 1.0 }], true⟩
    let s : Service Faulty := ⟨{}, ⟨b.toSettings, (∅ : Table TierRecord).insert "m" record⟩, []⟩
    let s' := ((s.delete Faulty.backend "" "m").2.performAll Faulty.backend
      [("", .refresh), ("", .delete "m"), ("", .refresh)]).2
    (s.remote.store.Holds b ∧ TierRecord.OwnNames s.remote.store.records ∧
      (s.delete Faulty.backend "" "m").1 = .ok .tiered ∧ b.contains "m" = false) ∧
      s'.registry.get? "m" = none ∧
        ∀ input output, s'.registry.resolve "m" input output = .error (.notFound "m") := by
  intro b record s s'
  have hback : b.ReadsBack := fun i => by cases i <;> decide +kernel
  have h : s.remote.store.Holds b := Store.holds_of_readsBack hback _
  have hown : TierRecord.OwnNames s.remote.store.records := TierRecord.ownNames_empty.insert record
  have hok : (s.delete Faulty.backend "" "m").1 = .ok .tiered := ok_of_delete h rfl rfl
  exact ⟨⟨h, hown, hok, rfl⟩, (resolve_after_delete h hown hok).1 (.inr rfl) _ (by simp)⟩

/-- A save that has failed before it could clear the tables, and then a deletion: the price of the
model counts again. -/
theorem perCall_after_delete :
    let b : FlatBook := ({} : FlatBook).revise "m" { price := some 1.5 }
    let tiers : List Tier := [{ modelRatio := 2.0, completionRatio := 1.0 }]
    let t : Tariff := ⟨"m", true, .tiered tiers⟩
    let s : Service Faulty := ⟨{}, ⟨b.toSettings, ∅⟩,
      [.served, .served, .failed .transport fun _ => false]⟩
    let left := (s.save Faulty.backend "" t).2
    (left.remote.store.Holds b ∧ TierRecord.OwnNames left.remote.store.records ∧
      (left.delete Faulty.backend "" "m").1 = .ok .tiered) ∧
      (left.delete Faulty.backend "" "m").2.registry.get? "m" ≠ none ∧
        ∀ input output, (left.delete Faulty.backend "" "m").2.registry.resolve "m" input output =
          .ok (.perCall 1.5) := by
  have ht : (⟨"m", true, .tiered [{ modelRatio := 2.0, completionRatio := 1.0 }]⟩ :
    Tariff).check = .ok () := by rfl
  intro b tiers t s left
  have hback : b.ReadsBack := fun i => by cases i <;> decide +kernel
  have hbefore : s.remote.store.Holds b := Store.holds_of_readsBack hback _
  have hremote : left.remote =
      ⟨⟨b.toSettings, (∅ : Table TierRecord).insert "m" ⟨"m", tiers, true⟩⟩, []⟩ := by
    change (s.save Faulty.backend "" t).2.remote = _
    rw [remote_save_of_read hbefore ht rfl]
    rfl
  have h : left.remote.store.Holds b := by
    rw [hremote]
    exact Store.holds_of_readsBack hback _
  have hown : TierRecord.OwnNames left.remote.store.records := by
    rw [hremote]
    exact TierRecord.ownNames_empty.insert ⟨"m", tiers, true⟩
  have hok : (left.delete Faulty.backend "" "m").1 = .ok .tiered :=
    ok_of_delete h (by rw [hremote]) (by rw [hremote]; rfl)
  have hget := (showsFlat_of_delete h hown hok).registry
  refine ⟨⟨h, hown, hok⟩, ?_, fun input output => Registry.resolve_of_tariff? hget input output⟩
  rw [hget]
  nofun

end Service

end TokenTariff
