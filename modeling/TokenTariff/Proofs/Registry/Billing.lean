import Mathlib
import TokenTariff.Proofs.Registry.FlatSaves
import TokenTariff.Proofs.Remote.Results
import TokenTariff.Proofs.Tier.Selection

/-!
# What a call is billed by

The answer of a registry that has just been loaded is fixed by the record of the model and its
entries in the three tables. A record with a tier decides alone; otherwise the price counts before
the model ratio, and a completion ratio never counts by itself. No registry that comes from loading,
over any store and after any operations, answers with ratios that lack the model ratio.
-/

namespace TokenTariff

/-- What a call of a model is billed by, from the records and the tables of a book. -/
inductive Bills (rs : Table TierRecord) (b : FlatBook) (model : String) (input output : UInt64) :
    Except ServiceError Charge → Prop where
  | disabled {r : TierRecord} (hr : rs.get? model = some r) (htiers : r.tiers ≠ [])
    (he : r.enabled = false) : Bills rs b model input output (.error (.disabled model))
  | tier {r : TierRecord} {k : ℕ} {t : Tier} (hr : rs.get? model = some r) (he : r.enabled = true)
    (ht : Tier.Counts r.tiers input output k t) :
    Bills rs b model input output (.ok (.byRatio (some t.modelRatio) (some t.completionRatio)))
  | unmatched {r : TierRecord} (hr : rs.get? model = some r) (htiers : r.tiers ≠ [])
    (he : r.enabled = true) (hno : ∀ t ∈ r.tiers, t.covers input output = false) :
    Bills rs b model input output (.error (.pricing (.noMatchingTier input output)))
  | price {p : Float} (hr : ∀ r, rs.get? model = some r → r.tiers = [])
    (hp : b.prices.get? model = some p) : Bills rs b model input output (.ok (.perCall p))
  | ratio {x : Float} (hr : ∀ r, rs.get? model = some r → r.tiers = [])
    (hp : b.prices.get? model = none) (hx : b.ratios.get? model = some x) :
    Bills rs b model input output (.ok (.byRatio (some x) (b.completions.get? model)))
  | unknown (hr : ∀ r, rs.get? model = some r → r.tiers = [])
    (hp : b.prices.get? model = none) (hx : b.ratios.get? model = none) :
    Bills rs b model input output (.error (.notFound model))

variable {rs : Table TierRecord} {b : FlatBook} {model : String} {input output : UInt64}
  {x : Except ServiceError Charge}

theorem exists_bills_of_no_tiers (hr : ∀ r, rs.get? model = some r → r.tiers = [])
    (b : FlatBook) (input output : UInt64) : ∃ x, Bills rs b model input output x := by
  cases hp : b.prices.get? model with
  | some p => exact ⟨_, .price hr hp⟩
  | none =>
    cases hx : b.ratios.get? model with
    | some x => exact ⟨_, .ratio hr hp hx⟩
    | none => exact ⟨_, .unknown hr hp hx⟩

/-- Every call is billed by something, or there is a reason why not. -/
theorem exists_bills (rs : Table TierRecord) (b : FlatBook) (model : String)
    (input output : UInt64) : ∃ x, Bills rs b model input output x := by
  cases hr : rs.get? model with
  | none => exact exists_bills_of_no_tiers (fun r h => by rw [hr] at h; cases h) b input output
  | some r =>
    by_cases htiers : r.tiers = []
    · refine exists_bills_of_no_tiers (fun r' h => ?_) b input output
      obtain rfl := Option.some.inj (hr.symm.trans h)
      exact htiers
    · cases he : r.enabled with
      | false => exact ⟨_, .disabled hr htiers he⟩
      | true =>
        cases hpick : Tier.pick? r.tiers input output with
        | some p => exact ⟨_, .tier hr he (Tier.pick?_eq_some_iff.1 hpick)⟩
        | none => exact ⟨_, .unmatched hr htiers he (Tier.pick?_eq_none_iff.1 hpick)⟩

/-- A registry that shows what the store makes up answers as the reference says. -/
theorem Bills.resolve (h : Bills rs b model input output x) {registry : Registry}
    (hget : registry.get? model = shown? rs b model) :
    registry.resolve model input output = x := by
  rw [Registry.resolve, hget]
  cases h with
  | disabled hr htiers he => simp [shown?_of_tiers hr htiers, he]
  | tier hr he ht =>
    have htiers := List.ne_nil_of_mem ht.mem
    simp only [shown?_of_tiers hr htiers, he, ↓reduceIte, Tariff.charge,
      Tier.pick?_eq_some_iff.2 ht]
    rfl
  | unmatched hr htiers he hno =>
    simp only [shown?_of_tiers hr htiers, he, ↓reduceIte, Tariff.charge,
      Tier.pick?_eq_none_iff.2 hno]
    rfl
  | price hr hp =>
    rw [shown?_of_no_tiers hr, FlatBook.tariff?, FlatBook.contains, Table.contains, hp]
    simp [Tariff.flat, FlatBook.rate, Tariff.charge, hp, Except.mapError]
  | ratio hr hp hx =>
    rw [shown?_of_no_tiers hr, FlatBook.tariff?, FlatBook.contains, Table.contains, Table.contains,
      hp, hx]
    simp [Tariff.flat, FlatBook.rate, Tariff.charge, hp, hx, Except.mapError]
  | unknown hr hp hx =>
    rw [shown?_of_no_tiers hr, FlatBook.tariff?, FlatBook.contains, Table.contains, Table.contains,
      hp, hx]
    rfl

/-! ### Every tariff that is loaded bills something -/

namespace Tariff

def Priced (t : Tariff) : Prop := ∀ rate, t.plan = .flat rate → rate.isSet = true

theorem Priced.charge_ne {t : Tariff} (h : t.Priced) (input output : UInt64) (c : Option Float) :
    t.charge input output ≠ .ok (.byRatio none c) := by
  obtain ⟨m, e, ⟨_ | p, _ | x, c'⟩ | tiers⟩ := t
  · cases h _ rfl
  · nofun
  · nofun
  · nofun
  · rw [charge]
    dsimp only
    split <;> nofun

end Tariff

theorem priced_catalog {tiered : List Tariff} (h : ∀ t ∈ tiered, t.kind = .tiered)
    (b : FlatBook) : ∀ t ∈ catalog tiered b, t.Priced := by
  intro t ht rate hrate
  rcases List.mem_append.1 ht with ht | ht
  · have hk := h t (List.mem_mergeSort.1 ht)
    rw [Tariff.kind, hrate] at hk
    cases hk
  · obtain ⟨model, hmodel, rfl⟩ := List.mem_map.1 ht
    cases hrate
    rw [← FlatBook.contains_eq_isSet]
    exact (b.mem_models model).1 (List.mem_filter.1 hmodel).1

namespace Session

theorem yields_load : load.Yields fun ts => ∀ t ∈ ts, t.Priced := by
  refine yields_bind _ fun records => yields_bind _ fun settings => yields_bind _ fun book => ?_
  refine priced_catalog (fun t ht => ?_) book
  obtain ⟨e, -, he⟩ := List.mem_filterMap.1 ht
  exact TierRecord.kind_of_tariff? he

theorem yields_reload : reload.Yields fun ts => ∀ t ∈ ts, t.Priced := yields_load.mapError _

theorem yields_save (t : Tariff) : (save t).Yields fun ts => ∀ t ∈ ts, t.Priced := by
  rw [save_eq]
  exact yields_bind _ fun _ => yields_bind _ fun _ => yields_bind _ fun _ => yields_reload

theorem yields_delete (model : String) :
    (delete model).Yields fun r => ∀ t ∈ r.2, t.Priced :=
  yields_bind _ fun _ => yields_reload.bind fun _ h => h

end Session

namespace Registry

def Priced (r : Registry) : Prop := ∀ t ∈ r.tariffs, t.Priced

theorem Priced.resolve_ne {r : Registry} (h : r.Priced) (model : String) (input output : UInt64)
    (c : Option Float) : r.resolve model input output ≠ .ok (.byRatio none c) := by
  intro heq
  rw [resolve] at heq
  cases hget : r.get? model with
  | none => simp [hget] at heq
  | some t =>
    have hne := (h t (List.mem_of_find?_eq_some hget)).charge_ne input output c
    simp only [hget] at heq
    split at heq
    · cases hcharge : t.charge input output with
      | error e => simp [hcharge, Except.mapError] at heq
      | ok charge =>
        simp only [hcharge, Except.mapError, Except.ok.injEq] at heq
        exact hne (heq ▸ hcharge)
    · cases heq

end Registry

namespace Service

variable {σ : Type}

theorem priced_perform (backend : Backend σ) (now : String) {s : Service σ}
    (h : s.registry.Priced) (op : Operation) :
    (s.perform backend now op).2.registry.Priced := by
  cases op with
  | refresh =>
    rw [perform_refresh]
    rcases hrun : Session.load.run backend id s.remote with ⟨e | ts, remote⟩
    · exact h
    · exact Session.yields_load.run backend id hrun
  | save t =>
    rw [perform_save]
    rcases hrun : (Session.save t).run backend ServiceError.remote s.remote with ⟨e | ts, remote⟩
    · exact h
    · exact (Session.yields_save t).run backend ServiceError.remote hrun
  | delete model =>
    rw [perform_delete]
    rcases hrun : (Session.delete model).run backend ServiceError.remote s.remote with
      ⟨e | r, remote⟩
    · exact h
    · exact (Session.yields_delete model).run backend ServiceError.remote hrun

theorem priced_performAll (backend : Backend σ) {s : Service σ} (h : s.registry.Priced)
    (ops : List (String × Operation)) : (s.performAll backend ops).2.registry.Priced := by
  induction ops generalizing s with
  | nil => exact h
  | cons e ops ih => exact ih (priced_perform backend e.1 h e.2)

/-- A registry that has been loaded answers as the reference says. Hence a record without tiers
hides nothing, and entries without a price or a model ratio bill nothing; nor does a registry ever
answer with ratios that lack the model ratio, whatever store and operations it comes from. -/
theorem resolve_iff_bills {s : Service Faulty} {b : FlatBook}
    (hbook : FlatBook.ofSettings s.remote.store.settings = .ok b)
    (hown : TierRecord.OwnNames s.remote.store.records) {now : String} {n : ℕ}
    (hok : (s.refresh Faulty.backend now).1 = .ok n) :
    let r := (s.refresh Faulty.backend now).2.registry
    (∀ model input output x, r.resolve model input output = x ↔
      Bills s.remote.store.records b model input output x) ∧
    (∀ model, (∀ record, s.remote.store.records.get? model = some record → record.tiers = []) →
      ∀ input output, r.resolve model input output = (b.rate model).bill model ∧
        (b.contains model = false → r.resolve model input output = .error (.notFound model))) ∧
    ∀ {σ : Type} (backend : Backend σ) (remote : σ) (ops : List (String × Operation)) model input
      output c, ((⟨{}, remote⟩ : Service σ).performAll backend ops).2.registry.resolve model input
        output ≠ .ok (.byRatio none c) := by
  intro r
  have hget := Registry.get?_of_listing hown (tariffs_of_refresh hbook hok)
  refine ⟨fun model input output x => ⟨fun h => ?_, fun h => h.resolve (hget model)⟩,
    fun model htiers input output => ?_, fun backend remote ops model input output c => ?_⟩
  · obtain ⟨y, hy⟩ := exists_bills s.remote.store.records b model input output
    rwa [← h, hy.resolve (hget model)]
  · have hflat := hget model
    rw [shown?_of_no_tiers htiers] at hflat
    refine ⟨Registry.resolve_of_tariff? hflat input output, fun hnot => ?_⟩
    rw [FlatBook.tariff?, hnot, if_neg Bool.false_ne_true] at hflat
    rw [Registry.resolve, hflat]
  · have hempty : (⟨{}, remote⟩ : Service _).registry.Priced := fun t ht =>
      absurd ht List.not_mem_nil
    exact (priced_performAll backend hempty ops).resolve_ne model input output c

/-- A record without tiers beside a model ratio, and a record that hides a price: its first tier
does not cover the call, and of the other two the earlier counts. -/
theorem resolve_beside_records :
    let tiers : List Tier := [
      { input := { upper := some 10 }, modelRatio := 1.0, completionRatio := 1.0, priority := 5 },
      { modelRatio := 2.0, completionRatio := 3.0 }, { modelRatio := 4.0, completionRatio := 5.0 }]
    let b : FlatBook := (({} : FlatBook).revise "m" { modelRatio := some 0.5 }).revise "t"
      { price := some 1.5 }
    let s : Service Faulty := ⟨{}, ⟨b.toSettings,
      ((∅ : Table TierRecord).insert "m" ⟨"m", [], true⟩).insert "t" ⟨"t", tiers, true⟩⟩, []⟩
    (FlatBook.ofSettings s.remote.store.settings = .ok b ∧
      TierRecord.OwnNames s.remote.store.records) ∧
      ∃ n, (s.refresh Faulty.backend "").1 = .ok n ∧
        (s.refresh Faulty.backend "").2.registry.resolve "m" 20 1 =
          .ok (.byRatio (some 0.5) none) ∧
        (s.refresh Faulty.backend "").2.registry.resolve "t" 20 1 =
          .ok (.byRatio (some 2.0) (some 3.0)) := by
  intro tiers b s
  have hback : b.ReadsBack := fun i => by cases i <;> decide +kernel
  have h : s.remote.store.Holds b := Store.holds_of_readsBack hback _
  have hown : TierRecord.OwnNames s.remote.store.records :=
    (TierRecord.ownNames_empty.insert ⟨"m", [], true⟩).insert ⟨"t", tiers, true⟩
  obtain ⟨n, hok⟩ := ok_of_refresh h rfl ""
  have hbills := (resolve_iff_bills h.book hown hok).1
  have hempty : ∀ r, s.remote.store.records.get? "m" = some r → r.tiers = [] := by
    rintro r ⟨⟩
    rfl
  have hcounts : Tier.Counts tiers 20 1 1 { modelRatio := 2.0, completionRatio := 3.0 } :=
    Tier.pick?_eq_some_iff.1 rfl
  refine ⟨⟨h.book, hown⟩, n, hok, (hbills ..).2 (.ratio hempty rfl rfl), (hbills ..).2 ?_⟩
  exact .tier (r := ⟨"t", tiers, true⟩) rfl rfl hcounts

end Service

end TokenTariff
