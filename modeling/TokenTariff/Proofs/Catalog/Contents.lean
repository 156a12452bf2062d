import Mathlib
import TokenTariff.Proofs.Catalog.Shown

/-!
# The catalog as one table

Records and tables together are a finite map from models to tariffs. The catalog lists that map: the
tiered tariffs in the order of their models, and after them the flat ones in the order of theirs.
-/

namespace TokenTariff

def ordered (ts : Table Tariff) : List Tariff :=
  (ts.entries.map (·.2)).filter (·.kind = .tiered) ++ (ts.entries.map (·.2)).filter (·.kind = .flat)

def contents (rs : Table TierRecord) (b : FlatBook) : Table Tariff :=
  .tabulate (rs.names ++ b.models) (shown? rs b)

variable {rs : Table TierRecord} {b : FlatBook}

theorem get?_contents (rs : Table TierRecord) (b : FlatBook) (model : String) :
    (contents rs b).get? model = shown? rs b model := by
  rw [contents, Table.get?_tabulate]
  split
  · rfl
  · rename_i hmem
    rw [List.mem_append, not_or, Table.mem_names, FlatBook.mem_models] at hmem
    have hrec : rs.get? model = none := by simpa [Table.contains] using hmem.1
    rw [shown?, hrec, FlatBook.tariff?, if_neg hmem.2]
    rfl

theorem contents_reread (rs : Table TierRecord) (b : FlatBook) :
    contents rs b.reread = (contents rs b).map Tariff.settled := by
  refine Table.ext fun model => ?_
  rw [get?_contents, Table.get?_map, get?_contents, shown?_reread]

theorem model_of_shown? (h : TierRecord.OwnNames rs) {model : String} {t : Tariff}
    (ht : shown? rs b model = some t) : t.model = model := by
  rw [← find?_catalog h] at ht
  simpa using List.find?_some ht

theorem eq_of_ascending {l l' : List Tariff} (h : l.Pairwise fun a b => a.model < b.model)
    (h' : l'.Pairwise fun a b => a.model < b.model) (hmem : ∀ t, t ∈ l ↔ t ∈ l') : l = l' := by
  have hnodup {l : List Tariff} (h : l.Pairwise fun a b => a.model < b.model) : l.Nodup := by
    apply h.imp
    rintro a b hlt rfl
    exact String.lt_irrefl _ hlt
  refine List.Perm.eq_of_pairwise (fun a b _ _ hab hba => absurd hba (String.lt_asymm hab)) h h' ?_
  exact (List.perm_ext_iff_of_nodup (hnodup h) (hnodup h')).2 hmem

theorem pairwise_values {ts : Table Tariff} (h : ∀ m t, ts.get? m = some t → t.model = m) :
    (ts.entries.map (·.2)).Pairwise fun a b => a.model < b.model := by
  rw [List.pairwise_map]
  refine ts.ascending.imp_of_mem fun {a b} ha hb hab => ?_
  rw [h _ _ ((ts.mem_entries ..).1 ha), h _ _ ((ts.mem_entries ..).1 hb)]
  exact hab

theorem mem_values {ts : Table Tariff} (h : ∀ m t, ts.get? m = some t → t.model = m)
    (t : Tariff) : t ∈ ts.entries.map (·.2) ↔ ts.get? t.model = some t := by
  rw [← ts.mem_entries, List.mem_map]
  constructor
  · rintro ⟨e, he, rfl⟩
    rwa [h _ _ ((ts.mem_entries ..).1 he)]
  · exact fun ht => ⟨_, ht, rfl⟩

theorem shown?_tiered {t : Tariff} (model : String) (hk : t.kind = .tiered) :
    shown? rs b model = some t ↔ (rs.get? model).bind TierRecord.tariff? = some t := by
  rw [shown?, Option.or_eq_some_iff]
  apply or_iff_left
  intro h
  rw [FlatBook.kind_of_tariff? h.2] at hk
  cases hk

theorem shown?_flat {t : Tariff} (model : String) (hk : t.kind = .flat) :
    shown? rs b model = some t ↔
      (rs.get? model).bind TierRecord.tariff? = none ∧ b.tariff? model = some t := by
  rw [shown?, Option.or_eq_some_iff]
  apply or_iff_right
  intro h
  obtain ⟨r, -, hr⟩ := Option.bind_eq_some_iff.1 h
  rw [TierRecord.kind_of_tariff? hr] at hk
  cases hk

theorem mem_tariffs (h : TierRecord.OwnNames rs) (b : FlatBook) (t : Tariff) :
    t ∈ TierRecord.tariffs rs ↔ shown? rs b t.model = some t ∧ t.kind = .tiered := by
  constructor
  · intro ht
    obtain ⟨e, he, het⟩ := List.mem_filterMap.1 ht
    have hk := TierRecord.kind_of_tariff? het
    refine ⟨(shown?_tiered _ hk).2 ?_, hk⟩
    rw [TierRecord.model_of_tariff? het, h e he, (rs.mem_entries e.1 e.2).1 he]
    exact het
  · rintro ⟨hs, hk⟩
    obtain ⟨r, hr, hrt⟩ := Option.bind_eq_some_iff.1 ((shown?_tiered _ hk).1 hs)
    exact List.mem_filterMap.2 ⟨_, (rs.mem_entries _ r).2 hr, hrt⟩

theorem mem_flatTariffs (h : TierRecord.OwnNames rs) (b : FlatBook) (t : Tariff) :
    t ∈ b.tariffs ((TierRecord.tariffs rs).map (·.model)) ↔
      shown? rs b t.model = some t ∧ t.kind = .flat := by
  have hskip (model : String) : model ∉ (TierRecord.tariffs rs).map (·.model) ↔
      (rs.get? model).bind TierRecord.tariff? = none := by
    rw [← TierRecord.find?_tariffs h, List.find?_eq_none, List.mem_map]
    simp
  rw [FlatBook.tariffs, List.mem_map]
  constructor
  · rintro ⟨model, hmem, rfl⟩
    rw [List.mem_filter, FlatBook.mem_models] at hmem
    refine ⟨(shown?_flat _ rfl).2 ⟨(hskip model).1 (by simpa using hmem.2), ?_⟩, rfl⟩
    exact if_pos hmem.1
  · rintro ⟨hs, hk⟩
    obtain ⟨hnone, hb⟩ := (shown?_flat _ hk).1 hs
    obtain ⟨hcontains, heq⟩ := FlatBook.tariff?_eq_some_iff.1 hb
    have hnot := (hskip t.model).2 hnone
    refine ⟨t.model, ?_, heq⟩
    rw [List.mem_filter, FlatBook.mem_models]
    exact ⟨hcontains, by simpa using hnot⟩

theorem pairwise_flatTariffs (b : FlatBook) (skip : List String) :
    (b.tariffs skip).Pairwise fun a b => a.model < b.model := by
  have hmodels : b.models.Pairwise (· < ·) := List.pairwise_map.2 (Table.ascending _)
  exact List.pairwise_map.2 (hmodels.filter _)

/-- The catalog lists the contents. -/
theorem catalog_eq_ordered (h : TierRecord.OwnNames rs) (b : FlatBook) :
    catalog (TierRecord.tariffs rs) b = ordered (contents rs b) := by
  have hmodel : ∀ m t, (contents rs b).get? m = some t → t.model = m := fun m t ht =>
    model_of_shown? h (b := b) (by rwa [get?_contents] at ht)
  have hpairwise := pairwise_values hmodel
  have hmem (kind : PlanKind) (t : Tariff) :
      t ∈ ((contents rs b).entries.map (·.2)).filter (·.kind = kind) ↔
        shown? rs b t.model = some t ∧ t.kind = kind := by
    rw [List.mem_filter, mem_values hmodel, get?_contents, decide_eq_true_iff]
  rw [catalog_eq h, ordered]
  congr 1
  · apply eq_of_ascending (TierRecord.pairwise_tariffs h) (hpairwise.filter _)
    intro t
    rw [mem_tariffs h b, hmem]
  · apply eq_of_ascending (pairwise_flatTariffs b _) (hpairwise.filter _)
    intro t
    rw [mem_flatTariffs h b, hmem]

end TokenTariff
