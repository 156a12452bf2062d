import Mathlib
import TokenTariff.Proofs.Catalog.Union
import TokenTariff.Proofs.Registry.Operations

/-!
# Names in the registry

Tariffs are looked up by their models. A flat tariff never repeats a model, neither that of another
flat one nor that of a tiered one, but a tiered tariff is named by what its record says, not by the
key that the record stands under. So the names are unique just when no two records with tiers say
the same model, and then it does not matter in which order the records come.
-/

namespace TokenTariff

namespace TierRecord

/-- No two records with tiers say the same model. -/
def UniqueModels (rs : Table TierRecord) : Prop :=
  ∀ e ∈ rs.entries, ∀ e' ∈ rs.entries, e.2.tiers ≠ [] → e'.2.tiers ≠ [] →
    e.2.model = e'.2.model → e.1 = e'.1

variable {rs : Table TierRecord}

theorem tiers_of_tariff? {r : TierRecord} {t : Tariff} (h : r.tariff? = some t) : r.tiers ≠ [] := by
  rw [tariff?_eq] at h
  split at h
  · cases h
  · rename_i hne
    simpa using hne

theorem exists_tariff? {r : TierRecord} (h : r.tiers ≠ []) : ∃ t, r.tariff? = some t := by
  rw [tariff?_eq, if_neg (by simpa using h)]
  exact ⟨_, rfl⟩

theorem nodup_models_tariffs_iff :
    ((tariffs rs).map (·.model)).Nodup ↔ UniqueModels rs := by
  rw [List.Nodup, List.pairwise_map, tariffs, List.pairwise_filterMap]
  constructor
  · intro h e he e' he' htiers htiers' hmodel
    by_contra hkey
    obtain ⟨t, ht⟩ := exists_tariff? htiers
    obtain ⟨t', ht'⟩ := exists_tariff? htiers'
    have hsymm : Std.Symm fun a b : String × TierRecord => ∀ t, a.2.tariff? = some t →
        ∀ t', b.2.tariff? = some t' → t.model ≠ t'.model :=
      ⟨fun a b hab t ht t' ht' => (hab t' ht' t ht).symm⟩
    refine h.forall he he' (fun h => hkey (congrArg Prod.fst h)) t ht t' ht' ?_
    rw [model_of_tariff? ht, model_of_tariff? ht', hmodel]
  · intro h
    refine rs.ascending.imp_of_mem fun {e e'} he he' hlt t ht t' ht' hmodel => ?_
    rw [model_of_tariff? ht, model_of_tariff? ht'] at hmodel
    have hkey := h e he e' he' (tiers_of_tariff? ht) (tiers_of_tariff? ht') hmodel
    exact String.lt_irrefl _ (hkey ▸ hlt)

end TierRecord

namespace Service

variable {s : Service Faulty} {b : FlatBook}

/-- After loading the names are unique just when no two records with tiers say the same model. Then
the tariffs are the same in whatever order the records come, and each is the one that its model is
looked up as. -/
theorem nodup_models_of_refresh (h : FlatBook.ofSettings s.remote.store.settings = .ok b)
    {now : String} {n : ℕ} (hok : (s.refresh Faulty.backend now).1 = .ok n) :
    let r := (s.refresh Faulty.backend now).2.registry
    ((r.tariffs.map (·.model)).Nodup ↔ TierRecord.UniqueModels s.remote.store.records) ∧
      (TierRecord.UniqueModels s.remote.store.records →
        (∀ es : List (String × TierRecord), es.Perm s.remote.store.records.toList →
          catalog (es.filterMap fun e => e.2.tariff?) b = r.tariffs) ∧
        ∀ t ∈ r.tariffs, r.get? t.model = some t) := by
  intro r
  have hr : r.tariffs = catalog (TierRecord.tariffs s.remote.store.records) b :=
    tariffs_of_refresh h hok
  rw [hr, nodup_models_catalog_iff, TierRecord.nodup_models_tariffs_iff]
  refine ⟨Iff.rfl, fun hunique => ?_⟩
  have hu := TierRecord.nodup_models_tariffs_iff.2 hunique
  refine ⟨fun es hes => ?_, fun t ht => ?_⟩
  · have hperm := hes.filterMap fun e => e.2.tariff?
    exact catalog_congr_perm hperm ((hperm.map (·.model)).nodup_iff.2 hu) b
  · rw [Registry.get?, hr]
    exact find?_of_nodup_models (nodup_models_catalog_iff.2 hu) ht

/-- A record under the name of its model beside one without tiers that says the same model: the
names are unique. -/
theorem nodup_models_beside_empty_record :
    let rs := ((∅ : Table TierRecord).insert "a" ⟨"m", [], true⟩).insert "m"
      ⟨"m", [{ modelRatio := 2.0, completionRatio := 1.0 }], true⟩
    let b := ({} : FlatBook).revise "m" { price := some 1.5 }
    let s : Service Faulty := ⟨{}, ⟨⟨b.toSettings, rs⟩, []⟩⟩
    let r := (s.refresh Faulty.backend "").2.registry
    (r.tariffs.map (·.model)).Nodup ∧ ∀ t ∈ r.tariffs, r.get? t.model = some t := by
  intro rs b s r
  have hback : b.ReadsBack := fun i => by cases i <;> decide +kernel
  have h : s.remote.store.Holds b := Store.holds_of_readsBack hback _
  obtain ⟨n, hok⟩ := ok_of_refresh h rfl ""
  obtain ⟨hnodup, hunique⟩ := nodup_models_of_refresh h.book hok
  have hu : TierRecord.UniqueModels rs := by
    intro e he e' he' htiers htiers' _
    have hentries : rs.entries = [("a", ⟨"m", [], true⟩),
        ("m", ⟨"m", [{ modelRatio := 2.0, completionRatio := 1.0 }], true⟩)] := by rfl
    rw [hentries] at he he'
    simp only [List.mem_cons, List.not_mem_nil, or_false] at he he'
    rcases he with rfl | rfl <;> rcases he' with rfl | rfl <;>
      first | rfl | exact absurd rfl htiers | exact absurd rfl htiers'
  exact ⟨hnodup.2 hu, (hunique hu).2⟩

/-- Two records under different keys that say the same model are both listed, and which of them the
model is looked up as depends on their order. -/
theorem repeated_model_under_two_keys :
    let rs := ((∅ : Table TierRecord).insert "a"
        ⟨"m", [{ modelRatio := 2.0, completionRatio := 1.0 }], true⟩).insert "b"
      ⟨"m", [{ modelRatio := 2.0, completionRatio := 1.0 }], false⟩
    let s : Service Faulty := ⟨{}, ⟨⟨[], rs⟩, []⟩⟩
    let r := (s.refresh Faulty.backend "").2.registry
    FlatBook.ofSettings s.remote.store.settings = .ok {} ∧
      (s.refresh Faulty.backend "").1 = .ok 2 ∧ ¬ (r.tariffs.map (·.model)).Nodup ∧
      (r.get? "m").map (·.enabled) = some true ∧
      ((catalog (rs.toList.reverse.filterMap fun e => e.2.tariff?) {}).find?
        (·.model == "m")).map (·.enabled) = some false := by
  intro rs s r
  have hcatalog (l : List Tariff) (h : ∀ t ∈ l, t.model = "m") : catalog l {} = l := by
    have hle : l.Pairwise fun a b => a.model ≤ b.model :=
      List.pairwise_of_forall_mem_list fun a ha b hb =>
        ((h a ha).trans (h b hb).symm).le
    rw [catalog_of_pairwise hle]
    exact List.append_nil l
  have hr : r.tariffs = TierRecord.tariffs rs := hcatalog _ (by decide)
  have hcount : (s.refresh Faulty.backend "").1 = .ok r.tariffs.length := by rfl
  have hmodels : (TierRecord.tariffs rs).map (·.model) = ["m", "m"] := by rfl
  refine ⟨rfl, ?_, ?_, ?_, ?_⟩
  · rw [hcount, hr]
    rfl
  · rw [hr, hmodels]
    decide
  · rw [Registry.get?, hr]
    rfl
  · rw [hcatalog _ (by decide)]
    rfl

end Service

end TokenTariff
