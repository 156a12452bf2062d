import Mathlib
import TokenTariff.Proofs.Catalog.Contents
import TokenTariff.Proofs.Text.ByteOrder

/-!
# The catalog as a union

Tiered tariffs come in any order, the flat ones from three tables of which two say which models
there are. The catalog puts them into one order: when no two of the tiered ones have the same model,
every model has one place, and nothing depends on how the tiered ones came.
-/

namespace TokenTariff

def ModelsAscend (l : List Tariff) : Prop :=
  l.Pairwise fun a b => Utf8.encode a.model.toList < Utf8.encode b.model.toList

variable {l l' tiered : List Tariff} {b : FlatBook}

theorem modelsAscend_iff : ModelsAscend l ↔ l.Pairwise fun a b => a.model < b.model := by
  simp only [ModelsAscend, Utf8.lt_iff_encode_lt]

theorem nodup_models_of_pairwise (h : l.Pairwise fun a b => a.model < b.model) :
    (l.map (·.model)).Nodup := by
  refine List.pairwise_map.2 (h.imp fun hab heq => ?_)
  exact String.lt_irrefl _ (heq ▸ hab)

/-- A flat tariff of the catalog is that of a model with a price or a ratio which has no tiers. -/
theorem mem_tariffs_skip_iff {skip : List String} {t : Tariff} :
    t ∈ b.tariffs skip ↔
      (b.prices.contains t.model ∨ b.ratios.contains t.model) ∧ t.model ∉ skip ∧
        t = Tariff.flat t.model (b.rate t.model) := by
  rw [FlatBook.tariffs, List.mem_map]
  constructor
  · rintro ⟨m, hm, rfl⟩
    obtain ⟨hmem, hskip⟩ := List.mem_filter.1 hm
    rw [FlatBook.mem_models, FlatBook.contains, Bool.or_eq_true] at hmem
    have hnot : m ∉ skip := by simpa using hskip
    exact ⟨hmem, hnot, rfl⟩
  · rintro ⟨hmem, hskip, heq⟩
    refine ⟨t.model, List.mem_filter.2 ⟨?_, by simpa using hskip⟩, heq.symm⟩
    rw [FlatBook.mem_models, FlatBook.contains, Bool.or_eq_true]
    exact hmem

theorem nodup_models_catalog_iff :
    ((catalog l b).map (·.model)).Nodup ↔ (l.map (·.model)).Nodup := by
  have hperm : ((l.mergeSort fun a b => decide (a.model ≤ b.model)).map (·.model)).Perm
      (l.map (·.model)) := (List.mergeSort_perm l _).map _
  simp only [catalog, List.map_append]
  rw [List.nodup_append', hperm.nodup_iff, and_iff_left]
  refine ⟨nodup_models_of_pairwise (pairwise_flatTariffs b _), fun m hm hflat => ?_⟩
  obtain ⟨t, ht, rfl⟩ := List.mem_map.1 hflat
  exact (mem_tariffs_skip_iff.1 ht).2.1 hm

theorem pairwise_mergeSort (hu : (l.map (·.model)).Nodup) :
    (l.mergeSort fun a b => decide (a.model ≤ b.model)).Pairwise fun a b => a.model < b.model := by
  have hsorted : (l.mergeSort fun a b => decide (a.model ≤ b.model)).Pairwise
      fun a b => decide (a.model ≤ b.model) = true := List.pairwise_mergeSort
    (fun a b c hab hbc => by
      rw [decide_eq_true_iff] at *
      exact String.le_trans hab hbc)
    (fun a b => by
      rw [Bool.or_eq_true, decide_eq_true_iff, decide_eq_true_iff]
      exact String.le_total _ _) l
  have hnodup := (((List.mergeSort_perm l fun a b => decide (a.model ≤ b.model)).map
    (·.model)).nodup_iff).2 hu
  refine (hsorted.and (List.pairwise_map.1 hnodup)).imp fun {a b} hab => ?_
  exact lt_of_le_of_ne (of_decide_eq_true hab.1) hab.2

/-- When no model occurs twice, the tiered tariffs may come in any order. -/
theorem catalog_congr_perm (h : l.Perm l') (hu : (l.map (·.model)).Nodup) (b : FlatBook) :
    catalog l b = catalog l' b := by
  have hu' := (h.map (·.model)).nodup_iff.1 hu
  have hsorted := eq_of_ascending (pairwise_mergeSort hu) (pairwise_mergeSort hu') fun t => by
    rw [List.mem_mergeSort, List.mem_mergeSort, h.mem_iff]
  simp only [catalog, hsorted]

theorem find?_of_nodup_models (hu : (l.map (·.model)).Nodup) {t : Tariff} (ht : t ∈ l) :
    l.find? (·.model == t.model) = some t := by
  induction l with
  | nil => exact absurd ht List.not_mem_nil
  | cons t' l ih =>
    obtain ⟨hne, hu⟩ := List.nodup_cons.1 hu
    rcases List.mem_cons.1 ht with rfl | ht
    · simp
    · have hmodel : t'.model ≠ t.model := fun h => hne (List.mem_map.2 ⟨t, ht, h.symm⟩)
      rw [List.find?_cons, beq_false_of_ne hmodel]
      exact ih hu ht

/-- The catalog is an ordered union in which a tiered tariff displaces the flat one of its model:
first the tiered ones as they are, then one for each model of the first two tables that has no
tiers, each part ascending, no model twice, and the same for every order of the tiered ones. -/
theorem catalog_is_ordered_union (hu : (tiered.map (·.model)).Nodup) (b : FlatBook) :
    (∃ first flats, catalog tiered b = first ++ flats ∧
      first.Perm tiered ∧ ModelsAscend first ∧ ModelsAscend flats ∧
      ∀ t, t ∈ flats ↔
        (b.prices.contains t.model ∨ b.ratios.contains t.model) ∧
          t.model ∉ tiered.map (·.model) ∧
          t = ⟨t.model, true, .flat ⟨b.prices.get? t.model, b.ratios.get? t.model,
            b.completions.get? t.model⟩⟩) ∧
      ((catalog tiered b).map (·.model)).Nodup ∧
      ∀ tiered', tiered'.Perm tiered → catalog tiered' b = catalog tiered b := by
  have hperm := List.mergeSort_perm tiered fun a b => decide (a.model ≤ b.model)
  refine ⟨⟨_, _, rfl, hperm, modelsAscend_iff.2 (pairwise_mergeSort hu),
    modelsAscend_iff.2 (pairwise_flatTariffs b _), fun t => ?_⟩,
    nodup_models_catalog_iff.2 hu, fun tiered' h => (catalog_congr_perm h.symm hu b).symm⟩
  rw [mem_tariffs_skip_iff, (hperm.map (·.model)).mem_iff]
  rfl

/-- Two tiered tariffs, not in the order of their bytes, one of which displaces a price. -/
theorem union_of_two_tiered :
    let tier : Tier := { modelRatio := 2.0, completionRatio := 1.0 }
    let tiered : List Tariff := [⟨"é", true, .tiered [tier]⟩, ⟨"z", false, .tiered [tier]⟩]
    let b := (({} : FlatBook).revise "é" { price := some 1.5 }).revise "a" { modelRatio := some 2.0 }
    (tiered.map (·.model)).Nodup ∧ (catalog tiered b).map (·.model) = ["z", "é", "a"] := by
  intro tier tiered b
  have hu : (tiered.map (·.model)).Nodup := by decide
  obtain ⟨-, -, hperm⟩ := catalog_is_ordered_union hu b
  refine ⟨hu, ?_⟩
  rw [← hperm _ tiered.reverse_perm, catalog_of_pairwise (by decide)]
  rfl

end TokenTariff
