import Mathlib
import TokenTariff.Catalog.FlatBook
import TokenTariff.Proofs.Catalog.Rates
import TokenTariff.Registry.Basic
import TokenTariff.Remote.Record

/-!
# What a catalog shows

For each model the catalog shows one tariff at most: that of its record, if the record has a tier,
and otherwise the one that the tables of the book make up. What a call is billed by depends on that
tariff alone. When the tables are written and read again, only the numbers of flat tariffs can
change.
-/

namespace TokenTariff

/-- The plan as it comes out of the store: the tables give a flat rate as its texts are read. -/
def Plan.settled : Plan → Plan
  | .flat r => .flat r.reread
  | .tiered tiers => .tiered tiers

namespace Tariff

def settled (t : Tariff) : Tariff := { t with plan := t.plan.settled }

theorem settled_of_tiered {t : Tariff} (h : t.kind = .tiered) : t.settled = t := by
  obtain ⟨m, e, r | ts⟩ := t
  · cases h
  · rfl

theorem settled_of_readsBack {t : Tariff} (h : ∀ r, t.plan = .flat r → r.ReadsBack) :
    t.settled = t := by
  obtain ⟨m, e, r | ts⟩ := t
  · exact congrArg (fun r => (⟨m, e, .flat r⟩ : Tariff)) (h r rfl).reread_eq
  · rfl

end Tariff

namespace TierRecord

def tariff? (r : TierRecord) : Option Tariff := r.toTariff.toOption

def tariffs (rs : Table TierRecord) : List Tariff := rs.toList.filterMap fun e => e.2.tariff?

/-- Every record stands under the name of its own model. -/
def OwnNames (rs : Table TierRecord) : Prop := ∀ e ∈ rs.entries, e.2.model = e.1

theorem tariff?_eq (r : TierRecord) :
    r.tariff? = if r.tiers.isEmpty then none else some ⟨r.model, r.enabled, .tiered r.tiers⟩ := by
  unfold tariff? toTariff Tariff.tiered
  split <;> rfl

theorem model_of_tariff? {r : TierRecord} {t : Tariff} (h : r.tariff? = some t) :
    t.model = r.model := by
  rw [tariff?_eq] at h
  split at h
  · cases h
  · cases h
    rfl

theorem kind_of_tariff? {r : TierRecord} {t : Tariff} (h : r.tariff? = some t) :
    t.kind = .tiered := by
  rw [tariff?_eq] at h
  split at h
  · cases h
  · cases h
    rfl

variable {rs : Table TierRecord}

theorem ownNames_empty : OwnNames ∅ := fun _ he => absurd he List.not_mem_nil

theorem OwnNames.insert (h : OwnNames rs) (r : TierRecord) :
    OwnNames (rs.insert r.model r) := fun e he => by
  rcases Table.mem_insert_entries he with rfl | he
  · rfl
  · exact h e he

theorem OwnNames.erase (h : OwnNames rs) (model : String) : OwnNames (rs.erase model) :=
  fun e he => h e (Table.mem_erase_entries he)

theorem pairwise_tariffs (h : OwnNames rs) :
    (tariffs rs).Pairwise fun a b => a.model < b.model := by
  refine List.Pairwise.filterMap _ (fun a b hab t ht t' ht' => ?_)
    (rs.ascending.imp_of_mem (S := fun a b => a.2.model < b.2.model) fun {a b} ha hb hab => ?_)
  · rw [model_of_tariff? ht, model_of_tariff? ht']
    exact hab
  · rw [h a ha, h b hb]
    exact hab

theorem find?_tariffs (h : OwnNames rs) (model : String) :
    (tariffs rs).find? (·.model == model) = (rs.get? model).bind tariff? := by
  obtain ⟨l, hasc⟩ := rs
  change (l.filterMap fun e => e.2.tariff?).find? _ = (Entries.get? model l).bind tariff?
  induction l with
  | nil => rfl
  | cons e rest ih =>
    obtain ⟨k, r⟩ := e
    obtain ⟨hlt, hrest⟩ := List.pairwise_cons.1 hasc
    have hk : r.model = k := h _ List.mem_cons_self
    have ih := ih hrest fun e he => h e (List.mem_cons_of_mem _ he)
    have hmiss : k = model → Entries.get? model rest = none := by
      rintro rfl
      rw [← Option.not_isSome_iff_eq_none, ← Entries.mem_names_iff]
      intro hmem
      obtain ⟨e, he, hek⟩ := List.mem_map.1 hmem
      exact String.lt_irrefl _ (hek ▸ hlt e he)
    rw [List.filterMap_cons, Entries.get?]
    cases ht : r.tariff? with
    | none =>
      rw [ih]
      split
      · rename_i hkm
        rw [hmiss hkm, Option.bind_some, ht]
        rfl
      · rfl
    | some t =>
      rw [List.find?_cons, model_of_tariff? ht, hk]
      by_cases hkm : k = model
      · simp [hkm, ht]
      · rw [beq_false_of_ne hkm, if_neg hkm]
        exact ih

end TierRecord

namespace FlatBook

def tariff? (b : FlatBook) (model : String) : Option Tariff :=
  if b.contains model then some (Tariff.flat model (b.rate model)) else none

variable {b : FlatBook} {model : String} {t : Tariff}

theorem tariff?_eq_some_iff :
    b.tariff? model = some t ↔ b.contains model = true ∧ Tariff.flat model (b.rate model) = t := by
  simp [tariff?]

theorem tariff?_eq_none_iff : b.tariff? model = none ↔ b.contains model = false := by
  rw [tariff?]
  split
  · rename_i h
    simp [h]
  · rename_i h
    simp [h]

theorem kind_of_tariff? (h : b.tariff? model = some t) : t.kind = .flat := by
  obtain ⟨-, rfl⟩ := tariff?_eq_some_iff.1 h
  rfl

theorem tariff?_reread (b : FlatBook) (model : String) :
    b.reread.tariff? model = (b.tariff? model).map Tariff.settled := by
  rw [tariff?, tariff?, contains_reread, rate_reread]
  split <;> rfl

theorem mem_foldl_insert (l : List String) (t : Table Unit) (k : String) :
    k ∈ (l.foldl (fun t n => t.insert n ()) t).names ↔ k ∈ l ∨ k ∈ t.names := by
  induction l generalizing t with
  | nil => simp
  | cons n l ih =>
    rw [List.foldl_cons, ih, Table.mem_names, Table.mem_names, Table.contains, Table.contains,
      Table.get?_insert]
    by_cases hn : n = k
    · simp [hn]
    · simp [hn, Ne.symm hn]

theorem mem_models (b : FlatBook) (model : String) :
    model ∈ b.models ↔ b.contains model = true := by
  have hempty : model ∉ (∅ : Table Unit).names := List.not_mem_nil
  rw [models, mem_foldl_insert, mem_foldl_insert, Table.mem_names, Table.mem_names, contains,
    Bool.or_eq_true]
  simp only [hempty, or_false]
  exact or_comm

theorem find?_flat (b : FlatBook) (l : List String) (model : String) :
    (l.map fun m => Tariff.flat m (b.rate m)).find? (·.model == model) =
      if model ∈ l then some (Tariff.flat model (b.rate model)) else none := by
  induction l with
  | nil => rfl
  | cons m l ih =>
    rw [List.map_cons, List.find?_cons, ih]
    change (match m == model with | true => _ | false => _) = _
    by_cases hm : m = model
    · simp [hm]
    · rw [beq_false_of_ne hm]
      simp [Ne.symm hm]

theorem find?_tariffs (b : FlatBook) {skip : List String} {model : String} (h : model ∉ skip) :
    (b.tariffs skip).find? (·.model == model) = b.tariff? model := by
  rw [tariffs, find?_flat, tariff?]
  simp [mem_models, h]

end FlatBook

def shown? (rs : Table TierRecord) (b : FlatBook) (model : String) : Option Tariff :=
  ((rs.get? model).bind TierRecord.tariff?).or (b.tariff? model)

theorem shown?_of_tiers {rs : Table TierRecord} {model : String} {r : TierRecord}
    (h : rs.get? model = some r) (htiers : r.tiers ≠ []) (b : FlatBook) :
    shown? rs b model = some ⟨r.model, r.enabled, .tiered r.tiers⟩ := by
  have hsome : r.tiers.isEmpty = false := List.isEmpty_eq_false_iff.2 htiers
  rw [shown?, h, Option.bind_some, TierRecord.tariff?_eq, hsome, if_neg Bool.false_ne_true]
  rfl

/-- Without a record, or with one that has no tiers, only the book counts. -/
theorem shown?_of_no_tiers {rs : Table TierRecord} {model : String}
    (h : ∀ r, rs.get? model = some r → r.tiers = []) (b : FlatBook) :
    shown? rs b model = b.tariff? model := by
  rw [shown?]
  cases hr : rs.get? model with
  | none => rfl
  | some r =>
    rw [Option.bind_some, TierRecord.tariff?_eq, h r hr]
    rfl

theorem shown?_reread (rs : Table TierRecord) (b : FlatBook) (model : String) :
    shown? rs b.reread model = (shown? rs b model).map Tariff.settled := by
  rw [shown?, shown?, FlatBook.tariff?_reread]
  cases h : (rs.get? model).bind TierRecord.tariff? with
  | none => rw [Option.none_or, Option.none_or]
  | some t =>
    obtain ⟨r, -, hr⟩ := Option.bind_eq_some_iff.1 h
    rw [Option.some_or, Option.some_or, Option.map_some,
      Tariff.settled_of_tiered (TierRecord.kind_of_tariff? hr)]

theorem catalog_of_pairwise {l : List Tariff} (h : l.Pairwise fun a b => a.model ≤ b.model)
    (b : FlatBook) : catalog l b = l ++ b.tariffs (l.map (·.model)) := by
  have hsorted : l.mergeSort (fun a b => decide (a.model ≤ b.model)) = l :=
    List.mergeSort_of_pairwise (h.imp fun hab => decide_eq_true hab)
  simp only [catalog, hsorted]

theorem catalog_eq {rs : Table TierRecord} (h : TierRecord.OwnNames rs) (b : FlatBook) :
    catalog (TierRecord.tariffs rs) b =
      TierRecord.tariffs rs ++ b.tariffs ((TierRecord.tariffs rs).map (·.model)) :=
  catalog_of_pairwise ((TierRecord.pairwise_tariffs h).imp fun hab =>
    String.not_lt.1 (String.lt_asymm hab)) b

/-- The catalog shows one tariff for a model. -/
theorem find?_catalog {rs : Table TierRecord} (h : TierRecord.OwnNames rs) (b : FlatBook)
    (model : String) :
    (catalog (TierRecord.tariffs rs) b).find? (·.model == model) = shown? rs b model := by
  rw [catalog_eq h, List.find?_append, TierRecord.find?_tariffs h, shown?]
  cases hm : (rs.get? model).bind TierRecord.tariff? with
  | some t => rfl
  | none =>
    rw [Option.none_or, Option.none_or]
    refine FlatBook.find?_tariffs b fun hskip => ?_
    obtain ⟨t, ht, rfl⟩ := List.mem_map.1 hskip
    rw [← TierRecord.find?_tariffs h] at hm
    exact List.find?_eq_none.1 hm t ht (beq_self_eq_true _)

/-- Without a record of the model only the book counts, wherever the other records stand. -/
theorem find?_catalog_of_ne {rs : Table TierRecord} {model : String}
    (h : ∀ e ∈ rs.entries, e.2.model ≠ model) (b : FlatBook) :
    (catalog (TierRecord.tariffs rs) b).find? (·.model == model) = b.tariff? model := by
  unfold catalog
  dsimp only
  generalize hsorted : (TierRecord.tariffs rs).mergeSort _ = sorted
  have hne : ∀ t ∈ sorted, t.model ≠ model := by
    intro t ht
    rw [← hsorted, List.mem_mergeSort] at ht
    obtain ⟨e, he, het⟩ := List.mem_filterMap.1 ht
    rw [TierRecord.model_of_tariff? het]
    exact h e he
  have hnone : sorted.find? (·.model == model) = none :=
    List.find?_eq_none.2 fun t ht => by simpa using hne t ht
  rw [List.find?_append, hnone, Option.none_or]
  refine FlatBook.find?_tariffs b fun hskip => ?_
  obtain ⟨t, ht, hm⟩ := List.mem_map.1 hskip
  exact hne t ht hm

namespace Registry

/-- What a call is billed by depends on the tariff of its model alone. -/
theorem resolve_congr {r r' : Registry} {model : String} (h : r.get? model = r'.get? model)
    (input output : UInt64) : r.resolve model input output = r'.resolve model input output := by
  rw [resolve, resolve, h]

theorem get?_singleton (t : Tariff) (loadedAt : Option String) :
    (Registry.mk [t] loadedAt).get? t.model = some t := by simp [get?]

theorem resolve_of_price {r : Registry} {model : String} {price : Float}
    (h : r.get? model = some (.flat model { price := some price })) (input output : UInt64) :
    r.resolve model input output = .ok (.perCall price) := by
  rw [resolve, h]
  rfl

end Registry

end TokenTariff
