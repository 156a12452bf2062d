import Mathlib
import TokenTariff.Proofs.Tariff.Expressible

/-!
# The format of tariffs, exactly

What comes back when a tariff is written and read: for a flat tariff everything but the numbers that
JSON cannot say, for a tiered one everything but bounds of zero, unless it cannot be read at all.
-/

namespace TokenTariff

open Json

namespace Tariff

/-- What the tariff is written as can be read: a tiered tariff has tiers, and their ratios are
finite. -/
def Legible (t : Tariff) : Prop :=
  match t.plan with
  | .flat _ => True
  | .tiered tiers => tiers ≠ [] ∧ ∀ tier ∈ tiers, tier.Finite

variable {t t' : Tariff} {src : Source}

theorem Legible.finite (h : t.Legible) : ∀ tier ∈ t.tiers, tier.Finite := by
  obtain ⟨model, enabled, rate | tiers⟩ := t
  · exact List.forall_mem_nil _
  · exact h.2

theorem Legible.plan_ne (h : t.Legible) : t.plan ≠ .tiered [] := by
  obtain ⟨model, enabled, rate | tiers⟩ := t
  · nofun
  · exact fun hplan => h.1 (Plan.tiered.inj hplan)

/-- Only legible tariffs come back. -/
theorem legible_of_read (h : reader src t.toValue.toDoc = .ok t') : t.Legible := by
  obtain ⟨model, enabled, rate | tiers⟩ := t
  · trivial
  · obtain ⟨d, hd, h⟩ := exists_of_bind h
    have hfinite : ∀ tier ∈ tiers, tier.Finite := Draft.finite_of_read hd
    refine ⟨?_, hfinite⟩
    rintro rfl
    -- The draft is read even without tiers; it is settling it that fails.
    cases (Draft.read_toValue hfinite src).symm.trans hd
    cases h

/-- A tariff that is written comes back as JSON can say it, or is refused: the first if it is
legible, the second if it is not. What was read from a document of finite numbers, as all texts have
them, comes back unchanged. A tariff is settled from its draft and from no other, if it has tiers
where it needs them. -/
theorem read_written_exactly :
    (∀ (t : Tariff) (src : Source),
      (t.Legible → reader src t.toValue.toDoc = .ok t.normal) ∧
      (¬ t.Legible → ∃ f, reader src t.toValue.toDoc = .error f)) ∧
    (∀ (d : Doc) (src src' : Source) (t : Tariff), d.AllFinite → reader src d = .ok t →
      reader src' t.toValue.toDoc = .ok t) ∧
    ∀ (d : Draft) (t : Tariff), d.settle = .ok t ↔ t.draft = d ∧ t.plan ≠ .tiered [] := by
  refine ⟨fun t src => ⟨fun ht => read_toValue ht.finite ht.plan_ne src, fun ht => ?_⟩,
    fun d src src' t hd h => (reader_gives src d t hd h).read_toValue src',
    fun d t => settle_eq_ok_iff⟩
  cases h : reader src t.toValue.toDoc with
  | error f => exact ⟨f, rfl⟩
  | ok t' => exact absurd (legible_of_read h) ht

/-- An infinite price is lost, and an upper bound of zero too; an infinite ratio of a tier is
refused. A tariff that was read from little more than its ratios comes back. -/
theorem read_written_at_limits :
    let rate : FlatRate := ⟨some (1 / 0), some 2, none⟩
    let closed : Tier := { output := { upper := some 0 }, modelRatio := 1, completionRatio := 2 }
    let v : Value := .ofMembers [
      ("mode", .text "segmented"), ("model_name", .text "m"),
      ("rules", .list [.ofMembers [("completion_ratio", .int 2), ("model_ratio", .real 0.5)]])]
    let t : Tariff := ⟨"m", true, .tiered [{ modelRatio := 0.5, completionRatio := 2 }]⟩
    reader .text (toValue ⟨"m", true, .flat rate⟩).toDoc =
        .ok ⟨"m", true, .flat ⟨none, some 2, none⟩⟩ ∧
      reader .value (toValue ⟨"m", false, .tiered [closed]⟩).toDoc =
        .ok ⟨"m", false, .tiered [{ modelRatio := 1, completionRatio := 2 }]⟩ ∧
      (∃ f, reader .value
        (toValue ⟨"m", true, .tiered [{ closed with modelRatio := 1 / 0 }]⟩).toDoc = .error f) ∧
      reader .value v.toDoc = .ok t ∧ reader .text t.toValue.toDoc = .ok t ∧
      t.draft.settle = .ok t := by
  intro rate closed v t
  obtain ⟨hwritten, hread, hsettle⟩ := read_written_exactly
  have hclosed : closed.Finite := ⟨by decide, by decide⟩
  have hlegible : Legible ⟨"m", false, .tiered [closed]⟩ :=
    ⟨List.cons_ne_nil _ _, List.forall_mem_singleton.2 hclosed⟩
  have hillegible : ¬ Legible ⟨"m", true, .tiered [{ closed with modelRatio := 1 / 0 }]⟩ :=
    fun h => absurd (h.2 _ (List.mem_singleton_self _)).1 (by decide)
  have hint : (Number.int 2).Writable := ⟨by decide, by decide⟩
  have hitem : (Value.ofMembers
      [("completion_ratio", .int 2), ("model_ratio", .real 0.5)]).Proper 2 := by
    refine Value.proper_ofMembers ?_
    simp only [List.forall_mem_cons]
    exact ⟨.number hint, Value.proper_real _ _, List.forall_mem_nil _⟩
  have hproper : v.Proper 4 := by
    refine Value.proper_ofMembers ?_
    simp only [List.forall_mem_cons]
    exact ⟨.text _, .text _, .list (List.forall_mem_singleton.2 hitem), List.forall_mem_nil _⟩
  have hhalf : Json.ReadsBack 0.5 := by decide +kernel
  have hback : v.reread = v := by
    simp only [v, Value.reread_ofMembers, List.map_cons, List.map_nil, Value.reread,
      Value.rereadItems, Value.int, Number.reread, Value.reread_real, hhalf.reread_eq]
  have hfinite : v.toDoc.AllFinite := by
    have hdoc := allFinite_ofText v.write
    rwa [hproper.ofText_write, hback] at hdoc
  have hv : reader .value v.toDoc = .ok t := by rfl
  have hplan : t.plan ≠ .tiered [] := fun h => List.cons_ne_nil _ _ (Plan.tiered.inj h)
  exact ⟨(hwritten _ _).1 trivial, (hwritten _ _).1 hlegible, (hwritten _ _).2 hillegible, hv,
    hread v.toDoc .value .text t hfinite hv, (hsettle _ _).2 ⟨rfl, hplan⟩⟩

end Tariff

end TokenTariff
