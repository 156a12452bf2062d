import Mathlib
import TokenTariff.Proofs.Catalog.Rates
import TokenTariff.Proofs.Json.Readers
import TokenTariff.Proofs.Tariff.Wire

/-!
# Tariffs that JSON can say

What was read from JSON has finite numbers and no bound of zero, so written once more it comes back
unchanged.
-/

namespace TokenTariff

open Json

namespace Tier

/-- The tier is as JSON can say it: its ratios are finite and no bound is zero. -/
structure Expressible (t : Tier) : Prop where
  modelRatio : t.modelRatio.isFinite = true
  completionRatio : t.completionRatio.isFinite = true
  inputLower : t.input.lower ≠ some 0
  inputUpper : t.input.upper ≠ some 0
  outputLower : t.output.lower ≠ some 0
  outputUpper : t.output.upper ≠ some 0

theorem Expressible.finite {t : Tier} (h : t.Expressible) : t.Finite :=
  ⟨h.modelRatio, h.completionRatio⟩

theorem Expressible.normal {t : Tier} (h : t.Expressible) : t.normal = t := by
  have hbound {b : Option UInt64} (hb : b ≠ some 0) : b.filter (· != 0) = b := by
    cases b with
    | none => rfl
    | some n =>
      have hn : n ≠ 0 := fun hn => hb (congrArg some hn)
      exact Option.filter_some_pos (bne_iff_ne.2 hn)
  have hspan {s : Span} (hlower : s.lower ≠ some 0) (hupper : s.upper ≠ some 0) :
      s.normal = s := by
    rw [Span.normal, hbound hlower, hbound hupper]
  rw [Tier.normal, hspan h.inputLower h.inputUpper, hspan h.outputLower h.outputUpper]

theorem map_normal {ts : List Tier} (h : ∀ t ∈ ts, t.Expressible) : ts.map normal = ts :=
  (List.map_congr_left fun t ht => (h t ht).normal).trans (List.map_id _)

/-- Whatever tier is read is one that JSON can say. -/
theorem reader_gives : reader.Gives Expressible := by
  have hbound : boundReader.Gives fun b => b ≠ some 0 := (Reader.gives_true _).map fun b _ hb => by
    simp [Option.filter_eq_some_iff] at hb
  have hbool := Reader.gives_true Reader.bool
  refine Shape.reader_gives (fun f hf => ?_) ⟨by decide, by decide, nofun, nofun, nofun, nofun⟩
  simp only [shape, List.mem_cons, List.not_mem_nil, or_false] at hf
  rcases hf with rfl | rfl | rfl | rfl | rfl | rfl | rfl | rfl | rfl | rfl | rfl
  · exact hbound.map fun b hb t ht => { ht with inputLower := hb }
  · exact hbound.map fun b hb t ht => { ht with inputUpper := hb }
  · exact hbool.map fun b _ t ht => { ht with }
  · exact hbool.map fun b _ t ht => { ht with }
  · exact hbound.map fun b hb t ht => { ht with outputLower := hb }
  · exact hbound.map fun b hb t ht => { ht with outputUpper := hb }
  · exact hbool.map fun b _ t ht => { ht with }
  · exact hbool.map fun b _ t ht => { ht with }
  · exact Reader.gives_real.map fun x hx t ht => { ht with modelRatio := hx }
  · exact Reader.gives_real.map fun x hx t ht => { ht with completionRatio := hx }
  · exact (Reader.gives_true _).map fun p _ t ht => { ht with }

theorem Expressible.reread {t : Tier} (h : t.Expressible) : t.reread.Expressible :=
  { h with
    modelRatio := isFinite_reread h.modelRatio
    completionRatio := isFinite_reread h.completionRatio }

/-- A tier that JSON can say is decoded from its own text if its ratios read back. -/
theorem Expressible.decodes {t : Tier} (h : t.Expressible) (hback : t.ReadsBack) :
    reader.Decodes t := by
  refine Reader.decodes_of_proper (t.proper_toValue 0) ?_
  rw [reread_toValue, hback.reread_eq, read_toValue h.finite, h.normal]

end Tier

/-- All tiers of a record that is read are ones that JSON can say. -/
theorem TierRecord.reader_gives :
    TierRecord.reader.Gives fun r => ∀ t ∈ r.tiers, t.Expressible := by
  refine Shape.reader_gives (fun f hf => ?_) (List.forall_mem_nil _)
  simp only [TierRecord.shape, List.mem_cons, List.not_mem_nil, or_false] at hf
  rcases hf with rfl | rfl | rfl
  · exact (Reader.gives_true _).map fun s _ r hr => hr
  · exact Tier.reader_gives.items.map fun ts hts r _ => hts
  · exact (Reader.gives_true _).map fun b _ r hr => hr

theorem FlatRate.Finite.normal {r : FlatRate} (h : r.Finite) : r.normal = r := by
  apply FlatRate.ext_field
  intro i
  have hfield : r.normal.field i = (r.field i).filter Float.isFinite := by cases i <;> rfl
  rw [hfield]
  cases hx : r.field i with
  | none => rfl
  | some x => exact Option.filter_some_pos (h i x hx)

theorem FlatRate.Finite.reread {r : FlatRate} (h : r.Finite) : r.reread.Finite := by
  intro i x hx
  rw [field_reread] at hx
  obtain ⟨y, hy, rfl⟩ := Option.map_eq_some_iff.1 hx
  exact isFinite_reread (h i y hy)

theorem FlatRate.finite_iff {r : FlatRate} : r.Finite ↔
    (∀ x, r.price = some x → x.isFinite = true) ∧
      (∀ x, r.modelRatio = some x → x.isFinite = true) ∧
        ∀ x, r.completionRatio = some x → x.isFinite = true := by
  constructor
  · exact fun h => ⟨h .price, h .ratio, h .completion⟩
  · rintro ⟨hprice, hratio, hcompletion⟩ (_ | _ | _)
    · exact hprice
    · exact hratio
    · exact hcompletion

namespace Tariff

/-- A draft can be settled just as the tariff that it is the draft of, unless there are no tiers. -/
theorem settle_eq_ok_iff {d : Draft} {t : Tariff} :
    d.settle = .ok t ↔ t.draft = d ∧ t.plan ≠ .tiered [] := by
  constructor
  · intro h
    obtain ⟨model, enabled, _ | _, ⟨_ | p, _ | m, _ | c⟩, _ | ⟨tier, tiers⟩⟩ := d <;> cases h <;>
      exact ⟨rfl, nofun⟩
  · rintro ⟨rfl, hne⟩
    obtain ⟨model, enabled, rate | _ | ⟨tier, tiers⟩⟩ := t
    · rfl
    · exact absurd rfl hne
    · rfl

/-- The tariff is as JSON can say it, and has tiers if it is tiered. -/
inductive Expressible : Tariff → Prop where
  | flat {model : String} {enabled : Bool} {r : FlatRate} (hr : r.Finite) :
    Expressible ⟨model, enabled, .flat r⟩
  | tiered {model : String} {enabled : Bool} {ts : List Tier} (hne : ts ≠ [])
    (hts : ∀ t ∈ ts, t.Expressible) : Expressible ⟨model, enabled, .tiered ts⟩

variable {t : Tariff}

/-- A tariff that JSON can say comes back unchanged. -/
theorem Expressible.read_toValue (h : t.Expressible) (src : Source) :
    reader src t.toValue.toDoc = .ok t := by
  cases h with
  | @flat model enabled r hr =>
    rw [Tariff.read_toValue (t := ⟨model, enabled, .flat r⟩) (List.forall_mem_nil _) nofun src,
      Tariff.normal]
    dsimp only
    rw [hr.normal]
  | @tiered model enabled ts hne hts =>
    have hfinite : ∀ t ∈ ts, t.Finite := fun t ht => (hts t ht).finite
    have hplan : Plan.tiered ts ≠ .tiered [] := fun h => hne (Plan.tiered.inj h)
    rw [Tariff.read_toValue (t := ⟨model, enabled, .tiered ts⟩) hfinite hplan src, Tariff.normal]
    dsimp only
    rw [Tier.map_normal hts]

theorem Expressible.reread (h : t.Expressible) : t.reread.Expressible := by
  cases h with
  | flat hr => exact .flat hr.reread
  | tiered hne hts =>
    refine .tiered (fun hnil => hne (List.map_eq_nil_iff.1 hnil)) fun t ht => ?_
    obtain ⟨t', ht', rfl⟩ := List.mem_map.1 ht
    exact (hts t' ht').reread

def ReadsBack (t : Tariff) : Prop :=
  match t.plan with
  | .flat r => r.ReadsBack
  | .tiered tiers => ∀ tier ∈ tiers, tier.ReadsBack

theorem ReadsBack.reread_eq (h : t.ReadsBack) : t.reread = t := by
  obtain ⟨m, e, r | ts⟩ := t
  · exact congrArg (fun r => (⟨m, e, .flat r⟩ : Tariff)) (FlatRate.ReadsBack.reread_eq h)
  · exact congrArg (fun ts => (⟨m, e, .tiered ts⟩ : Tariff)) (Tier.map_reread h)

/-- The numbers of whatever draft is read are finite, and its tiers are ones that JSON can say. -/
theorem Draft.reader_gives :
    Draft.reader.Gives fun d => d.rate.Finite ∧ ∀ t ∈ d.tiers, t.Expressible := by
  have hreal := Reader.gives_real.optional
  have hblank : ({} : FlatRate).Finite := FlatRate.finite_iff.2 ⟨nofun, nofun, nofun⟩
  refine Shape.reader_gives (fun f hf => ?_) ⟨hblank, List.forall_mem_nil _⟩
  simp only [Draft.shape, List.mem_cons, List.not_mem_nil, or_false] at hf
  rcases hf with rfl | rfl | rfl | rfl | rfl | rfl | rfl
  · exact (Reader.gives_true _).map fun s _ d hd => hd
  · exact (Reader.gives_true _).map fun b _ d hd => hd
  · exact (Reader.gives_true _).map fun k _ d hd => hd
  · exact hreal.map fun x hx d hd =>
      ⟨FlatRate.finite_iff.2 ⟨hx, hd.1 .ratio, hd.1 .completion⟩, hd.2⟩
  · exact hreal.map fun x hx d hd =>
      ⟨FlatRate.finite_iff.2 ⟨hd.1 .price, hx, hd.1 .completion⟩, hd.2⟩
  · exact hreal.map fun x hx d hd =>
      ⟨FlatRate.finite_iff.2 ⟨hd.1 .price, hd.1 .ratio, hx⟩, hd.2⟩
  · exact Tier.reader_gives.items.map fun ts hts d hd => ⟨hd.1, hts⟩

/-- Whatever tariff is read is one that JSON can say. -/
theorem reader_gives : reader.Gives Expressible := by
  intro src doc t hdoc h
  obtain ⟨d, hd, h⟩ := exists_of_bind h
  obtain ⟨hrate, htiers⟩ := Draft.reader_gives src doc d hdoc hd
  split at h
  · rename_i t' hsettle
    obtain rfl := Except.ok.inj h
    obtain ⟨hdraft, hne⟩ := settle_eq_ok_iff.1 hsettle
    obtain ⟨model, enabled, rate | ts⟩ := t'
    · subst hdraft
      exact .flat hrate
    · subst hdraft
      exact .tiered (fun hts => hne (congrArg Plan.tiered hts)) htiers
  · cases h

end Tariff

end TokenTariff
