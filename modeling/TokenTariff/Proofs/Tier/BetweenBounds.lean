import Mathlib
import TokenTariff.Proofs.Tier.Coverage
import TokenTariff.Tariff.Charge

/-!
# Between the bounds

A span tells two counts apart only by a bound that lies between them or on one of them. So as long
as the counts of a call pass no bound of any tier on their side, the same tiers cover the call, the
same one of them counts, and the call is billed alike. To know what a list of tiers bills it is
enough to look at the counts on its bounds and next to them.
-/

namespace TokenTariff

namespace Span

variable {s : Span} {n n' : ℕ} {b : UInt64}

def bounds (s : Span) : List UInt64 := s.lower.toList ++ s.upper.toList

theorem mem_bounds : b ∈ s.bounds ↔ s.lower = some b ∨ s.upper = some b := by
  rw [bounds, List.mem_append, Option.mem_toList, Option.mem_toList]

/-- Neither of two counts passes a bound that the other does not. -/
def Together (s : Span) (n n' : ℕ) : Prop :=
  ∀ b ∈ s.bounds, (b.toNat < n ↔ b.toNat < n') ∧ (n < b.toNat ↔ n' < b.toNat)

theorem Together.symm (h : s.Together n n') : s.Together n' n :=
  fun b hb => ⟨(h b hb).1.symm, (h b hb).2.symm⟩

theorem Holds.together (h : s.Holds n) (hs : s.Together n n') : s.Holds n' where
  lower b hb := by
    obtain ⟨hbelow, habove⟩ := hs b (mem_bounds.2 (.inl hb))
    exact (h.lower b hb).imp hbelow.1 (.imp_right fun heq => by omega)
  upper b hb := by
    obtain ⟨hbelow, habove⟩ := hs b (mem_bounds.2 (.inr hb))
    exact (h.upper b hb).imp habove.1 (.imp_right fun heq => by omega)

theorem contains_together {m m' : UInt64} (hs : s.Together m.toNat m'.toNat) :
    s.contains m = s.contains m' := by
  rw [Bool.eq_iff_iff, contains_iff, contains_iff]
  exact ⟨fun h => h.together hs, fun h => h.together hs.symm⟩

/-- Two counts without a bound from one to the other. -/
theorem together_of_outside {m m' : UInt64} (hm : m ≤ m')
    (hs : ∀ b ∈ s.bounds, ¬(m ≤ b ∧ b ≤ m')) : s.Together m.toNat m'.toNat := by
  intro b hb
  have hb := hs b hb
  rw [UInt64.le_iff_toNat_le] at hm
  rw [UInt64.le_iff_toNat_le, UInt64.le_iff_toNat_le] at hb
  omega

end Span

namespace Tier

variable {tiers : List Tier} {input input' output output' : UInt64}

theorem pick?_together
    (h : ∀ t ∈ tiers, t.input.Together input.toNat input'.toNat ∧
      t.output.Together output.toNat output'.toNat) :
    pick? tiers input output = pick? tiers input' output' := by
  have hcovers : ∀ t ∈ tiers, t.covers input output = t.covers input' output' := by
    intro t ht
    rw [covers, covers, Span.contains_together (h t ht).1, Span.contains_together (h t ht).2]
  have hcovering : covering tiers input output = covering tiers input' output' := by
    refine List.filter_congr fun p hp => hcovers p.2 ?_
    obtain ⟨q, hq, rfl⟩ := List.mem_map.1 hp
    exact List.fst_mem_of_mem_zipIdx hq
  rw [pick?, pick?, hcovering]

end Tier

/-- Let no bound of a tier lie from one count to the other, neither on the side of input nor on that
of output. Then the tier at one position counts for both calls, or none does for either; both are
billed by the ratios of that tier, or neither is billed. -/
theorem Tariff.billed_alike_between_bounds {tiers : List Tier}
    {input input' output output' : UInt64} (hinput : input ≤ input') (houtput : output ≤ output')
    (hin : ∀ t ∈ tiers, ∀ b ∈ t.input.bounds, ¬(input ≤ b ∧ b ≤ input'))
    (hout : ∀ t ∈ tiers, ∀ b ∈ t.output.bounds, ¬(output ≤ b ∧ b ≤ output')) :
    Tier.pick? tiers input output = Tier.pick? tiers input' output' ∧
    ∀ model enabled,
      let t : Tariff := ⟨model, enabled, .tiered tiers⟩
      (∃ tier ∈ tiers,
        t.charge input output =
          .ok (.byRatio (some tier.modelRatio) (some tier.completionRatio)) ∧
        t.charge input' output' =
          .ok (.byRatio (some tier.modelRatio) (some tier.completionRatio))) ∨
      t.charge input output = .error (.noMatchingTier input output) ∧
        t.charge input' output' = .error (.noMatchingTier input' output') := by
  have hpick : Tier.pick? tiers input output = Tier.pick? tiers input' output' :=
    Tier.pick?_together fun t ht => ⟨Span.together_of_outside hinput (hin t ht),
      Span.together_of_outside houtput (hout t ht)⟩
  refine ⟨hpick, fun model enabled => ?_⟩
  simp only [charge]
  rw [← hpick]
  cases hcounts : Tier.pick? tiers input output with
  | none => exact .inr ⟨rfl, rfl⟩
  | some p => exact .inl ⟨p.2, (Tier.pick?_eq_some_iff.1 hcounts).mem, rfl, rfl⟩

/-- Two tiers that overlap from 100 to 200. Above the first of these bounds and below the second
one the later tier counts, up to the output where it ends. -/
theorem Tariff.billed_alike_in_overlap :
    let tiers : List Tier := [
      { input := { upper := some 200 }, modelRatio := 1, completionRatio := 2 },
      { input := { lower := some 100 }, output := { upper := some 50, openAbove := true },
        modelRatio := 3, completionRatio := 4, priority := 7 }]
    let t : Tariff := ⟨"m", true, .tiered tiers⟩
    (∀ tier ∈ tiers, ∀ b ∈ tier.input.bounds, ¬(101 ≤ b ∧ b ≤ 199)) ∧
      (∀ tier ∈ tiers, ∀ b ∈ tier.output.bounds, ¬(0 ≤ b ∧ b ≤ 49)) ∧
      Tier.pick? tiers 101 0 = Tier.pick? tiers 199 49 ∧
      t.charge 199 49 = .ok (.byRatio (some 3) (some 4)) := by
  intro tiers t
  have hin : ∀ tier ∈ tiers, ∀ b ∈ tier.input.bounds, ¬(101 ≤ b ∧ b ≤ 199) := by
    simp [tiers, Span.bounds]
  have hout : ∀ tier ∈ tiers, ∀ b ∈ tier.output.bounds, ¬(0 ≤ b ∧ b ≤ 49) := by
    simp [tiers, Span.bounds]
  obtain ⟨hpick, -⟩ := billed_alike_between_bounds (by decide) (by decide) hin hout
  exact ⟨hin, hout, hpick, rfl⟩

end TokenTariff
