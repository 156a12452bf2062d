import Mathlib
import TokenTariff.Proofs.Tier.Selection

/-!
# What a tier covers

A span holds the counts between its bounds. A bound that is missing limits nothing, and one that is
open does not belong to the span itself. Here this is said of natural numbers, apart from the tests
on words that the choice of a tier makes.
-/

namespace TokenTariff

/-- The count lies between the bounds, or on one that is not open. -/
structure Span.Holds (s : Span) (n : ℕ) : Prop where
  lower (b : UInt64) (hb : s.lower = some b) : b.toNat < n ∨ s.openBelow = false ∧ b.toNat = n
  upper (b : UInt64) (hb : s.upper = some b) : n < b.toNat ∨ s.openAbove = false ∧ n = b.toNat

namespace Span

variable {s : Span} {n : UInt64}

theorem aboveLower_iff : s.aboveLower n = true ↔
    ∀ b, s.lower = some b → b.toNat < n.toNat ∨ s.openBelow = false ∧ b.toNat = n.toNat := by
  obtain ⟨_ | b, upper, below, above⟩ := s
  · simp [aboveLower]
  · cases below with
    | true => simp [aboveLower, UInt64.lt_iff_toNat_lt]
    | false => simp [aboveLower, UInt64.le_iff_toNat_le, Nat.le_iff_lt_or_eq]

theorem belowUpper_iff : s.belowUpper n = true ↔
    ∀ b, s.upper = some b → n.toNat < b.toNat ∨ s.openAbove = false ∧ n.toNat = b.toNat := by
  obtain ⟨lower, _ | b, below, above⟩ := s
  · simp [belowUpper]
  · cases above with
    | true => simp [belowUpper, UInt64.lt_iff_toNat_lt]
    | false => simp [belowUpper, UInt64.le_iff_toNat_le, Nat.le_iff_lt_or_eq]

theorem contains_iff : s.contains n = true ↔ s.Holds n.toNat := by
  rw [contains, Bool.and_eq_true, aboveLower_iff, belowUpper_iff]
  exact ⟨fun h => ⟨h.1, h.2⟩, fun h => ⟨h.lower, h.upper⟩⟩

end Span

namespace Tier

def Covers (t : Tier) (input output : UInt64) : Prop :=
  t.input.Holds input.toNat ∧ t.output.Holds output.toNat

variable {tiers : List Tier} {input output : UInt64} {k : ℕ} {t : Tier}

theorem covers_iff : t.covers input output = true ↔ t.Covers input output := by
  rw [covers, Bool.and_eq_true, Span.contains_iff, Span.contains_iff]
  rfl

theorem covers_eq_false_iff : t.covers input output = false ↔ ¬ t.Covers input output := by
  rw [← covers_iff, Bool.not_eq_true]

/-- The tier that counts is the first of those of highest priority: no tier that covers the call
has a higher one, and those before it have lower ones. -/
theorem counts_iff : Counts tiers input output k t ↔
    tiers[k]? = some t ∧ t.Covers input output ∧
      (∀ u ∈ tiers, u.Covers input output → u.priority ≤ t.priority) ∧
      ∀ j < k, ∀ u, tiers[j]? = some u → u.Covers input output → u.priority < t.priority := by
  simp only [← covers_iff]
  constructor
  · intro h
    refine ⟨h.there, h.covers, h.highest, fun j hj u hu hc => ?_⟩
    have hle : u.priority ≤ t.priority := h.highest u (List.mem_of_getElem? hu) hc
    have hne : u.priority ≠ t.priority := fun hp => hj.not_ge (h.earliest j u hu hc hp)
    exact Int32.lt_of_le_of_ne hle hne
  · rintro ⟨hthere, hcovers, hhighest, hbefore⟩
    refine ⟨hthere, hcovers, hhighest, fun j u hu hc hp => ?_⟩
    by_contra hj
    have hlt := hbefore j (Nat.lt_of_not_le hj) u hu hc
    rw [hp] at hlt
    exact Int32.lt_irrefl hlt

end Tier

end TokenTariff
