import Mathlib
import TokenTariff.Proofs.Tariff.Wire
import TokenTariff.Proofs.Tier.Coverage
import TokenTariff.Tier.Problem

/-!
# Bounds of zero

JSON says no bound by zero, so a bound of zero is lost in it. That never takes a count out of a
span. It adds counts just when the bound has kept some out, as an upper bound of zero does and a
lower one that is open.
-/

namespace TokenTariff

namespace Span

variable {s : Span} {n : ℕ}

/-- Without its bounds of zero the span holds more. -/
def Loses (s : Span) : Prop := s.upper = some 0 ∨ s.lower = some 0 ∧ s.openBelow = true

theorem lower_normal {b : UInt64} : s.normal.lower = some b ↔ s.lower = some b ∧ b ≠ 0 := by
  rw [normal, Option.filter_eq_some_iff, bne_iff_ne]

theorem upper_normal {b : UInt64} : s.normal.upper = some b ↔ s.upper = some b ∧ b ≠ 0 := by
  rw [normal, Option.filter_eq_some_iff, bne_iff_ne]

theorem Holds.normal (h : s.Holds n) : s.normal.Holds n where
  lower b hb := h.lower b (lower_normal.1 hb).1
  upper b hb := h.upper b (upper_normal.1 hb).1

theorem holds_normal_iff (h : ¬ s.Loses) : s.normal.Holds n ↔ s.Holds n := by
  refine ⟨fun hn => ⟨fun b hb => ?_, fun b hb => ?_⟩, Holds.normal⟩
  · by_cases hb0 : b = 0
    · subst hb0
      have hclosed : s.openBelow = false := Bool.eq_false_iff.2 fun ho => h (.inr ⟨hb, ho⟩)
      exact (Nat.eq_zero_or_pos n).elim (fun hn0 => .inr ⟨hclosed, hn0.symm⟩) .inl
    · exact hn.lower b (lower_normal.2 ⟨hb, hb0⟩)
  · have hb0 : b ≠ 0 := fun hb0 => h (.inl (hb0 ▸ hb))
    exact hn.upper b (upper_normal.2 ⟨hb, hb0⟩)

theorem lower_eq_zero (hs : s.isInverted = false) (hupper : s.upper = some 0) {b : UInt64}
    (hb : s.lower = some b) : b = 0 := by
  have hle : ¬ 0 < b := by
    rw [isInverted, hb, hupper] at hs
    exact of_decide_eq_false hs
  rw [UInt64.lt_iff_toNat_lt, not_lt] at hle
  exact UInt64.toNat_inj.1 (Nat.le_zero.1 hle)

/-- The count that comes in is the one next to the bound that is lost. -/
theorem exists_of_loses (h : s.Loses) (hs : s.isInverted = false) :
    ∃ n : UInt64, s.normal.Holds n.toNat ∧ ¬ s.Holds n.toNat := by
  rcases h with hupper | ⟨hlower, hopen⟩
  · refine ⟨1, ⟨fun b hb => ?_, fun b hb => ?_⟩, fun h => ?_⟩
    · obtain ⟨hb, hb0⟩ := lower_normal.1 hb
      exact absurd (lower_eq_zero hs hupper hb) hb0
    · obtain ⟨hb, hb0⟩ := upper_normal.1 hb
      exact absurd (Option.some.inj (hb.symm.trans hupper)) hb0
    · rcases h.upper 0 hupper with h | ⟨-, h⟩ <;> exact absurd h (by decide)
  · refine ⟨0, ⟨fun b hb => ?_, fun b hb => ?_⟩, fun h => ?_⟩
    · obtain ⟨hb, hb0⟩ := lower_normal.1 hb
      exact absurd (Option.some.inj (hb.symm.trans hlower)) hb0
    · obtain ⟨-, hb0⟩ := upper_normal.1 hb
      exact .inl (Nat.pos_of_ne_zero fun h => hb0 (UInt64.toNat_inj.1 h))
    · rcases h.lower 0 hlower with h | ⟨h, -⟩
      · exact absurd h (by decide)
      · rw [hopen] at h
        cases h

end Span

namespace Tier

variable {t : Tier}

theorem isInverted_of_problems (h : t.problems = []) :
    t.input.isInverted = false ∧ t.output.isInverted = false := by
  have hbounds : t.boundsProblem = [] :=
    (List.append_eq_nil_iff.1 (List.append_eq_nil_iff.1 h).1).1
  exact t.boundsProblem_eq_nil_iff.1 hbounds

theorem Covers.normal {input output : UInt64} (h : t.Covers input output) :
    t.normal.Covers input output := ⟨h.1.normal, h.2.normal⟩

/-- A tier without inverted spans covers the same calls without its bounds of zero, unless a span
loses by that and the tier covers any call then. -/
theorem covers_normal_iff (hinput : t.input.isInverted = false)
    (houtput : t.output.isInverted = false) :
    (∀ input output, t.normal.Covers input output ↔ t.Covers input output) ↔
      (¬ t.input.Loses ∧ ¬ t.output.Loses) ∨ ∀ input output, ¬ t.normal.Covers input output := by
  constructor
  · intro h
    rw [or_iff_not_imp_right]
    intro hsome
    push Not at hsome
    obtain ⟨i, o, hi, ho⟩ := hsome
    -- With the count covered on the other side, a count that comes in makes a new call.
    constructor
    · intro hloses
      obtain ⟨n, hn, hnot⟩ := Span.exists_of_loses hloses hinput
      exact hnot ((h n o).1 ⟨hn, ho⟩).1
    · intro hloses
      obtain ⟨n, hn, hnot⟩ := Span.exists_of_loses hloses houtput
      exact hnot ((h i n).1 ⟨hi, hn⟩).2
  · rintro (⟨hin, hout⟩ | hnone) input output
    · exact and_congr (Span.holds_normal_iff hin) (Span.holds_normal_iff hout)
    · exact ⟨fun h => absurd h (hnone input output), Covers.normal⟩

end Tier

end TokenTariff
