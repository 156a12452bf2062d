import Mathlib
import TokenTariff.Proofs.Tier.Coverage
import TokenTariff.Tier.Problem

/-!
# Tiers that cover no call

A span holds the counts from a least to a greatest one. Both are computed over the integers here,
where the count below zero and the one above all words exist; so the span is empty just when they
are the wrong way round. Inverted bounds are one way to that. The others, which are no problem of a
tier, are few and are listed.
-/

namespace TokenTariff

namespace Span

variable {s : Span} {n : ℕ}

def least (s : Span) : ℤ :=
  match s.lower with
  | none => 0
  | some b => if s.openBelow then b.toNat + 1 else b.toNat

def greatest (s : Span) : ℤ :=
  match s.upper with
  | none => 2 ^ 64 - 1
  | some b => if s.openAbove then b.toNat - 1 else b.toNat

theorem least_of_none (h : s.lower = none) : s.least = 0 := by rw [least, h]

theorem least_of_some {b : UInt64} (h : s.lower = some b) :
    s.least = if s.openBelow then (b.toNat + 1 : ℤ) else b.toNat := by rw [least, h]

theorem greatest_of_none (h : s.upper = none) : s.greatest = 2 ^ 64 - 1 := by rw [greatest, h]

theorem greatest_of_some {b : UInt64} (h : s.upper = some b) :
    s.greatest = if s.openAbove then (b.toNat - 1 : ℤ) else b.toNat := by rw [greatest, h]

theorem least_nonneg (s : Span) : 0 ≤ s.least := by
  unfold least
  split
  · exact le_rfl
  · split <;> omega

theorem greatest_lt (s : Span) : s.greatest < 2 ^ 64 := by
  unfold greatest
  split
  · decide
  · rename_i b _
    have hb := b.toNat_lt
    split <;> omega

theorem least_le_iff :
    s.least ≤ n ↔
      ∀ b, s.lower = some b → b.toNat < n ∨ s.openBelow = false ∧ b.toNat = n := by
  obtain ⟨_ | b, upper, below, above⟩ := s
  · simp [least]
  · cases below with
    | true => simp [least]
    | false =>
      simp [least]
      omega

theorem le_greatest_iff (hn : n < 2 ^ 64) :
    (n : ℤ) ≤ s.greatest ↔
      ∀ b, s.upper = some b → n < b.toNat ∨ s.openAbove = false ∧ n = b.toNat := by
  obtain ⟨lower, _ | b, below, above⟩ := s
  · simp [greatest]
    omega
  · cases above with
    | true => simp [greatest]
    | false =>
      simp [greatest]
      omega

theorem holds_iff (hn : n < 2 ^ 64) : s.Holds n ↔ s.least ≤ n ∧ (n : ℤ) ≤ s.greatest := by
  rw [least_le_iff, le_greatest_iff hn]
  exact ⟨fun h => ⟨h.lower, h.upper⟩, fun h => ⟨h.1, h.2⟩⟩

/-- A span that holds any count holds the least one. -/
theorem exists_holds_iff : (∃ m : UInt64, s.Holds m.toNat) ↔ s.least ≤ s.greatest := by
  constructor
  · rintro ⟨m, hm⟩
    obtain ⟨hleast, hgreatest⟩ := (holds_iff m.toNat_lt).1 hm
    exact hleast.trans hgreatest
  · intro h
    have hnonneg := s.least_nonneg
    have hlt := s.greatest_lt
    have hsmall : s.least.toNat < 2 ^ 64 := by omega
    refine ⟨UInt64.ofNat s.least.toNat, ?_⟩
    rw [UInt64.toNat_ofNat_of_lt' hsmall, holds_iff hsmall]
    omega

/-- The bounds are not inverted and leave nothing between them. -/
inductive Closes (s : Span) : Prop
  | point {b : UInt64} : s.lower = some b → s.upper = some b →
      s.openBelow = true ∨ s.openAbove = true → Closes s
  | gap {a b : UInt64} : s.lower = some a → s.upper = some b → b.toNat = a.toNat + 1 →
      s.openBelow = true → s.openAbove = true → Closes s
  | above {b : UInt64} : s.lower = some b → b.toNat = 2 ^ 64 - 1 → s.openBelow = true → Closes s
  | below : s.upper = some 0 → s.openAbove = true → Closes s

theorem greatest_lt_least_of_isInverted (h : s.isInverted = true) : s.greatest < s.least := by
  obtain ⟨_ | a, _ | b, below, above⟩ := s
  · cases h
  · cases h
  · cases h
  · have hlt : b.toNat < a.toNat := UInt64.lt_iff_toNat_lt.1 (of_decide_eq_true h)
    cases below <;> cases above <;> simp [least, greatest] <;> omega

theorem Closes.greatest_lt_least (h : s.Closes) : s.greatest < s.least := by
  cases h with
  | point hlower hupper hopen =>
    rw [least_of_some hlower, greatest_of_some hupper]
    rcases hopen with hopen | hopen <;> rw [if_pos hopen] <;> split <;> omega
  | gap hlower hupper hnext hbelow habove =>
    rw [least_of_some hlower, greatest_of_some hupper, if_pos hbelow, if_pos habove]
    omega
  | above hlower hmax hopen =>
    have hlt := s.greatest_lt
    rw [least_of_some hlower, if_pos hopen]
    omega
  | below hupper hopen =>
    have hnonneg := s.least_nonneg
    rw [greatest_of_some hupper, if_pos hopen, UInt64.toNat_zero]
    omega

/-- Between two bounds that are not inverted there is room, unless they are one count and one of
them is open, or both are open and next to each other. -/
theorem closes_of_bounds {a b : UInt64} (hlower : s.lower = some a) (hupper : s.upper = some b)
    (hle : a.toNat ≤ b.toNat) (h : s.greatest < s.least) : s.Closes := by
  rw [least_of_some hlower, greatest_of_some hupper] at h
  rcases hle.eq_or_lt with heq | hlt
  · have hopen : s.openBelow = true ∨ s.openAbove = true := by
      by_contra hclosed
      rw [not_or] at hclosed
      rw [if_neg hclosed.1, if_neg hclosed.2] at h
      omega
    exact .point hlower (UInt64.toNat_inj.1 heq ▸ hupper) hopen
  · have hbelow : s.openBelow = true := by
      by_contra hclosed
      rw [if_neg hclosed] at h
      split at h <;> omega
    have habove : s.openAbove = true := by
      by_contra hclosed
      rw [if_neg hclosed] at h
      split at h <;> omega
    rw [if_pos hbelow, if_pos habove] at h
    exact .gap hlower hupper (by omega) hbelow habove

theorem closes_of_lower {a : UInt64} (hlower : s.lower = some a) (hupper : s.upper = none)
    (h : s.greatest < s.least) : s.Closes := by
  rw [least_of_some hlower, greatest_of_none hupper] at h
  have ha := a.toNat_lt
  split at h
  · rename_i hopen
    exact .above hlower (by omega) hopen
  · omega

theorem closes_of_upper {b : UInt64} (hlower : s.lower = none) (hupper : s.upper = some b)
    (h : s.greatest < s.least) : s.Closes := by
  rw [least_of_none hlower, greatest_of_some hupper] at h
  split at h
  · rename_i hopen
    have hb : b = 0 := UInt64.toNat_inj.1 (by rw [UInt64.toNat_zero]; omega)
    exact .below (hb ▸ hupper) hopen
  · omega

theorem greatest_lt_least_iff (hs : s.isInverted = false) : s.greatest < s.least ↔ s.Closes := by
  refine ⟨fun h => ?_, Closes.greatest_lt_least⟩
  cases hlower : s.lower with
  | none =>
    cases hupper : s.upper with
    | none =>
      rw [least_of_none hlower, greatest_of_none hupper] at h
      exact absurd h (by decide)
    | some b => exact closes_of_upper hlower hupper h
  | some a =>
    cases hupper : s.upper with
    | none => exact closes_of_lower hlower hupper h
    | some b =>
      rw [isInverted, hlower, hupper] at hs
      have hle : a ≤ b := UInt64.not_lt.1 (of_decide_eq_false hs)
      exact closes_of_bounds hlower hupper (UInt64.le_iff_toNat_le.1 hle) h

end Span

namespace Tier

theorem exists_covers_iff (t : Tier) :
    (∃ input output, t.covers input output = true) ↔
      t.input.least ≤ t.input.greatest ∧ t.output.least ≤ t.output.greatest := by
  simp only [covers_iff, Covers, exists_and_left, exists_and_right, Span.exists_holds_iff]

theorem forall_covers_eq_false_iff (t : Tier) :
    (∀ input output, t.covers input output = false) ↔
      t.input.greatest < t.input.least ∨ t.output.greatest < t.output.least := by
  rw [← not_iff_not, not_or, not_lt, not_lt, ← exists_covers_iff]
  simp only [not_forall, Bool.not_eq_false]

/-- A tier covers some call just when neither of its spans has its least count above its greatest
one. So the tiers with a problem of bounds cover none, and of the others those whose bounds close a
span. -/
theorem covers_some_call_iff (t : Tier) :
    ((∃ input output, t.covers input output = true) ↔
      t.input.least ≤ t.input.greatest ∧ t.output.least ≤ t.output.greatest) ∧
    (t.boundsProblem = [] ∨ ∀ input output, t.covers input output = false) ∧
    (t.boundsProblem = [] ∧ (∀ input output, t.covers input output = false) ↔
      t.boundsProblem = [] ∧ (t.input.Closes ∨ t.output.Closes)) := by
  refine ⟨t.exists_covers_iff, ?_, and_congr_right fun h => ?_⟩
  · rw [boundsProblem_eq_nil_iff, forall_covers_eq_false_iff]
    cases hinput : t.input.isInverted with
    | true => exact .inr (.inl (Span.greatest_lt_least_of_isInverted hinput))
    | false =>
      cases houtput : t.output.isInverted with
      | true => exact .inr (.inr (Span.greatest_lt_least_of_isInverted houtput))
      | false => exact .inl ⟨rfl, rfl⟩
  · obtain ⟨hinput, houtput⟩ := t.boundsProblem_eq_nil_iff.1 h
    rw [forall_covers_eq_false_iff, Span.greatest_lt_least_iff hinput,
      Span.greatest_lt_least_iff houtput]

/-- One count for both bounds, with the flags that a tier has by default: no problem, and no
call. -/
example (input output : UInt64) :
    let t : Tier := ⟨⟨some 10, some 10, true, false⟩, {}, 1, 1, 0⟩
    t.boundsProblem = [] ∧ t.covers input output = false := by
  refine ⟨rfl, (forall_covers_eq_false_iff _).2 (.inl ?_) input output⟩
  decide

end Tier

end TokenTariff
