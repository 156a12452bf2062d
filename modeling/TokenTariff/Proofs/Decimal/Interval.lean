import Mathlib
import TokenTariff.Proofs.Binary64.Rounding
import TokenTariff.Decimal.Shortest

/-!
# The shortest decimal rounds to its float

Decimals are compared with binary numbers in natural numbers; here those comparisons are read as
comparisons of rationals. The decimal that is chosen for a float lies in the interval that rounds to
the float, whether it was found on a grid or is the float itself.
-/

namespace TokenTariff

namespace Decimal

def value (d : Decimal) : ℚ := d.digits * 10 ^ d.exponent

end Decimal

theorem tens_div_tens (i : ℤ) : (10 : ℚ) ^ i = tens i / tens (-i) := by
  change (10 : ℚ) ^ i = (10 ^ i.toNat : ℕ) / (10 ^ (-i).toNat : ℕ)
  push_cast
  rw [← zpow_natCast, ← zpow_natCast, ← zpow_sub₀ (by norm_num)]
  congr 1
  omega

theorem twos_div_twos (j : ℤ) : (2 : ℚ) ^ j = twos j / twos (-j) := by
  change (2 : ℚ) ^ j = (2 ^ j.toNat : ℕ) / (2 ^ (-j).toNat : ℕ)
  push_cast
  rw [← zpow_natCast, ← zpow_natCast, ← zpow_sub₀ (by norm_num)]
  congr 1
  omega

theorem tens_pos (i : ℤ) : 0 < tens i := Nat.pow_pos (by decide)

theorem twos_pos (j : ℤ) : 0 < twos j := Nat.pow_pos (by decide)

theorem compareScaled_eq (a : ℕ) (i : ℤ) (b : ℕ) (j : ℤ) :
    compareScaled a i b j = compare ((a : ℚ) * 10 ^ i) (b * 2 ^ j) := by
  have hi : (0 : ℚ) < tens (-i) := by exact_mod_cast tens_pos (-i)
  have hj : (0 : ℚ) < twos (-j) := by exact_mod_cast twos_pos (-j)
  have hlt : (a : ℚ) * 10 ^ i < b * 2 ^ j ↔ a * tens i * twos (-j) < b * twos j * tens (-i) := by
    rw [tens_div_tens, twos_div_twos, ← mul_div_assoc, ← mul_div_assoc, div_lt_div_iff₀ hi hj]
    exact_mod_cast Iff.rfl
  have heq : (a : ℚ) * 10 ^ i = b * 2 ^ j ↔ a * tens i * twos (-j) = b * twos j * tens (-i) := by
    rw [tens_div_tens, twos_div_twos, ← mul_div_assoc, ← mul_div_assoc,
      div_eq_div_iff hi.ne' hj.ne']
    exact_mod_cast Iff.rfl
  unfold compareScaled
  rcases lt_trichotomy (a * tens i * twos (-j)) (b * twos j * tens (-i)) with h | h | h
  · rw [compare_lt_iff_lt.2 h, compare_lt_iff_lt.2 (hlt.2 h)]
  · rw [compare_eq_iff_eq.2 h, compare_eq_iff_eq.2 (heq.2 h)]
  · have h' : (b : ℚ) * 2 ^ j < a * 10 ^ i := by
      by_contra! hc
      rcases hc.lt_or_eq with hc | hc
      · have := hlt.1 hc
        omega
      · have := heq.1 hc
        omega
    rw [compare_gt_iff_gt.2 h, compare_gt_iff_gt.2 h']

namespace Decimal

open Binary64

/-- A decimal that passes the test lies in the interval of the float. -/
theorem near_of_roundsTo {d : Decimal} {m : ℕ} {e : ℤ} (hm : 0 < m)
    (h : d.roundsTo ⟨m, e, decide (Narrow m e)⟩ = true) : Near m e d.value := by
  have hscale : (2 : ℚ) ^ e = 4 * 2 ^ (e - 2) := by
    rw [show e = 2 + (e - 2) by omega, zpow_add₀ (by norm_num)]
    norm_num
  have hlow : (((if decide (Narrow m e) = true then 4 * m - 1 else 4 * m - 2 : ℕ) : ℚ)) *
      2 ^ (e - 2) = below m e * 2 ^ e := by
    rw [below, hscale]
    by_cases hn : Narrow m e
    · simp only [hn, decide_true, if_true]
      push_cast [Nat.cast_sub (by omega : 1 ≤ 4 * m)]
      ring
    · simp only [hn, decide_false, if_false, Bool.false_eq_true]
      push_cast [Nat.cast_sub (by omega : 2 ≤ 4 * m)]
      ring
  have hhigh : ((4 * m + 2 : ℕ) : ℚ) * 2 ^ (e - 2) = (m + 1 / 2) * 2 ^ e := by
    rw [hscale]
    push_cast
    ring
  simp only [roundsTo, compareScaled_eq, hlow, hhigh, Bool.and_eq_true, Bool.or_eq_true,
    beq_iff_eq, compare_gt_iff_gt, compare_lt_iff_lt, compare_eq_iff_eq] at h
  obtain ⟨hl, hu⟩ := h
  change below m e * 2 ^ e < d.value ∨ m % 2 = 0 ∧ d.value = below m e * 2 ^ e at hl
  change d.value < (m + 1 / 2) * 2 ^ e ∨ m % 2 = 0 ∧ d.value = (m + 1 / 2) * 2 ^ e at hu
  refine ⟨?_, ?_, ?_⟩
  · rcases hl with hl | ⟨-, hl⟩
    · exact hl.le
    · exact hl.ge
  · rcases hu with hu | ⟨-, hu⟩
    · exact hu.le
    · exact hu.le
  · rintro (he | he)
    · rcases hl with hl | ⟨heven, -⟩
      · exact absurd he hl.ne'
      · exact heven
    · rcases hu with hu | ⟨heven, -⟩
      · exact absurd he hu.ne
      · exact heven

theorem roundsTo_of_onGrid? {tie : Tie} {x : Binary} {i : ℤ} {d : Decimal}
    (h : onGrid? tie x i = some d) : d.roundsTo x = true := by
  unfold onGrid? at h
  grind

theorem roundsTo_of_searchFrom {tie : Tie} {x : Binary} {k : ℤ} {fuel n : ℕ} {d : Decimal}
    (h : searchFrom tie x k fuel n = some d) : d.roundsTo x = true := by
  induction fuel generalizing n with
  | zero => cases h
  | succ fuel ih =>
    rw [searchFrom] at h
    cases hg : onGrid? tie x (k - n) with
    | some d' =>
      rw [hg] at h
      cases h
      exact roundsTo_of_onGrid? hg
    | none =>
      rw [hg] at h
      exact ih h

theorem value_exact (m : ℕ) (e : ℤ) (b : Bool) : (exact ⟨m, e, b⟩).value = m * 2 ^ e := by
  simp only [exact, value]
  rcases le_total 0 e with he | he
  · have : (-e).toNat = 0 := by omega
    simp only [this]
    change ((m * 2 ^ e.toNat * 5 ^ 0 : ℕ) : ℚ) * 10 ^ (-((0 : ℕ) : ℤ)) = _
    push_cast
    rw [← zpow_natCast, Int.toNat_of_nonneg he]
    simp
  · obtain ⟨k, rfl⟩ : ∃ k : ℕ, e = -k := ⟨(-e).toNat, by omega⟩
    have h1 : (-(k : ℤ)).toNat = 0 := by omega
    have h2 : (- -(k : ℤ)).toNat = k := by omega
    rw [h2]
    change ((m * 2 ^ (-(k : ℤ)).toNat * 5 ^ k : ℕ) : ℚ) * 10 ^ (-(k : ℤ)) = _
    rw [h1, zpow_neg, zpow_neg, zpow_natCast, zpow_natCast, show (10 : ℚ) = 5 * 2 by norm_num,
      mul_pow]
    push_cast
    field_simp

theorem value_stripZeros (fuel : ℕ) (d : Decimal) : (stripZeros fuel d).value = d.value := by
  induction fuel generalizing d with
  | zero => rfl
  | succ fuel ih =>
    rw [stripZeros]
    split
    · rename_i h
      rw [ih]
      have hd : (d.digits : ℚ) = 10 * (d.digits / 10 : ℕ) := by
        exact_mod_cast (Nat.mul_div_cancel' (Nat.dvd_of_mod_eq_zero h.1)).symm
      simp only [value]
      rw [hd, zpow_add₀ (by norm_num), zpow_one]
      ring
    · rfl

/-- The decimal chosen for a float lies in the interval that rounds to the float. -/
theorem near_shortest (tie : Tie) {m : ℕ} {e : ℤ} (hc : Canonical m e) :
    Near m e (shortest tie ⟨m, e, decide (Narrow m e)⟩).value := by
  rw [shortest, value_stripZeros]
  cases hs : searchFrom tie ⟨m, e, decide (Narrow m e)⟩
    (scale ⟨m, e, decide (Narrow m e)⟩) 17 1 with
  | some d => exact near_of_roundsTo hc.pos (roundsTo_of_searchFrom hs)
  | none =>
    rw [Option.getD_none, value_exact]
    exact near_self m e

end Decimal

end TokenTariff
