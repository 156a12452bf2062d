import Mathlib
import TokenTariff.Proofs.Binary64.Amounts
import TokenTariff.Proofs.Decimal.Digits

/-!
# Numerals read as floats

What is read is always finite. A numeral is read at all if it is not too close to the greatest
float, and not if it is far enough beyond; in between it depends on its digits.
-/

namespace TokenTariff

open Binary64 Float.Model Float.Model.UnpackedFloat

theorem beq_zero_ofNat {n : ℕ} (h : n < 2 ^ 64) : (n.toUInt64.toFloat == 0) = decide (n = 0) := by
  rcases Nat.eq_zero_or_pos n with rfl | hn
  · decide +kernel
  · obtain ⟨m, e, hm, -, -, hu⟩ := approximates_ofNat hn h
    change n.toUInt64.toFloat.toModel.unpack.beq (.zero .positive) = _
    rw [hu, decide_eq_false hn.ne']
    rfl

theorem isAmount_shrink {x : Float} (h : IsAmount x.toModel.unpack) (k : ℕ) :
    IsAmount (shrink x k).toModel.unpack := by
  induction k generalizing x with
  | zero => exact h
  | succ k ih =>
    rw [shrink]
    split
    · exact h
    · exact ih (isAmount_div_powerOfTen h le_rfl)

variable {n : ℕ} {e : ℤ}

/-- How a word is scaled: by divisions, by one multiplication, or not at all. -/
theorem scale?_cases (h : n < 2 ^ 64) :
    (∃ y, scale? n.toUInt64.toFloat e = some y ∧ IsAmount y.toModel.unpack ∧ (e < 0 ∨ n = 0)) ∨
      (0 < n ∧ 308 < e ∧ scale? n.toUInt64.toFloat e = none) ∨
      (0 < n ∧ ∃ k : ℕ, k ≤ 308 ∧ e = k ∧ scale? n.toUInt64.toFloat e =
        if (n.toUInt64.toFloat * powerOfTen k).isInf then none
        else some (n.toUInt64.toFloat * powerOfTen k)) := by
  simp only [scale?, beq_zero_ofNat h, decide_eq_true_eq]
  split
  · rename_i he
    have hk : (-e).toNat - 308 * (((-e).toNat - 1) / 308) ≤ 308 := by omega
    exact .inl ⟨_, rfl, isAmount_div_powerOfTen (isAmount_shrink (isAmount_ofNat h) _) hk, .inl he⟩
  · rename_i he
    split
    · rename_i hn
      exact .inl ⟨_, rfl, isAmount_ofNat h, .inr hn⟩
    · rename_i hn
      split
      · rename_i hlarge
        exact .inr (.inl ⟨Nat.pos_of_ne_zero hn, hlarge, rfl⟩)
      · exact .inr (.inr ⟨Nat.pos_of_ne_zero hn, e.toNat, by omega, by omega, rfl⟩)

theorem isAmount_of_scale? (h : n < 2 ^ 64) {y : Float}
    (hy : scale? n.toUInt64.toFloat e = some y) : IsAmount y.toModel.unpack := by
  rcases scale?_cases (e := e) h with ⟨y', hy', hamount, -⟩ | ⟨-, -, hnone⟩ | ⟨hn, k, hk, -, hmul⟩
  · rw [hy, Option.some.injEq] at hy'
    exact hy' ▸ hamount
  · rw [hy] at hnone
    cases hnone
  · rw [hy] at hmul
    split at hmul
    · cases hmul
    · rename_i hinf
      rw [Option.some.injEq] at hmul
      subst hmul
      rcases (isRounding_mul (approximates_ofNat hn h)
        (approximates_powerOfTen hk)).isAmount with ⟨-, hamount⟩ | ⟨-, hu⟩
      · exact hamount
      · refine absurd ?_ hinf
        change UnpackedFloat.isInf _ = true
        rw [hu]
        rfl

theorem twos_le_tens {a b : ℕ} (h : 2 ^ a ≤ 10 ^ b) : (2 : ℚ) ^ (a : ℤ) ≤ 10 ^ (b : ℤ) := by
  exact_mod_cast h

theorem limit_le : limit * (2 ^ 53 - 1) ^ 2 ≤ 10 ^ (309 : ℤ) * 2 ^ 106 := by
  have hpow : (2 : ℚ) ^ (53 + 971 : ℤ) ≤ 10 ^ (309 : ℤ) :=
    twos_le_tens (a := 1024) (b := 309) (by decide +kernel)
  have hle : limit ≤ 10 ^ (309 : ℤ) := (limitAt_lt 971).le.trans hpow
  exact mul_le_mul hle (by norm_num) (by norm_num) (by positivity)

theorem exists_scale? (h : n < 2 ^ 64)
    (hlt : (n : ℚ) * 10 ^ e * 2 ^ 106 < limit * (2 ^ 53 - 1) ^ 2) :
    ∃ y, scale? n.toUInt64.toFloat e = some y := by
  rcases scale?_cases (e := e) h with ⟨y, hy, -⟩ | ⟨hn, he, -⟩ | ⟨hn, k, hk, rfl, hmul⟩
  · exact ⟨y, hy⟩
  · exfalso
    have hone : (1 : ℚ) ≤ n := by exact_mod_cast hn
    have hpow : (10 : ℚ) ^ (309 : ℤ) ≤ 10 ^ e := zpow_le_zpow_right₀ (by norm_num) (by omega)
    have hle : (10 : ℚ) ^ (309 : ℤ) ≤ n * 10 ^ e :=
      hpow.trans (le_mul_of_one_le_left (by positivity) hone)
    linarith [limit_le]
  · refine ⟨_, hmul.trans (if_neg ?_)⟩
    have hamount := isAmount_mul (approximates_ofNat hn h) (approximates_powerOfTen hk)
      (by exact_mod_cast hlt)
    change ¬UnpackedFloat.isInf _ = true
    generalize Float.toModel _ = m at *
    generalize m.unpack = u at *
    cases hamount <;> nofun

theorem scale?_eq_none (h : n < 2 ^ 64)
    (hle : limit * (2 ^ 53 + 1) ^ 2 ≤ (n : ℚ) * 10 ^ e * 2 ^ 106) :
    scale? n.toUInt64.toFloat e = none := by
  rcases scale?_cases (e := e) h with ⟨y, -, -, he | rfl⟩ | ⟨-, -, hnone⟩ | ⟨hn, k, hk, rfl, hmul⟩
  · exfalso
    have hone : (10 : ℚ) ^ e ≤ 1 := zpow_le_one_of_nonpos₀ (by norm_num) he.le
    have hword : (n : ℚ) * 10 ^ e ≤ n := mul_le_of_le_one_right (by positivity) hone
    have := word_lt_limit h
    nlinarith [limit_pos]
  · exfalso
    rw [Nat.cast_zero, zero_mul, zero_mul] at hle
    have := limit_pos
    exact absurd hle (not_le.2 (by positivity))
  · exact hnone
  · refine hmul.trans (if_pos ?_)
    change UnpackedFloat.isInf _ = true
    rw [infinity_of_mul (approximates_ofNat hn h) (approximates_powerOfTen hk) (by positivity)
      (by exact_mod_cast hle)]
    rfl

/-- A number with few digits and a power of ten that is a float are floats both, so there is only
one rounding. -/
theorem unpack_scale? {m : ℕ} {t : ℤ} (hn : 0 < n) (h : n < 2 ^ 53) (he : e.natAbs ≤ 22)
    (hc : Canonical m t) (hnear : Near m t (n * 10 ^ e)) :
    ∃ y, scale? n.toUInt64.toFloat e = some y ∧
      y.toModel.unpack = .finite .positive m t hc.pos := by
  have hexact := exactly_ofNat hn h
  rcases lt_or_ge e 0 with hneg | hpos
  · obtain ⟨k, hk, rfl⟩ : ∃ k : ℕ, k ≤ 22 ∧ e = -k := ⟨e.natAbs, he, by omega⟩
    rw [zpow_neg, zpow_natCast, ← div_eq_mul_inv] at hnear
    have hsteps : (k - 1) / 308 = 0 := by omega
    refine ⟨n.toUInt64.toFloat / powerOfTen k, ?_,
      unpack_div_of_near hexact (exactly_powerOfTen hk) hc (by exact_mod_cast hnear)⟩
    simp only [scale?, if_pos hneg, neg_neg, Int.toNat_natCast, hsteps, shrink, mul_zero,
      Nat.sub_zero]
  · obtain ⟨k, hk, rfl⟩ : ∃ k : ℕ, k ≤ 22 ∧ e = k := ⟨e.natAbs, he, by omega⟩
    rw [zpow_natCast] at hnear
    have hmul := unpack_mul_of_near hexact (exactly_powerOfTen hk) hc (by exact_mod_cast hnear)
    refine ⟨n.toUInt64.toFloat * powerOfTen k, ?_, hmul⟩
    have hinf : (n.toUInt64.toFloat * powerOfTen k).isInf = false := by
      change UnpackedFloat.isInf _ = false
      rw [hmul]
      rfl
    simp only [scale?, beq_zero_ofNat (h.trans (by norm_num)), decide_eq_true_eq,
      if_neg (not_lt.2 hpos), if_neg hn.ne', Int.toNat_natCast, hinf]
    rw [if_neg (by omega), if_neg Bool.false_ne_true]

namespace Numeral

def value (n : Numeral) : ℚ := n.mantissa * 10 ^ n.power

variable {n : Numeral}

theorem Kept.value_le {k : ℕ} (h : n.Kept k) : (n.kept.1 : ℚ) * 10 ^ n.kept.2 ≤ n.value := by
  have hle : (n.kept.1 : ℚ) * 10 ^ k ≤ n.mantissa := by exact_mod_cast h.le
  rw [h.power, zpow_add₀ (by norm_num), zpow_natCast, value, mul_comm ((10 : ℚ) ^ n.power),
    ← mul_assoc]
  gcongr

theorem Kept.le_value {k : ℕ} (h : n.Kept k) :
    n.value * 10 ^ 18 ≤ n.kept.1 * 10 ^ n.kept.2 * (10 ^ 18 + 1) := by
  have hge : (n.mantissa : ℚ) * 10 ^ 18 ≤ n.kept.1 * 10 ^ k * (10 ^ 18 + 1) := by
    exact_mod_cast h.ge
  have hp : (0 : ℚ) < 10 ^ n.power := by positivity
  rw [h.power, zpow_add₀ (by norm_num), zpow_natCast, value]
  nlinarith [mul_le_mul_of_nonneg_right hge hp.le]

theorem isFinite_of_toFloat? {x : Float} (h : n.toFloat? = some x) : x.isFinite = true := by
  obtain ⟨k, hkept⟩ := n.exists_kept
  obtain ⟨y, hy, rfl⟩ := Option.map_eq_some_iff.1 h
  have hfinite := (isAmount_of_scale? hkept.fits hy).isFinite
  split
  · exact isFinite_neg hfinite
  · exact hfinite

/-- Every numeral is read that is not too close to the greatest float. -/
theorem exists_toFloat? (h : n.value * 2 ^ 106 < limit * (2 ^ 53 - 1) ^ 2) :
    ∃ x, n.toFloat? = some x := by
  obtain ⟨k, hkept⟩ := n.exists_kept
  obtain ⟨y, hy⟩ := exists_scale? hkept.fits (by linarith [hkept.value_le])
  exact ⟨_, Option.map_eq_some_iff.2 ⟨y, hy, rfl⟩⟩

/-- No numeral is read that is far enough beyond the greatest float. -/
theorem toFloat?_eq_none
    (h : limit * (2 ^ 53 + 1) ^ 2 * (10 ^ 18 + 1) ≤ n.value * 2 ^ 106 * 10 ^ 18) :
    n.toFloat? = none := by
  obtain ⟨k, hkept⟩ := n.exists_kept
  have hle : limit * (2 ^ 53 + 1) ^ 2 ≤ (n.kept.1 : ℚ) * 10 ^ n.kept.2 * 2 ^ 106 := by
    linarith [hkept.le_value]
  exact Option.map_eq_none_iff.2 (scale?_eq_none hkept.fits hle)

/-- What a numeral of few digits is read as: the float in whose interval it lies. -/
theorem exists_toFloat?_of_near {m : ℕ} {t : ℤ} (hn : 0 < n.mantissa) (hm : n.mantissa < 2 ^ 53)
    (hp : n.power.natAbs ≤ 22) (hc : Canonical m t) (hnear : Near m t n.value) :
    ∃ y, n.toFloat? = some (if n.negative then -y else y) ∧
      y.toModel.unpack = .finite .positive m t hc.pos := by
  obtain ⟨y, hy, hu⟩ := unpack_scale? hn hm hp hc hnear
  refine ⟨y, ?_, hu⟩
  rw [toFloat?, kept_of_lt (hm.trans (by norm_num))]
  dsimp only
  rw [hy]
  rfl

theorem limit_eq : limit * 2 = (2 ^ 54 - 1) * 2 ^ 971 := by
  rw [limit, limitAt]
  generalize hp : (2 : ℚ) ^ (971 : ℤ) = p
  have hpow : (2 : ℚ) ^ 971 = p := hp
  rw [hpow]
  ring

theorem scaled_lt {a b m k c d : ℕ} (h : a * m ^ c < b * k ^ d) :
    (a : ℚ) * m ^ c < b * k ^ d := by
  exact_mod_cast h

/-- A bound with few digits that is below the greatest float, but not by much. -/
theorem lt_limit_of_value_le (h : n.value ≤ 17976931348623154 * 10 ^ 292) :
    n.value * 2 ^ 106 < limit * (2 ^ 53 - 1) ^ 2 := by
  have hlt := scaled_lt (a := 17976931348623154 * 2 ^ 107) (m := 10) (c := 292)
    (b := (2 ^ 54 - 1) * (2 ^ 53 - 1) ^ 2) (k := 2) (d := 971) (by decide +kernel)
  have hlimit := limit_eq
  rw [Nat.cast_ofNat, Nat.cast_ofNat] at hlt
  generalize (10 : ℚ) ^ 292 = t at *
  generalize (2 : ℚ) ^ 971 = p at *
  norm_num at hlt hlimit
  linarith

/-- A bound with few digits that is beyond the greatest float, but not by much. -/
theorem limit_le_of_le_value (h : 17976931348623163 * 10 ^ 292 ≤ n.value) :
    limit * (2 ^ 53 + 1) ^ 2 * (10 ^ 18 + 1) ≤ n.value * 2 ^ 106 * 10 ^ 18 := by
  have hlt := scaled_lt (a := (2 ^ 54 - 1) * (2 ^ 53 + 1) ^ 2 * (10 ^ 18 + 1)) (m := 2) (c := 971)
    (b := 17976931348623163 * 2 ^ 107 * 10 ^ 18) (k := 10) (d := 292) (by decide +kernel)
  have hlimit := limit_eq
  rw [Nat.cast_ofNat, Nat.cast_ofNat] at hlt
  generalize (10 : ℚ) ^ 292 = t at *
  generalize (2 : ℚ) ^ 971 = p at *
  norm_num at hlt hlimit
  linarith

end Numeral

end TokenTariff
