import Mathlib
import TokenTariff.Decimal.Numeral
import TokenTariff.Proofs.Binary64.Packing

/-!
# Products and quotients

Products and quotients are rounded from integers with enough bits. Of two numbers that are floats
themselves, such as natural numbers below `2 ^ 53` and the first powers of ten, the product or
quotient is the float whose interval the exact one lies in.
-/

namespace TokenTariff.Binary64

open Float.Model Float.Model.UnpackedFloat

theorem holds_accuracyOfFraction {n d : ℕ} (hd : 0 < d) :
    Holds (ExtendedMantissa.ofMantissaAndAccuracy (n / d) (accuracyOfFraction (n % d) d))
      ((n : ℚ) / d) := by
  have hd' : (0 : ℚ) < d := by exact_mod_cast hd
  have hn : (n : ℚ) / d = (n / d : ℕ) + (n % d : ℕ) / d := by
    have : (n : ℚ) = d * (n / d : ℕ) + (n % d : ℕ) := by exact_mod_cast (Nat.div_add_mod n d).symm
    field_simp
    linarith
  have hlt : ((n % d : ℕ) : ℚ) / d < 1 := by
    rw [div_lt_one hd']
    exact_mod_cast Nat.mod_lt n hd
  rw [hn]
  generalize n % d = r at *
  unfold accuracyOfFraction
  split
  · rename_i h0
    simp [Holds, ExtendedMantissa.ofMantissaAndAccuracy, h0]
  · rename_i h0
    have hpos : 0 < (r : ℚ) / d := by
      have : 0 < r := Nat.pos_of_ne_zero h0
      positivity
    rcases lt_trichotomy (2 * r) d with h | h | h
    · rw [Nat.compare_eq_lt.2 h]
      have : (r : ℚ) / d < 1 / 2 := by
        rw [div_lt_div_iff₀ hd' (by norm_num)]
        exact_mod_cast (by omega : r * 2 < 1 * d)
      simp only [Holds, ExtendedMantissa.ofMantissaAndAccuracy]
      exact ⟨by linarith, by linarith⟩
    · rw [Nat.compare_eq_eq.2 h]
      have : (r : ℚ) / d = 1 / 2 := by
        rw [div_eq_div_iff hd'.ne' (by norm_num)]
        exact_mod_cast (by omega : r * 2 = 1 * d)
      simp only [Holds, ExtendedMantissa.ofMantissaAndAccuracy, this]
    · rw [Nat.compare_eq_gt.2 h]
      have : 1 / 2 < (r : ℚ) / d := by
        rw [div_lt_div_iff₀ (by norm_num) hd']
        exact_mod_cast (by omega : 1 * d < r * 2)
      simp only [Holds, ExtendedMantissa.ofMantissaAndAccuracy]
      exact ⟨by linarith, by linarith⟩

theorem holds_mul (m n : ℕ) (e f : ℤ) :
    Holds (ExtendedMantissa.ofMantissaAndAccuracy (m * n) .exact)
      ((m : ℚ) * 2 ^ e * (n * 2 ^ f) / 2 ^ (e + f)) := by
  have hv : (m : ℚ) * 2 ^ e * (n * 2 ^ f) / 2 ^ (e + f) = (m * n : ℕ) := by
    rw [zpow_add₀ (by norm_num)]
    have he : (0 : ℚ) < 2 ^ e := by positivity
    have hf : (0 : ℚ) < 2 ^ f := by positivity
    push_cast
    field_simp
  rw [hv]
  rfl

/-- A product of which enough bits are there rounds to the float near it. -/
theorem mul_of_near {M m n : ℕ} {E e f : ℤ} (hm : 0 < m) (hn : 0 < n) (hc : Canonical M E)
    (hnear : Near M E (m * 2 ^ e * (n * 2 ^ f))) (hbits : 52 ≤ (m * n).log2) :
    UnpackedFloat.mul .binary64 (.finite .positive m e hm) (.finite .positive n f hn) =
      .finite .positive M E hc.pos :=
  roundWithAccuracy_of_near .positive hc hnear (holds_mul m n e f) (by omega)

/-- The whole part of a quotient has 53 bits if the dividend has been shifted far enough. -/
theorem le_shifted_div {m n k : ℕ} (hm : 0 < m) (hn : 0 < n) (hk : 53 + n.log2 ≤ m.log2 + k) :
    2 ^ 52 ≤ m * 2 ^ k / n := by
  rw [Nat.le_div_iff_mul_le hn]
  calc 2 ^ 52 * n ≤ 2 ^ 52 * 2 ^ (n.log2 + 1) := by
        gcongr
        exact Nat.lt_log2_self.le
    _ = 2 ^ (52 + (n.log2 + 1)) := (Nat.pow_add ..).symm
    _ ≤ 2 ^ (m.log2 + k) := Nat.pow_le_pow_right (by norm_num) (by omega)
    _ = 2 ^ m.log2 * 2 ^ k := Nat.pow_add ..
    _ ≤ m * 2 ^ k := by
        gcongr
        exact Nat.log2_self_le hm.ne'

/-- A quotient is rounded from its whole part and what is left, at an exponent that leaves enough
bits. -/
theorem exists_div_eq_round {m n : ℕ} {e f : ℤ} (s s' : Sign) (hm : 0 < m) (hn : 0 < n) :
    ∃ k t a, UnpackedFloat.div .binary64 (.finite s m e hm) (.finite s' n f hn) =
        roundWithAccuracy .binary64 (s / s') k t a ∧
      Holds (ExtendedMantissa.ofMantissaAndAccuracy k a) ((m : ℚ) * 2 ^ e / (n * 2 ^ f) / 2 ^ t) ∧
      t ≤ max (k.log2 + t - 52) (-1074) := by
  simp only [UnpackedFloat.div, divCore]
  have htarget : Format.binary64.targetExponent (totalExponent m e - totalExponent n f) =
      max (m.log2 + e - n.log2 - f - 53) (-1074) := by
    simp only [Format.targetExponent, totalExponent, Format.mantissaBits, Format.minExponent]
    norm_num
    omega
  rw [htarget]
  set t := min (e - f) (max ((m.log2 : ℤ) + e - n.log2 - f - 53) (-1074)) with ht
  have hsplit : (2 : ℚ) ^ (e - f - t).toNat * 2 ^ t = 2 ^ e / 2 ^ f := by
    rw [← zpow_natCast, ← zpow_add₀ (by norm_num), ← zpow_sub₀ (by norm_num)]
    congr 1
    omega
  rw [Nat.shiftLeft_eq]
  refine ⟨_, _, _, rfl, ?_, ?_⟩
  · have hv : (m : ℚ) * 2 ^ e / (n * 2 ^ f) / 2 ^ t = (m * 2 ^ (e - f - t).toNat : ℕ) / n := by
      have hf : (0 : ℚ) < 2 ^ f := by positivity
      have ht' : (0 : ℚ) < 2 ^ t := by positivity
      have hn' : (0 : ℚ) < n := by exact_mod_cast hn
      push_cast
      rw [div_div, div_eq_div_iff (by positivity) hn'.ne']
      rw [eq_div_iff hf.ne'] at hsplit
      linear_combination (-(m : ℚ) * n) * hsplit
    rw [hv]
    exact holds_accuracyOfFraction hn
  · rcases le_or_gt t (-1074) with h | h
    · exact h.trans (le_max_right _ _)
    · have hbits : 2 ^ 52 ≤ m * 2 ^ (e - f - t).toNat / n := le_shifted_div hm hn (by omega)
      have := (Nat.le_log2 (by omega)).2 hbits
      omega

theorem div_of_near {M m n : ℕ} {E e f : ℤ} (hm : 0 < m) (hn : 0 < n) (hc : Canonical M E)
    (hnear : Near M E (m * 2 ^ e / (n * 2 ^ f))) :
    UnpackedFloat.div .binary64 (.finite .positive m e hm) (.finite .positive n f hn) =
      .finite .positive M E hc.pos := by
  obtain ⟨k, t, a, hdiv, hholds, ht⟩ := exists_div_eq_round .positive .positive hm hn
  rw [hdiv]
  exact roundWithAccuracy_of_near .positive hc hnear hholds ht

theorem Near.bounds {m : ℕ} {e : ℤ} {q : ℚ} (hc : Canonical m e) (hn : Near m e q) :
    (2 : ℚ) ^ (-1075 : ℤ) ≤ q ∧ q < 2 ^ (1024 : ℤ) := by
  have hm : (1 : ℚ) ≤ m := by exact_mod_cast hc.pos
  have hm' : (m : ℚ) + 1 ≤ 2 ^ 53 := by exact_mod_cast hc.lt
  constructor
  · calc (2 : ℚ) ^ (-1075 : ℤ) = 1 / 2 * 2 ^ (-1074 : ℤ) := by
          rw [one_div, ← zpow_neg_one, ← zpow_add₀ (by norm_num)]
          rfl
      _ ≤ 1 / 2 * 2 ^ e := by
          have := zpow_le_zpow_right₀ (by norm_num : (1 : ℚ) ≤ 2) hc.least
          gcongr
      _ ≤ below m e * 2 ^ e := by
          have := half_le_below m e
          gcongr
          linarith
      _ ≤ q := hn.lower
  · calc q ≤ (m + 1 / 2) * 2 ^ e := hn.upper
      _ < 2 ^ 53 * 2 ^ e := by gcongr; linarith
      _ ≤ 2 ^ 53 * 2 ^ (971 : ℤ) := by
          have := zpow_le_zpow_right₀ (by norm_num : (1 : ℚ) ≤ 2) hc.most
          gcongr
      _ = 2 ^ (1024 : ℤ) := by
          rw [← zpow_natCast, ← zpow_add₀ (by norm_num)]
          rfl

/-- A float that is just the natural number `n`, with all its bits in use. -/
def Exactly (n : ℕ) (u : UnpackedFloat) : Prop :=
  ∃ (m : ℕ) (e : ℤ) (hm : 0 < m), 2 ^ 52 ≤ m ∧ (m : ℚ) * 2 ^ e = n ∧ u = .finite .positive m e hm

theorem log2_shiftLeft {n : ℕ} (hn : n ≠ 0) (k : ℕ) : (n <<< k).log2 = n.log2 + k := by
  have hne : n <<< k ≠ 0 := by
    rw [Nat.shiftLeft_eq]
    positivity
  have hlow := Nat.log2_self_le hn
  have hhigh := Nat.lt_log2_self (n := n)
  rw [Nat.log2_eq_iff hne, Nat.shiftLeft_eq, Nat.pow_add, Nat.add_right_comm, Nat.pow_add]
  exact ⟨Nat.mul_le_mul_right _ hlow, Nat.mul_lt_mul_of_pos_right hhigh (by positivity)⟩

/-- The float of a word is rounded from the word, with zeros behind it if it has few bits. -/
theorem exists_toFloat_eq_round {n : ℕ} (hn : 0 < n) (h : n < 2 ^ 64) :
    ∃ k, (k = 0 ∨ n < 2 ^ 53 ∧ n.log2 + k = 52) ∧ 52 ≤ (n <<< k).log2 ∧
      n.toUInt64.toFloat.toModel.unpack = (Float.Model.pack
        (roundWithAccuracy .binary64 .positive (n <<< k) (-k) .exact)).unpack ∧
      Holds (ExtendedMantissa.ofMantissaAndAccuracy (n <<< k) .exact) ((n : ℚ) / 2 ^ (-k : ℤ)) := by
  have hword : n.toUInt64.toNat = n := Nat.mod_eq_of_lt h
  have hlog : (n <<< (52 - n.log2)).log2 = n.log2 + (52 - n.log2) := by
    rw [log2_shiftLeft hn.ne']
  refine ⟨52 - n.log2, ?_, by omega, ?_, ?_⟩
  · by_cases hbits : n.log2 < 52
    · exact .inr ⟨(Nat.log2_lt hn.ne').1 (by omega), by omega⟩
    · exact .inl (by omega)
  · have hk : ((0 : ℤ) - max ((n.log2 : ℤ) + 0 - 52) (-1074)).toNat = 52 - n.log2 := by omega
    have he : (0 : ℤ) - (52 - n.log2 : ℕ) = -(52 - n.log2 : ℕ) := by omega
    change (Float.Model.pack (UnpackedFloat.normalize .binary64 (n.toUInt64.toNat : ℤ) 0
      .positive)).unpack = _
    rw [hword, UnpackedFloat.normalize, Int.compare_eq_gt.2 (by omega)]
    simp only [Int.toNat_natCast, UnpackedFloat.round, decreaseExponent, targetExponent_eq, hk, he]
  · have hv : (n : ℚ) / 2 ^ (-(52 - n.log2 : ℕ) : ℤ) = (n <<< (52 - n.log2) : ℕ) := by
      rw [Nat.shiftLeft_eq, zpow_neg, zpow_natCast, div_inv_eq_mul]
      push_cast
      rfl
    rw [hv]
    rfl

theorem exactly_ofNat {n : ℕ} (hn : 0 < n) (h : n < 2 ^ 53) :
    Exactly n n.toUInt64.toFloat.toModel.unpack := by
  obtain ⟨k, hk, hbits, hround, hholds⟩ := exists_toFloat_eq_round hn (by omega)
  have hfull : 2 ^ 52 ≤ n <<< k := by
    have hpos : n <<< k ≠ 0 := by
      rw [Nat.shiftLeft_eq]
      positivity
    exact (Nat.le_log2 hpos).1 hbits
  have hfit : n <<< k < 2 ^ 53 := by
    rcases hk with rfl | ⟨-, hk⟩
    · simpa using h
    · refine (Nat.log2_lt (by omega)).1 ?_
      rw [log2_shiftLeft hn.ne']
      omega
  have hc : Canonical (n <<< k) (-k) := ⟨by omega, hfit, by omega, .inl hfull, by omega⟩
  have hv : ((n <<< k : ℕ) : ℚ) * 2 ^ (-k : ℤ) = n := by
    rw [Nat.shiftLeft_eq, zpow_neg, zpow_natCast]
    push_cast
    field_simp
  refine ⟨n <<< k, -k, hc.pos, hfull, hv, ?_⟩
  rw [hround, roundWithAccuracy_of_near .positive hc (hv ▸ near_self _ _) hholds (by omega),
    unpack_pack _ hc]

/-- Whether a float is just the natural number `n`, in integers. -/
def isExactly (n : ℕ) : UnpackedFloat → Bool
  | .finite .positive m e _ =>
    decide (2 ^ 52 ≤ m ∧ -52 ≤ e ∧ m * 2 ^ (e + 52).toNat = n * 2 ^ 52)
  | _ => false

theorem exactly_of_isExactly {n : ℕ} {u : UnpackedFloat} (h : isExactly n u = true) :
    Exactly n u := by
  unfold isExactly at h
  split at h
  · rename_i m e hm
    obtain ⟨hfull, he, hv⟩ := of_decide_eq_true h
    refine ⟨m, e, hm, hfull, ?_, rfl⟩
    have hv' : (m : ℚ) * 2 ^ (e + 52).toNat = n * 2 ^ 52 := by exact_mod_cast hv
    rw [← zpow_natCast, Int.toNat_of_nonneg (by omega), zpow_add₀ (by norm_num), ← mul_assoc] at hv'
    exact mul_right_cancel₀ (by norm_num) hv'
  · cases h

theorem isExactly_powerOfTen :
    ∀ k : Fin 23, isExactly (10 ^ k.val) (powerOfTen k).toModel.unpack = true := by
  decide +kernel

theorem exactly_powerOfTen {k : ℕ} (hk : k ≤ 22) :
    Exactly (10 ^ k) (powerOfTen k).toModel.unpack :=
  exactly_of_isExactly (isExactly_powerOfTen ⟨k, by omega⟩)

theorem unpack_mul_of_near {M a b : ℕ} {E : ℤ} {x y : Float} (hx : Exactly a x.toModel.unpack)
    (hy : Exactly b y.toModel.unpack) (hc : Canonical M E) (hn : Near M E (a * b)) :
    (x * y).toModel.unpack = .finite .positive M E hc.pos := by
  obtain ⟨m, e, hm, hmf, hv, hu⟩ := hx
  obtain ⟨n, f, hn0, hnf, hw, hu'⟩ := hy
  change (Float.Model.pack (UnpackedFloat.mul .binary64 x.toModel.unpack y.toModel.unpack)).unpack
    = _
  have hbits : 2 ^ 52 ≤ m * n := hmf.trans (Nat.le_mul_of_pos_right m hn0)
  rw [hu, hu', mul_of_near hm hn0 hc (by rwa [hv, hw]) ((Nat.le_log2 (by positivity)).2 hbits),
    unpack_pack _ hc]

theorem unpack_div_of_near {M a b : ℕ} {E : ℤ} {x y : Float} (hx : Exactly a x.toModel.unpack)
    (hy : Exactly b y.toModel.unpack) (hc : Canonical M E) (hn : Near M E (a / b)) :
    (x / y).toModel.unpack = .finite .positive M E hc.pos := by
  obtain ⟨m, e, hm, -, hv, hu⟩ := hx
  obtain ⟨n, f, hn0, -, hw, hu'⟩ := hy
  change (Float.Model.pack (UnpackedFloat.div .binary64 x.toModel.unpack y.toModel.unpack)).unpack
    = _
  rw [hu, hu', div_of_near hm hn0 hc (by rwa [hv, hw]), unpack_pack _ hc]

end TokenTariff.Binary64
