import Mathlib

/-!
# Rounding to 64 bits

A finite positive float is a mantissa and an exponent in canonical form. The reals that round to it
form an interval around it, which is narrower below a power of two and has its ends exactly when the
mantissa is even. The main statement is that the model of floats rounds every real of that interval,
given by a mantissa with its residual bits, to the float in its middle.
-/

namespace TokenTariff.Binary64

open Float.Model Float.Model.UnpackedFloat

/-- The mantissas and exponents of finite positive floats. -/
structure Canonical (m : ℕ) (e : ℤ) : Prop where
  pos : 0 < m
  lt : m < 2 ^ 53
  least : -1074 ≤ e
  full : 2 ^ 52 ≤ m ∨ e = -1074
  most : e ≤ 971

/-- The gap to the next float below is half the gap above. -/
def Narrow (m : ℕ) (e : ℤ) : Prop := m = 2 ^ 52 ∧ -1074 < e

instance (m : ℕ) (e : ℤ) : Decidable (Narrow m e) := inferInstanceAs (Decidable (_ ∧ _))

/-- The lower end of the interval that rounds to a float, in units of its last place. -/
def below (m : ℕ) (e : ℤ) : ℚ := if Narrow m e then m - 1 / 4 else m - 1 / 2

/-- The rational number lies in the interval that rounds to a float. -/
structure Near (m : ℕ) (e : ℤ) (q : ℚ) : Prop where
  lower : below m e * 2 ^ e ≤ q
  upper : q ≤ (m + 1 / 2) * 2 ^ e
  even : q = below m e * 2 ^ e ∨ q = (m + 1 / 2) * 2 ^ e → m % 2 = 0

/-- What the residual bits of a mantissa say about a number. -/
def Holds (em : ExtendedMantissa) (y : ℚ) : Prop :=
  match em.roundBit, em.stickyBit with
  | false, false => y = em.mantissa
  | false, true => em.mantissa < y ∧ y < em.mantissa + 1 / 2
  | true, false => y = em.mantissa + 1 / 2
  | true, true => em.mantissa + 1 / 2 < y ∧ y < em.mantissa + 1

theorem Holds.floor {em : ExtendedMantissa} {y : ℚ} (h : Holds em y) :
    (em.mantissa : ℚ) ≤ y ∧ y < em.mantissa + 1 := by
  rcases em with ⟨m, r, s⟩
  cases r <;> cases s <;> simp only [Holds] at h ⊢
  · rw [h]
    exact ⟨le_rfl, by linarith⟩
  · exact ⟨h.1.le, by linarith [h.2]⟩
  · rw [h]
    exact ⟨by linarith, by linarith⟩
  · exact ⟨by linarith [h.1], h.2⟩

theorem Holds.shiftRightOne {em : ExtendedMantissa} {y : ℚ} (h : Holds em y) :
    Holds em.shiftRightOne (y / 2) := by
  rcases em with ⟨m, r, s⟩
  have hm : (m : ℚ) = 2 * (m / 2 : ℕ) + (m % 2 : ℕ) := by
    exact_mod_cast (Nat.div_add_mod m 2).symm
  rcases Nat.mod_two_eq_zero_or_one m with h2 | h2 <;> rw [h2] at hm <;> push_cast at hm <;>
    cases r <;> cases s <;>
    simp only [Holds, ExtendedMantissa.shiftRightOne, h2, Bool.or_false, Bool.or_true,
      bne_self_eq_false, Nat.reduceBNe] at h ⊢ <;>
    first | linarith | exact ⟨by linarith, by linarith⟩

theorem Holds.shiftRight {em : ExtendedMantissa} {y : ℚ} (h : Holds em y) (k : ℕ) :
    Holds (em >>> k) (y / 2 ^ k) := by
  change Holds (k.repeat ExtendedMantissa.shiftRightOne em) _
  induction k with
  | zero => simpa [Nat.repeat] using h
  | succ k ih =>
    rw [Nat.repeat, pow_succ, ← div_div]
    exact ih.shiftRightOne

/-- Rounding goes to the integer within half a unit, if that is even in case of a tie. -/
theorem Holds.roundedMantissa {em : ExtendedMantissa} {y : ℚ} {M : ℕ} (h : Holds em y)
    (hl : (M : ℚ) - 1 / 2 ≤ y) (hu : y ≤ M + 1 / 2)
    (ht : y = M - 1 / 2 ∨ y = M + 1 / 2 → M % 2 = 0) : em.roundedMantissa = M := by
  obtain ⟨hf, hc⟩ := h.floor
  have h₁ : em.mantissa ≤ M := by
    have : (em.mantissa : ℚ) < M + 1 := by linarith
    exact_mod_cast Nat.lt_succ_iff.1 (by exact_mod_cast this)
  have h₂ : M ≤ em.mantissa + 1 := by
    have : (M : ℚ) < em.mantissa + 2 := by linarith
    have : M < em.mantissa + 2 := by exact_mod_cast this
    omega
  rcases em with ⟨m, r, s⟩
  obtain rfl | rfl : M = m ∨ M = m + 1 := by simp only at h₁ h₂; omega
  all_goals
    cases r <;> cases s <;>
      simp only [Holds, ExtendedMantissa.roundedMantissa, ExtendedMantissa.accuracy,
        Accuracy.roundToNearestEven] at h ⊢
  · rw [ht (.inr h), Nat.add_zero]
  · linarith [h.1]
  · push_cast at hl
    linarith
  · push_cast at hl
    linarith [h.2]
  · have := ht (.inl (by push_cast; linarith))
    omega

theorem holds_ofMantissaAndAccuracy_mantissa (m : ℕ) (a : Accuracy) :
    (ExtendedMantissa.ofMantissaAndAccuracy m a).mantissa = m := by
  rcases a with _ | (_ | _ | _) <;> rfl

theorem targetExponent_eq (m : ℕ) (e : ℤ) :
    Format.binary64.targetExponent (totalExponent m e) = max (m.log2 + e - 52) (-1074) := by
  simp only [Format.targetExponent, totalExponent, Format.mantissaBits, Format.minExponent]
  norm_num
  omega

/-- The exponent to which a number is shifted leaves 53 bits of it, or fewer at the least one. -/
theorem Holds.target_bounds {m : ℕ} {e : ℤ} {a : Accuracy} {q : ℚ}
    (h : Holds (ExtendedMantissa.ofMantissaAndAccuracy m a) (q / 2 ^ e))
    (he : e ≤ max (m.log2 + e - 52) (-1074)) :
    (max (m.log2 + e - 52) (-1074) = -1074 ∨ (2 : ℚ) ^ (52 + max (m.log2 + e - 52) (-1074)) ≤ q) ∧
      q < 2 ^ (53 + max (m.log2 + e - 52) (-1074)) := by
  set t := max ((m.log2 : ℤ) + e - 52) (-1074) with ht
  have hp : (0 : ℚ) < 2 ^ e := by positivity
  obtain ⟨hl, hu⟩ := h.floor
  rw [holds_ofMantissaAndAccuracy_mantissa] at hl hu
  rw [le_div_iff₀ hp] at hl
  rw [div_lt_iff₀ hp] at hu
  constructor
  · rcases eq_or_ne t (-1074) with h0 | h0
    · exact .inl h0
    · right
      have hm : m ≠ 0 := by
        rintro rfl
        simp only [Nat.log2_zero] at ht
        omega
      have hlog : (2 : ℚ) ^ m.log2 ≤ m := by exact_mod_cast Nat.log2_self_le hm
      calc (2 : ℚ) ^ (52 + t) = 2 ^ m.log2 * 2 ^ e := by
            rw [← zpow_natCast, ← zpow_add₀ (by norm_num)]
            congr 1
            omega
        _ ≤ m * 2 ^ e := by gcongr
        _ ≤ q := hl
  · have hlog : ((m : ℚ) + 1) ≤ 2 ^ (m.log2 + 1) := by exact_mod_cast Nat.lt_log2_self (n := m)
    calc q < (m + 1) * 2 ^ e := hu
      _ ≤ 2 ^ (m.log2 + 1) * 2 ^ e := by gcongr
      _ = 2 ^ ((m.log2 : ℤ) + 1 + e) := by
            rw [← zpow_natCast, ← zpow_add₀ (by norm_num)]
            push_cast
            rfl
      _ ≤ 2 ^ (53 + t) := zpow_le_zpow_right₀ (by norm_num) (by omega)

theorem shiftToTargetExponent_of_le {m : ℕ} {e : ℤ} (h : max (m.log2 + e - 52) (-1074) ≤ e) :
    shiftToTargetExponent .binary64 m e .exact = (⟨m, false, false⟩, e) := by
  have hk : (Format.binary64.targetExponent (totalExponent m e) - e).toNat = 0 := by
    rw [targetExponent_eq]
    omega
  simp only [shiftToTargetExponent, shiftToExponent, hk]
  change (ExtendedMantissa.ofMantissaAndAccuracy m .exact, e + 0) = _
  rw [add_zero]
  rfl

/-- A mantissa that rounding has made too long loses its last bit. -/
theorem shiftToTargetExponent_carry {e : ℤ} (h : -1074 ≤ e) :
    shiftToTargetExponent .binary64 (2 ^ 53) e .exact = (⟨2 ^ 52, false, false⟩, e + 1) := by
  have hk : (Format.binary64.targetExponent (totalExponent (2 ^ 53) e) - e).toNat = 1 := by
    rw [targetExponent_eq, Nat.log2_two_pow]
    omega
  simp only [shiftToTargetExponent, shiftToExponent, hk]
  rfl

theorem log2_le_of_lt {m k : ℕ} (h : m < 2 ^ (k + 1)) : m.log2 ≤ k := by
  rcases Nat.eq_zero_or_pos m with rfl | hm
  · simp
  · exact Nat.lt_succ_iff.1 ((Nat.log2_lt hm.ne').2 h)

theorem Canonical.not_shifted {m : ℕ} {e : ℤ} (h : Canonical m e) :
    max (m.log2 + e - 52) (-1074) ≤ e := by
  have := log2_le_of_lt (k := 52) h.lt
  have := h.least
  omega

theorem half_le_below (m : ℕ) (e : ℤ) : (m : ℚ) - 1 / 2 ≤ below m e := by
  unfold below
  split <;> linarith

theorem near_self (m : ℕ) (e : ℤ) : Near m e (m * 2 ^ e) := by
  have hp : (0 : ℚ) < 2 ^ e := by positivity
  have hb : below m e < m := by
    unfold below
    split <;> linarith
  refine ⟨by gcongr, by gcongr; linarith, ?_⟩
  rintro (h | h)
  · exact absurd (mul_right_cancel₀ hp.ne' h) hb.ne'
  · have := mul_right_cancel₀ hp.ne' h
    linarith

/-- A number that rounds to a float is shifted to the exponent of the float, unless it lies below a
power of two: then it keeps one more bit. -/
theorem Near.exponent {m : ℕ} {e t : ℤ} {q : ℚ} (hc : Canonical m e) (hn : Near m e q)
    (ht : -1074 ≤ t) (hlo : t = -1074 ∨ (2 : ℚ) ^ (52 + t) ≤ q) (hhi : q < 2 ^ (53 + t)) :
    t = e ∨ Narrow m e ∧ t = e - 1 := by
  have hp : (0 : ℚ) < 2 ^ e := by positivity
  have hsplit (k : ℕ) : (2 : ℚ) ^ ((k : ℤ) + e) = 2 ^ k * 2 ^ e := by
    rw [zpow_add₀ (by norm_num), zpow_natCast]
  have hle : t ≤ e := by
    rcases hlo with rfl | hlo
    · exact hc.least
    · have hm : (m : ℚ) + 1 ≤ 2 ^ 53 := by exact_mod_cast hc.lt
      have hlt : (2 : ℚ) ^ (52 + t) < 2 ^ (53 + e) := by
        calc (2 : ℚ) ^ (52 + t) ≤ (m + 1 / 2) * 2 ^ e := hlo.trans hn.upper
          _ < 2 ^ 53 * 2 ^ e := mul_lt_mul_of_pos_right (by linarith) hp
          _ = 2 ^ (53 + e) := (hsplit 53).symm
      have := (zpow_lt_zpow_iff_right₀ (by norm_num : (1 : ℚ) < 2)).1 hlt
      omega
  rcases eq_or_lt_of_le hc.least with h0 | h0
  · omega
  have hfull : 2 ^ 52 ≤ m := hc.full.resolve_right h0.ne'
  rcases eq_or_lt_of_le hfull with hm | hm
  · have hnarrow : Narrow m e := ⟨hm.symm, h0⟩
    have hlt : (2 : ℚ) ^ (51 + e) < 2 ^ (53 + t) := by
      calc (2 : ℚ) ^ (51 + e) = 2 ^ 51 * 2 ^ e := hsplit 51
        _ < below m e * 2 ^ e := by
          refine mul_lt_mul_of_pos_right ?_ hp
          rw [below, if_pos hnarrow, ← hm]
          norm_num
        _ < 2 ^ (53 + t) := hn.lower.trans_lt hhi
    have := (zpow_lt_zpow_iff_right₀ (by norm_num : (1 : ℚ) < 2)).1 hlt
    by_cases hte : t = e
    · exact .inl hte
    · exact .inr ⟨hnarrow, by omega⟩
  · have hm' : (2 : ℚ) ^ 52 + 1 ≤ m := by exact_mod_cast hm
    have hlt : (2 : ℚ) ^ (52 + e) < 2 ^ (53 + t) := by
      calc (2 : ℚ) ^ (52 + e) = 2 ^ 52 * 2 ^ e := hsplit 52
        _ < below m e * 2 ^ e :=
          mul_lt_mul_of_pos_right (by linarith [half_le_below m e]) hp
        _ < 2 ^ (53 + t) := hn.lower.trans_lt hhi
    have := (zpow_lt_zpow_iff_right₀ (by norm_num : (1 : ℚ) < 2)).1 hlt
    omega

/-- With the exponent of the float, a number that rounds to it is within half a unit. -/
theorem Near.rounded {m : ℕ} {e : ℤ} {q : ℚ} {em : ExtendedMantissa} (hn : Near m e q)
    (h : Holds em (q / 2 ^ e)) : em.roundedMantissa = m := by
  have hp : (0 : ℚ) < 2 ^ e := by positivity
  have hq : q = q / 2 ^ e * 2 ^ e := (div_mul_cancel₀ _ hp.ne').symm
  have hb : below m e ≤ q / 2 ^ e := (le_div_iff₀ hp).2 hn.lower
  apply h.roundedMantissa ((half_le_below m e).trans hb) ((div_le_iff₀ hp).2 hn.upper)
  rintro (hy | hy)
  · refine hn.even (.inl ?_)
    have : below m e = m - 1 / 2 := le_antisymm (hb.trans hy.le) (half_le_below m e)
    rw [hq, hy, this]
  · exact hn.even (.inr (by rw [hq, hy]))

/-- With one bit more, a number just below a power of two is rounded up to it. -/
theorem Near.rounded_narrow {m : ℕ} {e : ℤ} {q : ℚ} {em : ExtendedMantissa} (hn : Near m e q)
    (hm : Narrow m e) (hhi : q < 2 ^ (52 + e)) (h : Holds em (q / 2 ^ (e - 1))) :
    em.roundedMantissa = 2 ^ 53 := by
  have hp : (0 : ℚ) < 2 ^ (e - 1) := by positivity
  have he : (2 : ℚ) ^ e = 2 * 2 ^ (e - 1) := by
    rw [← zpow_one_add₀ (by norm_num)]
    congr 1
    omega
  have hl : (2 : ℚ) ^ 53 - 1 / 2 ≤ q / 2 ^ (e - 1) := by
    rw [le_div_iff₀ hp]
    have := hn.lower
    rw [below, if_pos hm, hm.1, he] at this
    push_cast at this
    linarith
  have hu : q / 2 ^ (e - 1) < 2 ^ 53 := by
    rw [div_lt_iff₀ hp]
    rw [zpow_add₀ (by norm_num), he] at hhi
    norm_num at hhi ⊢
    linarith
  refine h.roundedMantissa ?_ ?_ fun _ => by norm_num
  · exact_mod_cast hl
  · push_cast
    linarith

/-- A number given by a mantissa with its residual bits, after the shift to its exponent. -/
theorem Holds.shifted {m : ℕ} {e : ℤ} {a : Accuracy} {q : ℚ}
    (h : Holds (ExtendedMantissa.ofMantissaAndAccuracy m a) (q / 2 ^ e))
    (he : e ≤ max (m.log2 + e - 52) (-1074)) :
    ∃ em t, shiftToTargetExponent .binary64 m e a = (em, t) ∧ Holds em (q / 2 ^ t) ∧
      -1074 ≤ t ∧ (t = -1074 ∨ (2 : ℚ) ^ (52 + t) ≤ q) ∧ q < 2 ^ (53 + t) := by
  obtain ⟨hlo, hhi⟩ := h.target_bounds he
  have hge : (-1074 : ℤ) ≤ max (m.log2 + e - 52) (-1074) := le_max_right _ _
  have hshift : shiftToTargetExponent .binary64 m e a =
      (ExtendedMantissa.ofMantissaAndAccuracy m a >>> (max (m.log2 + e - 52) (-1074) - e).toNat,
        max (m.log2 + e - 52) (-1074)) := by
    simp only [shiftToTargetExponent, shiftToExponent, targetExponent_eq]
    congr 1
    omega
  generalize max ((m.log2 : ℤ) + e - 52) (-1074) = t at *
  refine ⟨_, t, hshift, ?_, hge, hlo, hhi⟩
  have hem := h.shiftRight (t - e).toNat
  rwa [div_div, ← zpow_natCast, ← zpow_add₀ (by norm_num),
    show e + ((t - e).toNat : ℤ) = t by omega] at hem

/-- The model of floats rounds a number to the float whose interval it lies in. -/
theorem roundWithAccuracy_of_near {M m : ℕ} {E e : ℤ} {a : Accuracy} {q : ℚ} (s : Sign)
    (hc : Canonical M E) (hn : Near M E q)
    (h : Holds (ExtendedMantissa.ofMantissaAndAccuracy m a) (q / 2 ^ e))
    (he : e ≤ max (m.log2 + e - 52) (-1074)) :
    roundWithAccuracy .binary64 s m e a = .finite s M E hc.pos := by
  obtain ⟨em, t, hshift, hem, hge, hlo, hhi⟩ := h.shifted he
  rw [roundWithAccuracy, hshift]
  dsimp only
  rcases hn.exponent hc hge hlo hhi with rfl | ⟨hm, rfl⟩
  · rw [hn.rounded hem, shiftToTargetExponent_of_le hc.not_shifted]
    simp only [hc.pos.ne', ↓reduceDIte]
  · rw [hn.rounded_narrow hm (by rwa [show 53 + (E - 1) = 52 + E by ring] at hhi) hem,
      shiftToTargetExponent_carry (by omega)]
    obtain ⟨rfl, -⟩ := hm
    simp

end TokenTariff.Binary64
