import Mathlib
import TokenTariff.Proofs.Binary64.Arithmetic

/-!
# Overflow

A number given by its mantissa and residual bits is rounded to an infinite float exactly if it is at
least half a unit above the greatest float; below that the rounded value is finite, and no more than
half a unit away.
-/

namespace TokenTariff.Binary64

open Float.Model Float.Model.UnpackedFloat

theorem le_roundedMantissa (em : ExtendedMantissa) : em.mantissa ≤ em.roundedMantissa := by
  rcases em with ⟨m, r, s⟩
  cases r <;> cases s <;>
    simp only [ExtendedMantissa.roundedMantissa, ExtendedMantissa.accuracy,
      Accuracy.roundToNearestEven] <;> omega

theorem roundedMantissa_le (em : ExtendedMantissa) : em.roundedMantissa ≤ em.mantissa + 1 := by
  rcases em with ⟨m, r, s⟩
  cases r <;> cases s <;>
    simp only [ExtendedMantissa.roundedMantissa, ExtendedMantissa.accuracy,
      Accuracy.roundToNearestEven] <;> omega

section Mantissa

variable {em : ExtendedMantissa} {y : ℚ}

theorem Holds.within (h : Holds em y) :
    (em.roundedMantissa : ℚ) - 1 / 2 ≤ y ∧ y ≤ em.roundedMantissa + 1 / 2 := by
  rcases em with ⟨m, r, s⟩
  cases r <;> cases s <;>
    simp only [Holds, ExtendedMantissa.roundedMantissa, ExtendedMantissa.accuracy,
      Accuracy.roundToNearestEven] at h ⊢ <;>
    push_cast
  · constructor <;> linarith
  · constructor <;> linarith [h.1, h.2]
  · have hparity : ((m % 2 : ℕ) : ℚ) = 0 ∨ ((m % 2 : ℕ) : ℚ) = 1 := by
      exact_mod_cast Nat.mod_two_eq_zero_or_one m
    rcases hparity with h2 | h2 <;> constructor <;> linarith
  · constructor <;> linarith [h.1, h.2]

theorem Holds.mantissa_lt (h : Holds em y) (hy : y < 2 ^ 53) : em.mantissa < 2 ^ 53 := by
  exact_mod_cast h.floor.1.trans_lt hy

theorem Holds.roundedMantissa_le (h : Holds em y) (hy : y < 2 ^ 53) :
    em.roundedMantissa ≤ 2 ^ 53 :=
  (Binary64.roundedMantissa_le em).trans (h.mantissa_lt hy)

theorem Holds.le_roundedMantissa (h : Holds em y) (hy : 2 ^ 52 ≤ y) :
    2 ^ 52 ≤ em.roundedMantissa := by
  have hfloor : (2 ^ 52 : ℚ) < em.mantissa + 1 := hy.trans_lt h.floor.2
  have hfloor : 2 ^ 52 < em.mantissa + 1 := by exact_mod_cast hfloor
  exact (Nat.lt_succ_iff.1 hfloor).trans (Binary64.le_roundedMantissa em)

/-- A mantissa of 53 bits is rounded to one of 54 bits from half a unit below it on. -/
theorem Holds.carries_iff (h : Holds em y) (hy : y < 2 ^ 53) :
    em.roundedMantissa = 2 ^ 53 ↔ 2 ^ 53 - 1 / 2 ≤ y := by
  constructor
  · intro hr
    by_contra! hlt
    have hmantissa : em.mantissa + 1 = 2 ^ 53 := by
      have hle := Binary64.roundedMantissa_le em
      have hfloor := h.mantissa_lt hy
      omega
    have hfull : ((2 ^ 53 - 1 : ℕ) : ℚ) ≤ y := by
      rw [← hmantissa]
      exact_mod_cast h.floor.1
    have hdown : em.roundedMantissa = 2 ^ 53 - 1 := by
      push_cast at hfull
      refine h.roundedMantissa ?_ ?_ ?_
      · push_cast
        linarith
      · push_cast
        linarith
      · rintro (heq | heq) <;> push_cast at heq <;> linarith
    omega
  · intro hle
    refine h.roundedMantissa ?_ ?_ fun _ => by norm_num
    · exact_mod_cast hle
    · push_cast
      linarith

end Mantissa

theorem unpack_pack_infinity (s : Sign) :
    (Float.Model.pack (.infinity s)).unpack = .infinity s := by
  cases s <;> rfl

theorem unpack_pack_zero (s : Sign) : (Float.Model.pack (.zero s)).unpack = .zero s := by
  cases s <;> rfl

/-- A value whose exponent is too large is packed as an infinite one. -/
theorem unpack_pack_of_lt {m : ℕ} {e : ℤ} (s : Sign) (hm : 0 < m) (he : 971 < e) :
    (Float.Model.pack (.finite s m e hm)).unpack = .infinity s := by
  have hlarge : 2 ^ 11 ≤ (e + (1023 : ℕ) + (52 : ℕ)).toNat + 1 := by omega
  have hpack : UnpackedFloat.pack .binary64 (.finite s m e hm) =
      UnpackedFloat.pack .binary64 (.infinity s) := by
    simp only [UnpackedFloat.pack]
    exact if_pos hlarge
  change UnpackedFloat.unpack .binary64 (UnpackedFloat.pack .binary64 (.finite s m e hm)) = _
  rw [hpack]
  exact unpack_pack_infinity s

/-- Half a unit above the greatest float with the exponent `t`. -/
def limitAt (t : ℤ) : ℚ := (2 ^ 53 - 1 / 2) * 2 ^ t

theorem limitAt_le {t t' : ℤ} (h : t ≤ t') : limitAt t ≤ limitAt t' :=
  mul_le_mul_of_nonneg_left (zpow_le_zpow_right₀ (by norm_num) h) (by norm_num)

theorem limitAt_lt (t : ℤ) : limitAt t < 2 ^ (53 + t) := by
  have hp : (0 : ℚ) < 2 ^ t := by positivity
  rw [limitAt, zpow_add₀ (by norm_num)]
  exact mul_lt_mul_of_pos_right (by norm_num) hp

/-- From here on numbers are rounded to infinity. -/
def limit : ℚ := limitAt 971

theorem limit_pos : 0 < limit := by
  rw [limit, limitAt]
  positivity

/-- The rational number is no more than half a unit away from a float. -/
structure Within (m : ℕ) (e : ℤ) (q : ℚ) : Prop where
  lower : ((m : ℚ) - 1 / 2) * 2 ^ e ≤ q
  upper : q ≤ (m + 1 / 2) * 2 ^ e

/-- What a number of sign `s` and size `q` unpacks to, once it has been rounded. -/
def IsRounding (s : Sign) (q : ℚ) (u : UnpackedFloat) : Prop :=
  (q < limit ∧ (u = .zero s ∧ q < 1 ∨
    ∃ m e, ∃ hc : Canonical m e, Within m e q ∧ u = .finite s m e hc.pos)) ∨
    limit ≤ q ∧ u = .infinity s

theorem isRounding_of_lt {m : ℕ} {e : ℤ} {q : ℚ} (s : Sign) (hc : Canonical m e)
    (hw : Within m e q) (hq : q < limitAt e) :
    IsRounding s q (Float.Model.pack (.finite s m e hc.pos)).unpack :=
  .inl ⟨hq.trans_le (limitAt_le hc.most), .inr ⟨_, _, hc, hw, unpack_pack s hc⟩⟩

theorem isRounding_of_le {m : ℕ} {e : ℤ} {q : ℚ} (s : Sign) (hm : 0 < m) (he : 971 < e)
    (hq : limit ≤ q) : IsRounding s q (Float.Model.pack (.finite s m e hm)).unpack :=
  .inr ⟨hq, unpack_pack_of_lt s hm he⟩

theorem isRounding_roundWithAccuracy {m : ℕ} {e : ℤ} {a : Accuracy} {q : ℚ} (s : Sign)
    (h : Holds (ExtendedMantissa.ofMantissaAndAccuracy m a) (q / 2 ^ e))
    (he : e ≤ max (m.log2 + e - 52) (-1074)) :
    IsRounding s q (Float.Model.pack (roundWithAccuracy .binary64 s m e a)).unpack := by
  obtain ⟨em, t, hshift, hem, ht, hlo, hhi⟩ := h.shifted he
  have hp : (0 : ℚ) < 2 ^ t := by positivity
  have hy : q / 2 ^ t < 2 ^ 53 := by
    rw [div_lt_iff₀ hp]
    rwa [zpow_add₀ (by norm_num)] at hhi
  have hcarry : em.roundedMantissa = 2 ^ 53 ↔ limitAt t ≤ q := by
    rw [hem.carries_iff hy, le_div_iff₀ hp, limitAt]
  rw [roundWithAccuracy, hshift]
  dsimp only
  -- Either the rounding carries into a bit more, and the exponent grows by one, or it stays.
  by_cases hr : em.roundedMantissa = 2 ^ 53
  · rw [hr, shiftToTargetExponent_carry ht]
    simp only [dif_neg (show ¬ 2 ^ 52 = 0 by norm_num)]
    by_cases htop : t + 1 ≤ 971
    · have hc : Canonical (2 ^ 52) (t + 1) :=
        ⟨by norm_num, by norm_num, by omega, .inl le_rfl, htop⟩
      have hgap : (2 : ℚ) ^ (t + 1) = 2 * 2 ^ t := by
        rw [zpow_add₀ (by norm_num), zpow_one, mul_comm]
      obtain ⟨hlower, hupper⟩ := hem.within
      rw [hr, le_div_iff₀ hp] at hlower
      rw [hr, div_le_iff₀ hp] at hupper
      push_cast at hlower hupper
      refine isRounding_of_lt s hc ⟨?_, ?_⟩ ?_
      · push_cast
        rw [hgap]
        linarith
      · push_cast
        rw [hgap]
        linarith
      · rw [limitAt, hgap]
        rw [div_lt_iff₀ hp] at hy
        linarith
    · exact isRounding_of_le s _ (by omega) ((limitAt_le (by omega)).trans (hcarry.1 hr))
  · have hlt : em.roundedMantissa < 2 ^ 53 := (hem.roundedMantissa_le hy).lt_of_ne hr
    have hq : q < limitAt t := not_le.1 fun hle => hr (hcarry.2 hle)
    have hlog : em.roundedMantissa.log2 ≤ 52 := log2_le_of_lt hlt
    have hfull : t = -1074 ∨ 2 ^ 52 ≤ em.roundedMantissa := by
      refine hlo.imp_right fun hlo => hem.le_roundedMantissa ?_
      rwa [le_div_iff₀ hp, ← zpow_natCast, ← zpow_add₀ (by norm_num)]
    have hwithin : Within em.roundedMantissa t q := by
      obtain ⟨hlower, hupper⟩ := hem.within
      exact ⟨(le_div_iff₀ hp).1 hlower, (div_le_iff₀ hp).1 hupper⟩
    rw [shiftToTargetExponent_of_le (by omega)]
    dsimp only
    by_cases htop : t ≤ 971
    · split
      · rename_i hzero
        have hleast : t = -1074 := hfull.resolve_right (by omega)
        have hsmall : q < 1 := by
          have hupper := hwithin.upper
          have hunit : (2 : ℚ) ^ t ≤ 1 := zpow_le_one_of_nonpos₀ (by norm_num) (by omega)
          rw [hzero, Nat.cast_zero] at hupper
          linarith
        exact .inl ⟨hq.trans_le (limitAt_le htop), .inl ⟨unpack_pack_zero s, hsmall⟩⟩
      · rename_i hpos
        have hc : Canonical em.roundedMantissa t :=
          ⟨Nat.pos_of_ne_zero hpos, hlt, ht, hfull.symm, htop⟩
        exact isRounding_of_lt s hc hwithin hq
    · have hlarge : limit ≤ q := calc
        limit ≤ 2 ^ (53 + 971) := (limitAt_lt 971).le
        _ ≤ 2 ^ (52 + t) := zpow_le_zpow_right₀ (by norm_num) (by omega)
        _ ≤ q := hlo.resolve_left (by omega)
      rw [dif_neg (by omega)]
      exact isRounding_of_le s _ (by omega) hlarge

end TokenTariff.Binary64
