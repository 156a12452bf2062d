import Mathlib
import TokenTariff.Proofs.Binary64.Overflow

/-!
# Amounts

An amount is a value that is finite and not below zero. Words are amounts when they are made floats,
and so are products and quotients of amounts, unless they overflow. A product overflows only if the
exact one is beyond the greatest float or next to it, since each rounding changes a number by a
small part of itself.
-/

namespace TokenTariff.Binary64

open Float.Model Float.Model.UnpackedFloat

/-- The size of a finite value, and zero for others. -/
def magnitude : UnpackedFloat → ℚ
  | .finite _ m e _ => m * 2 ^ e
  | _ => 0

def size (x : Float) : ℚ := magnitude x.toModel.unpack

variable {x y : Float} {q r : ℚ}

theorem size_nonneg (x : Float) : 0 ≤ size x := by
  rw [size]
  cases x.toModel.unpack with
  | notANumber => exact le_rfl
  | infinity s => exact le_rfl
  | zero s => exact le_rfl
  | finite s m e hm =>
    rw [magnitude]
    positivity

theorem size_lt_limit (x : Float) : size x < limit := by
  rw [size]
  cases hu : x.toModel.unpack with
  | notANumber => exact limit_pos
  | infinity s => exact limit_pos
  | zero s => exact limit_pos
  | finite s m e hm =>
    have hc : Canonical m e := canonical_of_unpack hu
    have hfit : (m : ℚ) + 1 ≤ 2 ^ 53 := by exact_mod_cast hc.lt
    have hlt : (m : ℚ) * 2 ^ e < limitAt e :=
      mul_lt_mul_of_pos_right (by linarith) (by positivity)
    exact hlt.trans_le (limitAt_le hc.most)

inductive IsAmount : UnpackedFloat → Prop
  | zero (s : Sign) : IsAmount (.zero s)
  | finite {m : ℕ} {e : ℤ} (hm : 0 < m) : IsAmount (.finite .positive m e hm)

theorem IsAmount.isFinite {x : Float} (h : IsAmount x.toModel.unpack) : x.isFinite = true := by
  change x.toModel.unpack.isFinite = true
  generalize x.toModel.unpack = u at *
  cases h <;> rfl

theorem IsRounding.isAmount {u : UnpackedFloat} (h : IsRounding .positive q u) :
    q < limit ∧ IsAmount u ∨ limit ≤ q ∧ u = .infinity .positive := by
  rcases h with ⟨hq, ⟨rfl, -⟩ | ⟨m, e, hc, -, rfl⟩⟩ | h
  · exact .inl ⟨hq, .zero _⟩
  · exact .inl ⟨hq, .finite hc.pos⟩
  · exact .inr h

/-! ### Quotients -/

/-- The quotient of two amounts is one, unless it is too large for a float: then it is infinite. -/
theorem isAmount_div (hx : IsAmount x.toModel.unpack) {n : ℕ} {f : ℤ} {hn : 0 < n}
    (hy : y.toModel.unpack = .finite .positive n f hn) :
    size x / size y < limit ∧ IsAmount (x / y).toModel.unpack ∨
      limit ≤ size x / size y ∧ (x / y).toModel.unpack = .infinity .positive := by
  have hdiv : (x / y).toModel.unpack = (Float.Model.pack
      (UnpackedFloat.div .binary64 x.toModel.unpack y.toModel.unpack)).unpack := rfl
  rw [hdiv, size, size, hy]
  generalize x.toModel.unpack = u at *
  cases hx with
  | zero s =>
    have hzero : magnitude (.zero s) / magnitude (.finite .positive n f hn) = 0 := zero_div _
    exact .inl ⟨hzero.trans_lt limit_pos, (unpack_pack_zero _).symm ▸ .zero _⟩
  | finite hm =>
    obtain ⟨k, t, a, hround, hholds, ht⟩ := exists_div_eq_round .positive .positive hm hn
    rw [hround]
    exact (isRounding_roundWithAccuracy .positive hholds ht).isAmount

theorem isAmount_div_of_one_le (hx : IsAmount x.toModel.unpack) {n : ℕ} {f : ℤ} {hn : 0 < n}
    (hy : y.toModel.unpack = .finite .positive n f hn) (h1 : 1 ≤ size y) :
    IsAmount (x / y).toModel.unpack := by
  have hsize : size x / size y < limit :=
    (div_le_self (size_nonneg x) h1).trans_lt (size_lt_limit x)
  rcases isAmount_div hx hy with ⟨-, h⟩ | ⟨hle, -⟩
  · exact h
  · exact absurd hsize (not_lt.2 hle)

/-! ### Products -/

/-- The value has all its bits in use and is no more than half a unit away from the number. -/
def Approximates (q : ℚ) (u : UnpackedFloat) : Prop :=
  ∃ m e, ∃ hm : 0 < m, 2 ^ 52 ≤ m ∧ Within m e q ∧ u = .finite .positive m e hm

theorem Approximates.isAmount {u : UnpackedFloat} (h : Approximates q u) : IsAmount u := by
  obtain ⟨m, e, hm, -, -, rfl⟩ := h
  exact .finite hm

/-- What rounding adds or takes away is a small part of the number. -/
theorem Approximates.bounds {u : UnpackedFloat} (h : Approximates q u) :
    magnitude u * (2 ^ 53 - 1) ≤ q * 2 ^ 53 ∧ q * 2 ^ 53 ≤ magnitude u * (2 ^ 53 + 1) := by
  obtain ⟨m, e, hm, hfull, hwithin, rfl⟩ := h
  have hp : (0 : ℚ) < 2 ^ e := by positivity
  have hunit : 2 ^ 52 * (2 : ℚ) ^ e ≤ m * 2 ^ e := by
    have : (2 : ℚ) ^ 52 ≤ m := by exact_mod_cast hfull
    gcongr
  have hlower := hwithin.lower
  have hupper := hwithin.upper
  rw [magnitude]
  constructor <;> linarith

theorem isRounding_mul (hx : Approximates q x.toModel.unpack)
    (hy : Approximates r y.toModel.unpack) :
    IsRounding .positive (size x * size y) (x * y).toModel.unpack := by
  obtain ⟨m, e, hm, hfull, -, hux⟩ := hx
  obtain ⟨n, f, hn, -, -, huy⟩ := hy
  have hmul : (x * y).toModel.unpack = (Float.Model.pack
      (UnpackedFloat.mul .binary64 x.toModel.unpack y.toModel.unpack)).unpack := rfl
  have hbits : 52 ≤ (m * n).log2 := by
    rw [Nat.le_log2 (by positivity)]
    exact hfull.trans (Nat.le_mul_of_pos_right m hn)
  rw [hmul, size, size, hux, huy]
  exact isRounding_roundWithAccuracy .positive (holds_mul m n e f) (by omega)

/-- A product is an amount if the exact one is not too close to the greatest float. -/
theorem isAmount_mul (hx : Approximates q x.toModel.unpack)
    (hy : Approximates r y.toModel.unpack)
    (h : q * r * 2 ^ 106 < limit * (2 ^ 53 - 1) ^ 2) : IsAmount (x * y).toModel.unpack := by
  rcases (isRounding_mul hx hy).isAmount with ⟨-, h⟩ | ⟨hle, -⟩
  · exact h
  · have hxq : size x * (2 ^ 53 - 1) ≤ q * 2 ^ 53 := hx.bounds.1
    have hyr : size y * (2 ^ 53 - 1) ≤ r * 2 ^ 53 := hy.bounds.1
    have hsq : size x * (2 ^ 53 - 1) * (size y * (2 ^ 53 - 1)) ≤ q * 2 ^ 53 * (r * 2 ^ 53) :=
      mul_le_mul hxq hyr (mul_nonneg (size_nonneg y) (by norm_num))
        ((mul_nonneg (size_nonneg x) (by norm_num)).trans hxq)
    nlinarith [hsq, hle]

/-- A product is infinite if the exact one is far enough beyond the greatest float. -/
theorem infinity_of_mul (hx : Approximates q x.toModel.unpack)
    (hy : Approximates r y.toModel.unpack) (hr : 0 ≤ r)
    (h : limit * (2 ^ 53 + 1) ^ 2 ≤ q * r * 2 ^ 106) :
    (x * y).toModel.unpack = .infinity .positive := by
  rcases (isRounding_mul hx hy).isAmount with ⟨hlt, -⟩ | ⟨-, h⟩
  · have hxq : q * 2 ^ 53 ≤ size x * (2 ^ 53 + 1) := hx.bounds.2
    have hyr : r * 2 ^ 53 ≤ size y * (2 ^ 53 + 1) := hy.bounds.2
    have hsq : q * 2 ^ 53 * (r * 2 ^ 53) ≤ size x * (2 ^ 53 + 1) * (size y * (2 ^ 53 + 1)) :=
      mul_le_mul hxq hyr (mul_nonneg hr (by norm_num))
        (mul_nonneg (size_nonneg x) (by norm_num))
    nlinarith [hsq, hlt]
  · exact h

/-! ### Natural numbers and powers of ten -/

theorem lt_limit_of_le (h : q ≤ 2 ^ (971 : ℤ)) : q < limit :=
  h.trans_lt (lt_mul_of_one_lt_left (by positivity) (by norm_num))

theorem word_le {n : ℕ} (h : n < 2 ^ 64) : (n : ℚ) ≤ 2 ^ (971 : ℤ) := by
  have hword : (n : ℚ) < 2 ^ (64 : ℤ) := by exact_mod_cast h
  exact hword.le.trans (zpow_le_zpow_right₀ (by norm_num) (by norm_num))

theorem word_lt_limit {n : ℕ} (h : n < 2 ^ 64) :
    (n : ℚ) * 2 ^ 106 < limit * (2 ^ 53 - 1) ^ 2 := by
  have hword := word_le h
  have hp : (0 : ℚ) < 2 ^ (971 : ℤ) := by positivity
  rw [limit, limitAt]
  generalize (2 : ℚ) ^ (971 : ℤ) = p at *
  linarith

theorem approximates_ofNat {n : ℕ} (hn : 0 < n) (h : n < 2 ^ 64) :
    Approximates n n.toUInt64.toFloat.toModel.unpack := by
  obtain ⟨k, -, hbits, hround, hholds⟩ := exists_toFloat_eq_round hn h
  have hone : (1 : ℚ) ≤ n := by exact_mod_cast hn
  have hfit : (n : ℚ) < limit := lt_limit_of_le (word_le h)
  rw [hround]
  rcases isRounding_roundWithAccuracy .positive hholds (by omega) with
    ⟨-, ⟨-, hlt⟩ | ⟨m, e, hc, hwithin, hu⟩⟩ | ⟨hle, -⟩
  · exact absurd hlt (not_lt.2 hone)
  · refine ⟨m, e, hc.pos, hc.full.resolve_right fun he => ?_, hwithin, hu⟩
    have hsmall : ((m : ℚ) + 1 / 2) * 2 ^ e < 1 := by
      have hm : (m : ℚ) + 1 ≤ 2 ^ 53 := by exact_mod_cast hc.lt
      have hpower : (2 : ℚ) ^ e ≤ 2 ^ (-53 : ℤ) := zpow_le_zpow_right₀ (by norm_num) (by omega)
      calc ((m : ℚ) + 1 / 2) * 2 ^ e ≤ (m + 1 / 2) * 2 ^ (-53 : ℤ) := by gcongr
        _ < 2 ^ 53 * 2 ^ (-53 : ℤ) := by gcongr; linarith
        _ = 1 := by norm_num
    linarith [hwithin.upper]
  · exact absurd hfit (not_lt.2 hle)

/-- Whether a value has all its bits in use and is within half a unit of `n`, in integers. -/
def isNear (n : ℕ) : UnpackedFloat → Bool
  | .finite .positive m e _ =>
    decide (2 ^ 52 ≤ m ∧ -52 ≤ e ∧ (2 * m - 1) * 2 ^ (e + 52).toNat ≤ n * 2 ^ 53 ∧
      n * 2 ^ 53 ≤ (2 * m + 1) * 2 ^ (e + 52).toNat)
  | _ => false

theorem approximates_of_isNear {n : ℕ} {u : UnpackedFloat} (h : isNear n u = true) :
    Approximates n u := by
  unfold isNear at h
  split at h
  · rename_i m e hm
    obtain ⟨hfull, he, hlower, hupper⟩ := of_decide_eq_true h
    have hpower : (2 : ℚ) ^ (e + 52).toNat = 2 ^ e * 2 ^ 52 := by
      rw [← zpow_natCast, Int.toNat_of_nonneg (by omega), zpow_add₀ (by norm_num)]
      rfl
    have hpred : ((2 * m - 1 : ℕ) : ℚ) = 2 * m - 1 := by
      push_cast [Nat.cast_sub (by omega : 1 ≤ 2 * m)]
      ring
    have hlower' : (2 * (m : ℚ) - 1) * (2 ^ e * 2 ^ 52) ≤ n * 2 ^ 53 := by
      rw [← hpred, ← hpower]
      exact_mod_cast hlower
    have hupper' : (n : ℚ) * 2 ^ 53 ≤ (2 * m + 1) * (2 ^ e * 2 ^ 52) := by
      rw [← hpower]
      exact_mod_cast hupper
    exact ⟨m, e, hm, hfull, ⟨by linarith, by linarith⟩, rfl⟩
  · cases h

theorem exists_of_isNear {n : ℕ} {u : UnpackedFloat} (h : isNear n u = true) :
    ∃ m e, ∃ hm : 0 < m, u = .finite .positive m e hm ∧ 1 ≤ magnitude u := by
  unfold isNear at h
  split at h
  · rename_i m e hm
    obtain ⟨hfull, he, -, -⟩ := of_decide_eq_true h
    refine ⟨m, e, hm, rfl, ?_⟩
    have hm' : (2 : ℚ) ^ 52 ≤ m := by exact_mod_cast hfull
    have he' : (2 : ℚ) ^ (-52 : ℤ) ≤ 2 ^ e := zpow_le_zpow_right₀ (by norm_num) he
    calc (1 : ℚ) = 2 ^ 52 * 2 ^ (-52 : ℤ) := by norm_num
      _ ≤ m * 2 ^ e := by gcongr
  · cases h

theorem isNear_powerOfTen :
    ∀ k : Fin 309, isNear (10 ^ k.val) (powerOfTen k).toModel.unpack = true := by
  decide +kernel

theorem isAmount_div_powerOfTen (hx : IsAmount x.toModel.unpack) {k : ℕ} (hk : k ≤ 308) :
    IsAmount (x / powerOfTen k).toModel.unpack := by
  obtain ⟨m, e, hm, hu, hone⟩ := exists_of_isNear (isNear_powerOfTen ⟨k, by omega⟩)
  exact isAmount_div_of_one_le hx hu hone

theorem approximates_powerOfTen {k : ℕ} (hk : k ≤ 308) :
    Approximates (10 ^ k : ℕ) (powerOfTen k).toModel.unpack :=
  approximates_of_isNear (isNear_powerOfTen ⟨k, by omega⟩)

theorem isAmount_ofNat {n : ℕ} (h : n < 2 ^ 64) : IsAmount n.toUInt64.toFloat.toModel.unpack := by
  rcases Nat.eq_zero_or_pos n with rfl | hn
  · exact .zero .positive
  · exact (approximates_ofNat hn h).isAmount

/-! ### Integers -/

theorem approximates_one : Approximates 1
    Float.exactlyRepresentablePowersOfTen[0].toModel.unpack := by
  exact_mod_cast approximates_of_isNear (n := 1) (by decide +kernel)

theorem isFinite_ofNat {n : ℕ} (h : n < 2 ^ 64) : (Float.ofNat n).isFinite = true := by
  change (Float.ofScientific n false 0).isFinite = true
  rcases Nat.eq_zero_or_pos n with rfl | hn
  · decide +kernel
  apply IsAmount.isFinite
  rw [Float.ofScientific]
  split
  · exact isAmount_mul (approximates_ofNat hn h) approximates_one (by linarith [word_lt_limit h])
  · have hbits : 52 ≤ ((n <<< 53) * 10 ^ (0 : ℤ).toNat).log2 := by
      rw [Int.toNat_zero, pow_zero, mul_one, log2_shiftLeft hn.ne']
      omega
    have hlow : ¬(0 : ℤ) < -(2 ^ Format.binary64.exponentBits + (n.log2 : ℤ)) := by
      have : (0 : ℤ) < 2 ^ Format.binary64.exponentBits := by positivity
      omega
    have hv : ((n <<< 53 : ℕ) : ℚ) * 2 ^ (-53 : ℤ) *
        ((10 ^ (0 : ℤ).toNat : ℕ) * 2 ^ (0 : ℤ)) = n := by
      rw [Nat.shiftLeft_eq]
      push_cast
      norm_num
      ring
    change IsAmount (Float.Model.pack (UnpackedFloat.ofScientific .binary64 n 0)).unpack
    rw [UnpackedFloat.ofScientific, dif_neg hn.ne', if_neg (by norm_num), if_neg hlow,
      if_pos le_rfl]
    have hround := isRounding_roundWithAccuracy .positive
      (holds_mul (n <<< 53) (10 ^ (0 : ℤ).toNat) (-53) 0) (by omega)
    rcases hround.isAmount with ⟨-, hamount⟩ | ⟨hle, -⟩
    · exact hamount
    · rw [hv] at hle
      exact absurd (lt_limit_of_le (word_le h)) (not_lt.2 hle)

/-- Integers of 64 bits, with a sign or without one, are finite floats. -/
theorem isFinite_ofInt {i : ℤ} (h : i.natAbs < 2 ^ 64) : (Float.ofInt i).isFinite = true := by
  cases i with
  | ofNat n => exact isFinite_ofNat h
  | negSucc n => exact isFinite_neg (isFinite_ofNat h)

end TokenTariff.Binary64
