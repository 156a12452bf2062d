import Mathlib
import TokenTariff.Price.Conversion
import TokenTariff.Proofs.Binary64.Amounts

/-!
# Quotients of amounts

The check of amounts lets pass what is finite and not below zero. The quotient of two amounts is one
again, however small it gets, or it overflows and is infinite. It does not overflow if the divisor
is at least one, so ratios and dollars that are computed from amounts are amounts.
-/

namespace TokenTariff

open Binary64 Float.Model Float.Model.UnpackedFloat

variable {x y : Float}

theorem lt_zero_iff : x < 0 ↔ x.toModel.unpack.lt (.zero .positive) = true := by
  change decide (x.toModel.unpack.lt (.zero .positive) = true) = true ↔ _
  rw [decide_eq_true_iff]

theorem isBadAmount_eq_false_iff : isBadAmount x = false ↔ IsAmount x.toModel.unpack := by
  have hfinite : (!x.isFinite) = !x.toModel.unpack.isFinite := rfl
  rw [isBadAmount, Bool.or_eq_false_iff, decide_eq_false_iff_not, lt_zero_iff, hfinite]
  generalize x.toModel.unpack = u
  constructor
  · rintro ⟨hfinite, hlt⟩
    cases u with
    | notANumber => cases hfinite
    | infinity s => cases hfinite
    | zero s => exact .zero s
    | finite s m e hm =>
      cases s with
      | positive => exact .finite hm
      | negative => exact absurd rfl hlt
  · rintro (s | hm)
    · exact ⟨rfl, Bool.false_ne_true⟩
    · exact ⟨rfl, Bool.false_ne_true⟩

theorem isBadAmount_of_infinity {s : Sign} (h : x.toModel.unpack = .infinity s) :
    isBadAmount x = true := by
  have hfinite : x.isFinite = false := by
    change x.toModel.unpack.isFinite = false
    rw [h]
    rfl
  rw [isBadAmount, hfinite]
  rfl

theorem exists_finite_of_ne_zero (hx : isBadAmount x = false) (h : (x == 0) = false) :
    ∃ m e, ∃ hm : 0 < m, x.toModel.unpack = .finite .positive m e hm := by
  have hzero : (x == 0) = x.toModel.unpack.beq (.zero .positive) := rfl
  rw [isBadAmount_eq_false_iff] at hx
  rw [hzero] at h
  generalize x.toModel.unpack = u at *
  cases hx with
  | zero s => cases h
  | finite hm => exact ⟨_, _, hm, rfl⟩

/-- The quotient of two amounts is one, unless it is too large for a float: then it is infinite. -/
theorem isBadAmount_div (hx : isBadAmount x = false) (hy : isBadAmount y = false)
    (hy0 : (y == 0) = false) :
    size x / size y < limit ∧ isBadAmount (x / y) = false ∨
      limit ≤ size x / size y ∧ (x / y).toModel.unpack = .infinity .positive := by
  obtain ⟨n, f, hn, hy⟩ := exists_finite_of_ne_zero hy hy0
  rw [isBadAmount_eq_false_iff] at hx ⊢
  exact isAmount_div hx hy

theorem isBadAmount_div_of_one_le (hx : isBadAmount x = false) (hy : isBadAmount y = false)
    (hy0 : (y == 0) = false) (h1 : 1 ≤ size y) : isBadAmount (x / y) = false := by
  obtain ⟨n, f, hn, hy⟩ := exists_finite_of_ne_zero hy hy0
  rw [isBadAmount_eq_false_iff] at hx ⊢
  exact isAmount_div_of_one_le hx hy h1

theorem isBadAmount_ratioOfUsd (hx : isBadAmount x = false) :
    isBadAmount (ratioOfUsd x) = false := by
  have hunpack : usdPerRatio.toModel.unpack = .finite .positive (2 ^ 52) (-51) (by norm_num) := rfl
  refine isBadAmount_div_of_one_le hx (by decide +kernel) (by decide +kernel) ?_
  rw [size, hunpack, magnitude]
  norm_num

theorem isBadAmount_dollars (hx : isBadAmount x = false) :
    isBadAmount (x / cnyPerUsd) = false := by
  have hunpack : cnyPerUsd.toModel.unpack =
      .finite .positive 8219069319951155 (-50) (by norm_num) := rfl
  refine isBadAmount_div_of_one_le hx (by decide +kernel) (by decide +kernel) ?_
  rw [size, hunpack, magnitude]
  norm_num

end TokenTariff
