import Mathlib
import TokenTariff.Decimal.Numeral

/-!
# Kept digits

Of the digits of a numeral those are kept that fit in 64 bits. The kept ones stand for no more than
the numeral, and what is left out is too small to matter: if anything is, the kept number is beyond
`10 ^ 18`.
-/

namespace TokenTariff.Numeral

theorem mod_pow_succ_eq (m l k : ℕ) :
    m / 10 ^ l % 10 ^ (k + 1) = m / 10 ^ (l + k) % 10 * 10 ^ k + m / 10 ^ l % 10 ^ k := by
  rw [Nat.mod_pow_succ, Nat.div_div_eq_div_mul, ← Nat.pow_add]
  ring

/-- These digits of `m`, and not those at the last `l` of `p` places, have been put behind `s`. -/
structure Taken (s m p s' l : ℕ) : Prop where
  le : l ≤ p
  fits : s' < 2 ^ 64
  eq : s' = s * 10 ^ (p - l) + m / 10 ^ l % 10 ^ (p - l)
  left : l = 0 ∨ 2 ^ 64 ≤ s' * 10 + m / 10 ^ (l - 1) % 10

theorem taken_takeDigits {s : ℕ} (m p : ℕ) (hs : s < 2 ^ 64) :
    Taken s m p (takeDigits s m p).1 (takeDigits s m p).2 := by
  induction p generalizing s with
  | zero => exact ⟨le_rfl, hs, by simp [takeDigits, Nat.mod_one], .inl rfl⟩
  | succ p ih =>
    have hsize : UInt64.size = 2 ^ 64 := rfl
    simp only [takeDigits, hsize, Nat.pow_eq]
    split
    · rename_i hnext
      obtain ⟨hle, hfits, heq, hleft⟩ := ih hnext
      generalize (takeDigits (s * 10 + m / 10 ^ p % 10) m p).1 = s' at *
      generalize (takeDigits (s * 10 + m / 10 ^ p % 10) m p).2 = l at *
      refine ⟨by omega, hfits, ?_, hleft⟩
      rw [heq, show p + 1 - l = p - l + 1 by omega, mod_pow_succ_eq,
        show l + (p - l) = p by omega, pow_succ]
      ring
    · rename_i hnext
      exact ⟨le_rfl, hs, by simp [Nat.mod_one], .inr (by simpa using hnext)⟩

/-- Of a number all of whose digits are tried, the first ones are taken. -/
theorem Taken.eq_div {m p s l : ℕ} (h : Taken 0 m p s l) (hm : m < 10 ^ p) : s = m / 10 ^ l := by
  have hlt : m / 10 ^ l < 10 ^ (p - l) := by
    rw [Nat.div_lt_iff_lt_mul (by positivity), ← Nat.pow_add, Nat.sub_add_cancel h.le]
    exact hm
  rw [h.eq, zero_mul, zero_add, Nat.mod_eq_of_lt hlt]

/-- Once a digit has been left out, at most one more is taken, and it is a smaller one. -/
theorem Taken.le_one {s m p s' l c : ℕ} (h : Taken s m p s' l) (hc : c < 10)
    (hfull : 2 ^ 64 ≤ s * 10 + c) :
    l = p ∧ s' = s ∨ l + 1 = p ∧ s * 10 ≤ s' ∧ s' ≤ s * 10 + c := by
  obtain ⟨hle, hfits, heq, -⟩ := h
  obtain ⟨j, rfl⟩ : ∃ j, p = l + j := ⟨p - l, by omega⟩
  rw [Nat.add_sub_cancel_left] at heq
  rcases j with _ | _ | j
  · exact .inl ⟨rfl, by simpa [Nat.mod_one] using heq⟩
  · rw [zero_add, pow_one] at heq
    exact .inr ⟨rfl, by omega, by omega⟩
  · have hpow : 10 ^ 2 ≤ 10 ^ (j + 2) := Nat.pow_le_pow_right (by norm_num) (by omega)
    have hmul : s * 10 ^ 2 ≤ s * 10 ^ (j + 2) := Nat.mul_le_mul_left s hpow
    rw [show j + 1 + 1 = j + 2 from rfl] at heq
    generalize s * 10 ^ (j + 2) = k at *
    omega

theorem le_of_left {s m l c : ℕ} (hc : c < 10) (hs : 2 ^ 64 ≤ s * 10 + c) (hm : m / 10 ^ l = s) :
    m * 10 ^ 18 ≤ s * 10 ^ l * (10 ^ 18 + 1) := by
  have hlarge : 10 ^ 18 ≤ s := by omega
  have hlt : m < 10 ^ l * (s + 1) := hm ▸ Nat.lt_mul_div_succ m (by positivity)
  calc m * 10 ^ 18 ≤ 10 ^ l * (s + 1) * 10 ^ 18 := by gcongr
    _ = 10 ^ l * (s * 10 ^ 18 + 10 ^ 18) := by ring
    _ ≤ 10 ^ l * (s * 10 ^ 18 + s) := by gcongr
    _ = s * 10 ^ l * (10 ^ 18 + 1) := by ring

variable {m p t s l s' l' : ℕ}

/-- If the digits before the point are all taken, those behind it follow them. -/
theorem Taken.eq_div_of_whole (h : Taken (m / 10 ^ p) m p s l) : s = m / 10 ^ l := by
  rw [h.eq]
  conv_rhs => rw [← Nat.div_add_mod (m / 10 ^ l) (10 ^ (p - l))]
  rw [Nat.div_div_eq_div_mul, ← Nat.pow_add, Nat.add_sub_cancel' h.le, Nat.mul_comm]

/-- The digits before the point and then those behind it: the number is a little less than the one
that was written, if it is not that number. -/
theorem bounds_of_taken (hfirst : Taken 0 (m / 10 ^ p) t s l) (ht : m / 10 ^ p < 10 ^ t)
    (hsecond : Taken s m p s' l') :
    s' * 10 ^ (l + l') ≤ m ∧ m * 10 ^ 18 ≤ s' * 10 ^ (l + l') * (10 ^ 18 + 1) := by
  have hs := hfirst.eq_div ht
  rw [Nat.div_div_eq_div_mul, ← Nat.pow_add] at hs
  rcases Nat.eq_zero_or_pos l with rfl | hl
  · -- Nothing before the point is left out, so the digits are the first ones of `m`.
    rw [add_zero] at hs
    subst hs
    have hs' : m / 10 ^ l' = s' := hsecond.eq_div_of_whole.symm
    rw [zero_add]
    refine ⟨hs' ▸ Nat.div_mul_le_self _ _, ?_⟩
    rcases hsecond.left with rfl | hfull
    · rw [← hs', pow_zero, Nat.div_one]
      omega
    · exact le_of_left (Nat.mod_lt _ (by norm_num)) hfull hs'
  · have hdigit : m / 10 ^ p / 10 ^ (l - 1) % 10 < 10 := Nat.mod_lt _ (by norm_num)
    have hfull := hfirst.left.resolve_left hl.ne'
    have hge := le_of_left hdigit hfull hs.symm
    rcases hsecond.le_one hdigit hfull with ⟨rfl, rfl⟩ | ⟨hl', hlow, hhigh⟩
    · rw [Nat.add_comm l]
      exact ⟨hs ▸ Nat.div_mul_le_self _ _, hge⟩
    · have hten : 10 ^ (p + l) = 10 * 10 ^ (l + l') := by
        rw [← pow_succ', show p + l = l + l' + 1 by omega]
      have hnext : s * 10 + m / 10 ^ p / 10 ^ (l - 1) % 10 = m / 10 ^ (l + l') := by
        rw [hs, Nat.div_div_eq_div_mul m, ← Nat.pow_add, show p + (l - 1) = l + l' by omega, hten,
          Nat.mul_comm 10, ← Nat.div_div_eq_div_mul]
        exact Nat.div_add_mod' _ 10
      refine ⟨(Nat.mul_le_mul_right _ (hhigh.trans hnext.le)).trans (Nat.div_mul_le_self _ _), ?_⟩
      calc m * 10 ^ 18 ≤ s * 10 ^ (p + l) * (10 ^ 18 + 1) := hge
        _ = s * 10 * 10 ^ (l + l') * (10 ^ 18 + 1) := by rw [hten]; ring
        _ ≤ s' * 10 ^ (l + l') * (10 ^ 18 + 1) := by gcongr

/-- The last `k` digits have been left out, and with them only a small part of the numeral. -/
structure Kept (n : Numeral) (k : ℕ) : Prop where
  power : n.kept.2 = n.power + k
  fits : n.kept.1 < 2 ^ 64
  le : n.kept.1 * 10 ^ k ≤ n.mantissa
  ge : n.mantissa * 10 ^ 18 ≤ n.kept.1 * 10 ^ k * (10 ^ 18 + 1)

theorem exists_kept (n : Numeral) : ∃ k, n.Kept k := by
  have hwhole : n.mantissa / 10 ^ n.places < 10 ^ ((n.mantissa / 10 ^ n.places).log2 + 1) :=
    Nat.lt_log2_self.trans_le (Nat.pow_le_pow_left (by norm_num) _)
  have hfirst := taken_takeDigits (n.mantissa / 10 ^ n.places)
    ((n.mantissa / 10 ^ n.places).log2 + 1) (Nat.two_pow_pos 64)
  have hsecond := taken_takeDigits n.mantissa n.places hfirst.fits
  obtain ⟨hle, hge⟩ := bounds_of_taken hfirst hwhole hsecond
  refine ⟨_, ?_, hsecond.fits, hle, hge⟩
  push_cast
  exact add_assoc _ _ _

theorem le_of_left_out (hl : l ≠ 0) (hs : s = m / 10 ^ l)
    (hfull : 2 ^ 64 ≤ s * 10 + m / 10 ^ (l - 1) % 10) : 2 ^ 64 ≤ m := by
  have hten : 10 ^ l = 10 ^ (l - 1) * 10 := by rw [← pow_succ, Nat.sub_one_add_one hl]
  rw [hs, hten, ← Nat.div_div_eq_div_mul, Nat.div_add_mod'] at hfull
  exact hfull.trans (Nat.div_le_self m _)

theorem Taken.all (h : Taken s m p s' l) (hs : s' = m / 10 ^ l) (hm : m < 2 ^ 64) :
    s' = m ∧ l = 0 := by
  have hl : l = 0 := by
    by_contra hl
    exact absurd (le_of_left_out hl hs (h.left.resolve_left hl)) (not_le.2 hm)
  rw [hl, pow_zero, Nat.div_one] at hs
  exact ⟨hs, hl⟩

/-- If all digits fit they are all kept. -/
theorem kept_of_lt {n : Numeral} (h : n.mantissa < 2 ^ 64) : n.kept = (n.mantissa, n.power) := by
  have hwhole : n.mantissa / 10 ^ n.places < 2 ^ 64 := (Nat.div_le_self _ _).trans_lt h
  have hdigits : n.mantissa / 10 ^ n.places < 10 ^ ((n.mantissa / 10 ^ n.places).log2 + 1) :=
    Nat.lt_log2_self.trans_le (Nat.pow_le_pow_left (by norm_num) _)
  have hfirst := taken_takeDigits (n.mantissa / 10 ^ n.places)
    ((n.mantissa / 10 ^ n.places).log2 + 1) (Nat.two_pow_pos 64)
  have hsecond := taken_takeDigits n.mantissa n.places hwhole
  obtain ⟨hs, hl⟩ := hfirst.all (hfirst.eq_div hdigits) hwhole
  obtain ⟨hs', hl'⟩ := hsecond.all hsecond.eq_div_of_whole h
  simp only [kept, Nat.pow_eq, hs, hl, hs', hl', Nat.cast_zero, add_zero]

end TokenTariff.Numeral
