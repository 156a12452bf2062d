import Mathlib
import TokenTariff.Proofs.Binary64.Rounding
import TokenTariff.Decimal.Layout

/-!
# The bits of a float

A float is kept as a sign, an exponent field and a mantissa field. Finite floats are determined by
what they unpack to, and what the digits of a float are computed from is just that.
-/

namespace TokenTariff.Binary64

open Float.Model Float.Model.UnpackedFloat

def signOf (b : BitVec 64) : Sign := Sign.ofBitVec (@unpackSign .binary64 b)

def exponentField (b : BitVec 64) : ℕ := (@unpackExponent .binary64 b).toNat

def mantissaField (b : BitVec 64) : ℕ := (@unpackMantissa .binary64 b).toNat

theorem exponentField_lt (b : BitVec 64) : exponentField b < 2048 := BitVec.isLt _

theorem mantissaField_lt (b : BitVec 64) : mantissaField b < 2 ^ 52 := BitVec.isLt _

/-- A word is its three fields one after the other. -/
theorem packComponents_fields (b : BitVec 64) :
    packComponents .binary64 (signOf b) (BitVec.ofNat 11 (exponentField b))
      (BitVec.ofNat 52 (mantissaField b)) = b := by
  have hs (v : BitVec 1) : (Sign.ofBitVec v).toBitVec = v := by
    rcases BitVec.eq_zero_or_eq_one v with rfl | rfl <;> rfl
  simp only [packComponents, signOf, exponentField, mantissaField, hs, BitVec.ofNat_toNat,
    BitVec.setWidth_eq]
  ext i hi
  simp [unpackSign, unpackExponent, unpackMantissa]
  grind

theorem append_mantissa (v : BitVec 52) : (1#1 ++ v).toNat = 2 ^ 52 + v.toNat := by
  rw [BitVec.toNat_append, ← Nat.shiftLeft_add_eq_or_of_lt v.isLt]
  rfl

theorem fields_of_unpack_finite {b : BitVec 64} {s : Sign} {m : ℕ} {e : ℤ} {hm : 0 < m}
    (h : UnpackedFloat.unpack .binary64 b = .finite s m e hm) :
    s = signOf b ∧
      (exponentField b = 0 ∧ m = mantissaField b ∧ e = -1074 ∨
        1 ≤ exponentField b ∧ exponentField b ≤ 2046 ∧ m = 2 ^ 52 + mantissaField b ∧
          e = exponentField b - 1075) := by
  have hlt := exponentField_lt b
  simp only [UnpackedFloat.unpack] at h
  split at h
  · split at h <;> cases h
  · rename_i hf
    have hf : exponentField b ≠ 2047 := fun he => hf (BitVec.eq_of_toNat_eq he)
    split at h
    · rename_i h0
      split at h
      · cases h
      · cases h
        exact ⟨rfl, .inl ⟨by simp [exponentField, h0], rfl, by simp [h0, Format.exponentBias]⟩⟩
    · rename_i h0
      have h0 : exponentField b ≠ 0 := fun he => h0 (BitVec.eq_of_toNat_eq he)
      cases h
      refine ⟨rfl, .inr ⟨by omega, by omega, append_mantissa _, ?_⟩⟩
      simp [exponentField, Format.exponentBias]

theorem fields_of_unpack_zero {b : BitVec 64} {s : Sign}
    (h : UnpackedFloat.unpack .binary64 b = .zero s) :
    s = signOf b ∧ exponentField b = 0 ∧ mantissaField b = 0 := by
  simp only [UnpackedFloat.unpack] at h
  split at h
  · split at h <;> cases h
  · split at h
    · rename_i h0
      split at h
      · rename_i hr
        cases h
        exact ⟨rfl, by simp [exponentField, h0], by simp [mantissaField, hr]⟩
      · cases h
    · cases h

theorem canonical_of_unpack {b : BitVec 64} {s : Sign} {m : ℕ} {e : ℤ} {hm : 0 < m}
    (h : UnpackedFloat.unpack .binary64 b = .finite s m e hm) : Canonical m e := by
  have hr := mantissaField_lt b
  obtain ⟨-, ⟨-, hm', he⟩ | ⟨hf, hf', hm', he⟩⟩ := fields_of_unpack_finite h
  · exact ⟨hm, by omega, by omega, .inr he, by omega⟩
  · exact ⟨hm, by omega, by omega, .inl (by omega), by omega⟩

theorem log2_eq_of_full {m : ℕ} (hl : 2 ^ 52 ≤ m) (hu : m < 2 ^ 53) : m.log2 = 52 :=
  (Nat.log2_eq_iff (by omega)).2 ⟨hl, hu⟩

def biased (m : ℕ) (e : ℤ) : ℕ := if 2 ^ 52 ≤ m then (e + 1075).toNat else 0

theorem pack_canonical {m : ℕ} {e : ℤ} (s : Sign) (h : Canonical m e) :
    UnpackedFloat.pack .binary64 (.finite s m e h.pos) =
      packComponents .binary64 s (BitVec.ofNat 11 (biased m e)) (BitVec.ofNat 52 m) := by
  have hl := h.least
  have hu := h.most
  have hb : ((1023 : ℕ) : ℤ) + ((52 : ℕ) : ℤ) = 1075 := rfl
  have hfit : ¬ 2 ^ 11 ≤ (e + (1023 : ℕ) + (52 : ℕ)).toNat + 1 := by omega
  simp only [UnpackedFloat.pack]
  rw [if_neg (by exact hfit)]
  by_cases hm : 2 ^ 52 ≤ m
  · rw [if_pos (by rw [log2_eq_of_full hm h.lt]; rfl), biased, if_pos hm]
    congr 3
    change e + (1023 : ℕ) + (52 : ℕ) = _
    omega
  · have hlog : m.log2 ≤ 51 := log2_le_of_lt (by omega)
    have hne : m.log2 + 1 ≠ Format.mantissaBits .binary64 := by
      change _ ≠ 53
      omega
    rw [if_neg hne, biased, if_neg hm]

@[simp] theorem signOf_packComponents (s : Sign) (f : BitVec 11) (r : BitVec 52) :
    signOf (packComponents .binary64 s f r) = s := by
  have h : @unpackSign .binary64 (packComponents .binary64 s f r) = s.toBitVec := by
    ext i hi
    obtain rfl : i = 0 := by omega
    simp only [unpackSign, packComponents, BitVec.getElem_cast, BitVec.extractLsb,
      BitVec.getElem_extractLsb']
    change (s.toBitVec ++ f ++ r).getLsbD 63 = _
    rw [BitVec.getLsbD_append, if_neg (by decide), BitVec.getLsbD_append, if_neg (by decide)]
    rfl
  rw [signOf, h]
  cases s <;> rfl

@[simp] theorem exponentField_packComponents (s : Sign) (f : BitVec 11) (r : BitVec 52) :
    exponentField (packComponents .binary64 s f r) = f.toNat := by
  rw [exponentField, unpackExponent_packComponents]

@[simp] theorem mantissaField_packComponents (s : Sign) (f : BitVec 11) (r : BitVec 52) :
    mantissaField (packComponents .binary64 s f r) = r.toNat := by
  rw [mantissaField, unpackMantissa_packComponents]

theorem unpack_of_fields {b : BitVec 64} {s : Sign} {m : ℕ} {e : ℤ} (h : Canonical m e)
    (hs : signOf b = s) (hf : exponentField b = biased m e) (hr : mantissaField b = m % 2 ^ 52) :
    UnpackedFloat.unpack .binary64 b = .finite s m e h.pos := by
  have hl := h.least
  have hu := h.most
  have hlt := h.lt
  have hpos := h.pos
  have hne : @unpackExponent .binary64 b ≠ -1#11 := by
    intro hc
    rw [exponentField, hc, biased] at hf
    change 2047 = _ at hf
    split at hf <;> omega
  have hsign : Sign.ofBitVec (@unpackSign .binary64 b) = s := hs
  simp only [UnpackedFloat.unpack]
  rw [if_neg hne]
  by_cases hm : 2 ^ 52 ≤ m
  · have hf' : (@unpackExponent .binary64 b).toNat = (e + 1075).toNat := by
      rw [← exponentField, hf, biased, if_pos hm]
    have h0 : @unpackExponent .binary64 b ≠ 0#11 := by
      intro hc
      rw [hc] at hf'
      change 0 = _ at hf'
      omega
    have hr' : (1#1 ++ @unpackMantissa .binary64 b).toNat = m := by
      rw [append_mantissa, ← mantissaField, hr]
      omega
    rw [if_neg h0]
    congr 1
    rw [hf']
    change ((e + 1075).toNat : ℤ) - ((1023 : ℕ) + (52 : ℕ)) = e
    omega
  · have hf' : @unpackExponent .binary64 b = 0#11 :=
      BitVec.eq_of_toNat_eq (by rw [← exponentField, hf, biased, if_neg hm]; rfl)
    have hr' : (@unpackMantissa .binary64 b).toNat = m := by
      rw [← mantissaField, hr]
      omega
    have h0 : @unpackMantissa .binary64 b ≠ 0#52 := by
      intro hc
      rw [hc] at hr'
      change 0 = _ at hr'
      omega
    have he : e = -1074 := h.full.resolve_left hm
    rw [if_pos hf', dif_neg h0]
    congr 1
    rw [hf', he]
    rfl

theorem unpack_pack {m : ℕ} {e : ℤ} (s : Sign) (h : Canonical m e) :
    (Float.Model.pack (.finite s m e h.pos)).unpack = .finite s m e h.pos := by
  change UnpackedFloat.unpack .binary64 (UnpackedFloat.pack .binary64 (.finite s m e h.pos)) = _
  rw [pack_canonical s h]
  refine unpack_of_fields h (signOf_packComponents ..) ?_ ?_
  · rw [exponentField_packComponents, BitVec.toNat_ofNat, Nat.mod_eq_of_lt]
    have := h.most
    unfold biased
    split <;> omega
  · rw [mantissaField_packComponents, BitVec.toNat_ofNat]

theorem pack_unpack_finite {b : BitVec 64} {s : Sign} {m : ℕ} {e : ℤ} {hm : 0 < m}
    (h : UnpackedFloat.unpack .binary64 b = .finite s m e hm) :
    UnpackedFloat.pack .binary64 (.finite s m e hm) = b := by
  have hr := mantissaField_lt b
  have hc := canonical_of_unpack h
  obtain ⟨hs, hfields⟩ := fields_of_unpack_finite h
  have hb : biased m e = exponentField b := by
    unfold biased
    split <;> omega
  have hv : BitVec.ofNat 52 m = BitVec.ofNat 52 (mantissaField b) := by
    apply BitVec.eq_of_toNat_eq
    simp only [BitVec.toNat_ofNat]
    omega
  rw [pack_canonical s hc, hb, hv, hs, packComponents_fields]

theorem pack_unpack_zero {b : BitVec 64} {s : Sign}
    (h : UnpackedFloat.unpack .binary64 b = .zero s) :
    UnpackedFloat.pack .binary64 (.zero s) = b := by
  obtain ⟨hs, hf, hr⟩ := fields_of_unpack_zero h
  rw [← packComponents_fields b, hs, hf, hr]
  rfl

theorem eq_of_unpack {x y : Float} (hx : x.isFinite = true)
    (h : x.toModel.unpack = y.toModel.unpack) : x = y := by
  have key {a : Float.Model} (ha : a.unpack.isFinite = true) :
      UnpackedFloat.pack .binary64 a.unpack = a.toBits.toBitVec := by
    generalize hu : a.unpack = u at ha
    cases u with
    | finite s m e hm => exact pack_unpack_finite hu
    | zero s => exact pack_unpack_zero hu
    | notANumber => cases ha
    | infinity s => cases ha
  have hb : x.toModel.toBits.toBitVec = y.toModel.toBits.toBitVec := by
    rw [← key hx, h, key (by rw [← h]; exact hx)]
  obtain ⟨⟨⟨b⟩, hv⟩⟩ := x
  obtain ⟨⟨⟨b'⟩, hv'⟩⟩ := y
  obtain rfl : b = b' := hb
  rfl

theorem toNat_exponent_bits (b : UInt64) :
    ((b >>> 52) &&& 0x7FF).toNat = exponentField b.toBitVec := by
  have h : (0x7FF : UInt64).toNat = 2 ^ 11 - 1 := rfl
  rw [UInt64.toNat_and, UInt64.toNat_shiftRight, h, Nat.and_two_pow_sub_one_eq_mod]
  simp only [exponentField, unpackExponent, BitVec.toNat_cast, BitVec.extractLsb_toNat]
  rfl

theorem toNat_mantissa_bits (b : UInt64) :
    (b &&& 0xFFFFFFFFFFFFF).toNat = mantissaField b.toBitVec := by
  have h : (0xFFFFFFFFFFFFF : UInt64).toNat = 2 ^ 52 - 1 := rfl
  rw [UInt64.toNat_and, h, Nat.and_two_pow_sub_one_eq_mod]
  simp only [mantissaField, unpackMantissa, BitVec.toNat_cast, BitVec.extractLsb_toNat]
  rfl

theorem isSigned_iff (x : Float) :
    Layout.isSigned x = true ↔ signOf x.toModel.toBits.toBitVec = .negative := by
  have hlt : x.toModel.toBits.toBitVec.toNat < 2 ^ 64 := BitVec.isLt _
  have hu : (@unpackSign .binary64 x.toModel.toBits.toBitVec).toNat =
      x.toModel.toBits.toBitVec.toNat / 2 ^ 63 := by
    simp only [unpackSign, BitVec.toNat_cast, BitVec.extractLsb_toNat]
    change x.toModel.toBits.toBitVec.toNat >>> 63 % 2 ^ 1 = _
    rw [Nat.shiftRight_eq_div_pow]
    omega
  have hb : Layout.isSigned x = true ↔ x.toModel.toBits.toBitVec.toNat / 2 ^ 63 = 1 := by
    rw [Layout.isSigned, beq_iff_eq, ← UInt64.toNat_inj, UInt64.toNat_shiftRight]
    change x.toModel.toBits.toBitVec.toNat >>> 63 = 1 ↔ _
    rw [Nat.shiftRight_eq_div_pow]
  rw [hb, ← hu, signOf]
  rcases BitVec.eq_zero_or_eq_one
    (@unpackSign .binary64 x.toModel.toBits.toBitVec) with h | h <;> rw [h] <;>
    simp [Sign.ofBitVec]

/-- The size of a finite float is read off its bits as it unpacks. -/
theorem ofFloat_of_unpack {x : Float} {s : Sign} {m : ℕ} {e : ℤ} {hm : 0 < m}
    (h : x.toModel.unpack = .finite s m e hm) :
    Binary.ofFloat x = ⟨m, e, decide (Narrow m e)⟩ := by
  obtain ⟨-, hfields⟩ := fields_of_unpack_finite h
  have hr := mantissaField_lt x.toModel.toBits.toBitVec
  have hx : x.toBits.toBitVec = x.toModel.toBits.toBitVec := rfl
  unfold Binary.ofFloat Narrow
  simp only [toNat_exponent_bits, toNat_mantissa_bits, hx, Nat.one_shiftLeft]
  rcases hfields with ⟨hf, rfl, rfl⟩ | ⟨hf, -, rfl, rfl⟩
  · simp [hf]
  · rw [if_neg (by omega)]
    congr 1
    exact decide_eq_decide.2 (by omega)

theorem mantissa_ofFloat_of_zero {x : Float} {s : Sign} (h : x.toModel.unpack = .zero s) :
    (Binary.ofFloat x).mantissa = 0 := by
  obtain ⟨-, hf, hr⟩ := fields_of_unpack_zero h
  have hx : x.toBits.toBitVec = x.toModel.toBits.toBitVec := rfl
  unfold Binary.ofFloat
  simp only [toNat_exponent_bits, toNat_mantissa_bits, hx, hf, hr, ↓reduceIte]

theorem isSigned_of_finite {x : Float} {s : Sign} {m : ℕ} {e : ℤ} {hm : 0 < m}
    (h : x.toModel.unpack = .finite s m e hm) : Layout.isSigned x = true ↔ s = .negative := by
  rw [isSigned_iff, (fields_of_unpack_finite h).1]

theorem isSigned_of_zero {x : Float} {s : Sign} (h : x.toModel.unpack = .zero s) :
    Layout.isSigned x = true ↔ s = .negative := by
  rw [isSigned_iff, (fields_of_unpack_zero h).1]

theorem unpack_neg {x : Float} (h : x.isFinite = true) :
    (-x).toModel.unpack = x.toModel.unpack.neg := by
  change (Float.Model.pack x.toModel.unpack.neg).unpack = _
  change x.toModel.unpack.isFinite = true at h
  cases hu : x.toModel.unpack with
  | notANumber => simp [hu, UnpackedFloat.isFinite] at h
  | infinity s => simp [hu, UnpackedFloat.isFinite] at h
  | zero s => cases s <;> rfl
  | finite s m e hm => exact unpack_pack (-s) (canonical_of_unpack hu)

theorem isFinite_neg {x : Float} (h : x.isFinite = true) : (-x).isFinite = true := by
  change (-x).toModel.unpack.isFinite = true
  rw [unpack_neg h]
  change x.toModel.unpack.isFinite = true at h
  revert h
  cases x.toModel.unpack <;> exact id

end TokenTariff.Binary64
