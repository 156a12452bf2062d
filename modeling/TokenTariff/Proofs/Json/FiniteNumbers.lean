import Mathlib
import TokenTariff.Proofs.Decimal.Reading
import TokenTariff.Proofs.Json.Documents
import TokenTariff.Proofs.Json.Grammar

/-!
# Numbers in documents are finite

An integer of a document fits in 64 bits and a real that is too large is a fault, so every number
that a text says, however deep in its document, is a finite float.
-/

namespace TokenTariff.Json

open Binary64

theorem natAbs_lt_of_int? {n : Numeral} {i : ℤ} (h : Number.int? n = some i) :
    i.natAbs < 2 ^ 64 := by
  unfold Number.int? at h
  have hs : UInt64.size = 2 ^ 64 := rfl
  split at h
  · cases h
  · split at h
    · split at h
      · cases h
      · rw [Option.some.injEq] at h
        omega
    · split at h
      · rw [Option.some.injEq] at h
        omega
      · cases h

theorem isFinite_of_ofNumeral? {n : Numeral} {m : Number} (h : Number.ofNumeral? n = some m) :
    m.toFloat.isFinite = true := by
  unfold Number.ofNumeral? at h
  split at h
  · rename_i i hi
    rw [Option.some.injEq] at h
    subst h
    exact isFinite_ofInt (natAbs_lt_of_int? hi)
  · rw [Option.map_eq_some_iff] at h
    obtain ⟨x, hx, rfl⟩ := h
    exact Numeral.isFinite_of_toFloat? hx

/-! ### How large a number may be -/

theorem IsNumeral.power_eq_zero {n : Numeral} {cs : List Char} (h : IsNumeral n cs)
    (hwhole : n.whole = true) : n.power = 0 := by
  cases h with
  | positional h =>
    cases h with
    | whole negative _ => rfl
    | places negative _ _ => cases hwhole
  | scientific _ _ _ => cases hwhole

namespace Number

def float? (n : Numeral) : Option Float := (ofNumeral? n).map toFloat

theorem mantissa_lt_of_int? {n : Numeral} {i : ℤ} (h : int? n = some i) :
    n.whole = true ∧ n.mantissa < 2 ^ 64 := by
  have hs : UInt64.size = 2 ^ 64 := rfl
  unfold int? at h
  split at h
  · cases h
  · rename_i hwhole
    refine ⟨by simpa using hwhole, ?_⟩
    split at h
    · split at h
      · cases h
      · omega
    · split at h
      · omega
      · cases h

variable {n : Numeral}

/-- Every numeral that is not too close to the greatest float says a float. -/
theorem exists_float? (h : n.value ≤ 17976931348623154 * 10 ^ 292) : ∃ x, float? n = some x := by
  rw [float?, ofNumeral?]
  cases int? n with
  | some i => exact ⟨_, rfl⟩
  | none =>
    obtain ⟨x, hx⟩ := Numeral.exists_toFloat? (Numeral.lt_limit_of_value_le h)
    exact ⟨x, by rw [hx]; rfl⟩

/-- No numeral says a float that is far enough beyond the greatest one. -/
theorem float?_eq_none {cs : List Char} (hn : IsNumeral n cs)
    (h : 17976931348623163 * 10 ^ 292 ≤ n.value) : float? n = none := by
  have hint : int? n = none := by
    by_contra hne
    obtain ⟨i, hi⟩ := Option.ne_none_iff_exists'.1 hne
    obtain ⟨hwhole, hlt⟩ := mantissa_lt_of_int? hi
    have hvalue : n.value = n.mantissa := by
      rw [Numeral.value, hn.power_eq_zero hwhole, zpow_zero, mul_one]
    have hword : (n.mantissa : ℚ) < 2 ^ 64 := by exact_mod_cast hlt
    have hlarge : (10 : ℚ) ^ 4 ≤ 10 ^ 292 := pow_le_pow_right₀ (by norm_num) (by norm_num)
    rw [hvalue] at h
    generalize (10 : ℚ) ^ 292 = t at *
    linarith
  rw [float?, ofNumeral?, hint, Numeral.toFloat?_eq_none (Numeral.limit_le_of_le_value h)]
  rfl

end Number

/-! ### Documents -/

def Doc.Finite (d : Doc) : Prop := ∀ n, d = .number (.ok n) → n.toFloat.isFinite = true

def Doc.AllFinite (d : Doc) : Prop := ∀ p, Doc.IsPart p d → p.Finite

namespace Doc.AllFinite

variable {d : Doc}

theorem finite (h : d.AllFinite) : d.Finite := h d .itself

theorem item {items : List Doc} {ending : ListEnd} (h : (Doc.list items ending).AllFinite)
    (hd : d ∈ items) : d.AllFinite := fun p hp => h p (.item hd hp)

theorem member {members : List (Except Fault String × Doc)} {ending : ObjectEnd}
    (h : (Doc.object members ending).AllFinite) {m : Except Fault String × Doc}
    (hm : m ∈ members) : m.2.AllFinite := fun p hp => h p (.member hm hp)

theorem part (h : d.AllFinite) {p : Doc} (hp : Doc.IsPart p d) : p.AllFinite := by
  induction hp with
  | itself => exact h
  | item hd _ ih => exact ih (h.item hd)
  | member hm _ ih => exact ih (h.member hm)

end Doc.AllFinite

theorem finite_numberDoc (n : Numeral) : (Builder.numberDoc n).Finite := by
  intro m hm
  obtain hm := Doc.number.inj hm
  split at hm
  · rename_i m' hn
    cases hm
    exact isFinite_of_ofNumeral? hn
  · cases hm

theorem hereditary_allFinite : Doc.Hereditary Doc.AllFinite where
  null := by
    rintro p ⟨⟩
    nofun
  bool b := by
    rintro p ⟨⟩
    nofun
  number n := by
    rintro p ⟨⟩
    exact finite_numberDoc n
  text s := by
    rintro p ⟨⟩
    nofun
  broken r s := by
    rintro p ⟨⟩
    nofun
  garbled r s := by
    rintro p ⟨⟩
    nofun
  list ending h := by
    intro p hp
    cases hp with
    | itself => nofun
    | item hd hp => exact h _ hd p hp
  object ending h := by
    intro p hp
    cases hp with
    | itself => nofun
    | member hm hp => exact h _ hm p hp

theorem allFinite_ofText (s : String) : (Doc.ofText s).1.AllFinite := hereditary_allFinite.ofText s

end TokenTariff.Json
