import Mathlib
import TokenTariff.Json.Reader
import TokenTariff.Proofs.Decimal.Interval
import TokenTariff.Proofs.Decimal.Reading
import TokenTariff.Proofs.Json.Grammar

/-!
# Written numbers

The text of a finite float is a numeral with a point or an exponent. Its value is the decimal that
was chosen for the float, in whichever of the layouts it stands. Since that decimal rounds to the
float, the numeral is never too large to be read; the float that is read need not be the one that
was written.
-/

namespace TokenTariff

open Json Binary64 Float.Model Float.Model.UnpackedFloat

/-! ### The numeral in a text -/

def Decimal.numeral (negative : Bool) (d : Decimal) : Numeral :=
  let digits := (Nat.toDigits 10 d.digits).length
  let point := (digits : Int) + d.exponent
  if Layout.json.isPlain (point - 1) then
    if point ≤ 0 then ⟨negative, d.digits, (-point).toNat + digits, 0, false⟩
    else if 0 ≤ d.exponent then ⟨negative, d.digits * 10 ^ d.exponent.toNat * 10, 1, 0, false⟩
    else ⟨negative, d.digits, digits - point.toNat, 0, false⟩
  else ⟨negative, d.digits, digits - 1, point - 1, false⟩

def numeralOf (x : Float) : Numeral :=
  let b := Binary.ofFloat x
  if b.mantissa = 0 then ⟨Layout.isSigned x, 0, 1, 0, false⟩
  else (Decimal.shortest .even b).numeral (Layout.isSigned x)

namespace Decimal

theorem whole_numeral (b : Bool) (d : Decimal) : (d.numeral b).whole = false := by
  unfold numeral
  dsimp only
  split_ifs <;> rfl

theorem negative_numeral (b : Bool) (d : Decimal) : (d.numeral b).negative = b := by
  unfold numeral
  dsimp only
  split_ifs <;> rfl

theorem value_numeral (b : Bool) (d : Decimal) : (d.numeral b).value = d.value := by
  obtain ⟨n, e⟩ := d
  have hlen : 0 < (Nat.toDigits 10 n).length := List.length_pos_of_ne_nil Nat.toDigits_ne_nil
  unfold numeral
  dsimp only
  split_ifs with hplain hpoint he
  · simp only [Numeral.value, Numeral.power, value]
    congr 2
    omega
  · have hpow : (10 : ℚ) ^ e = 10 ^ e.toNat := by
      rw [← zpow_natCast]
      congr 1
      omega
    simp only [Numeral.value, Numeral.power, value, hpow]
    push_cast
    norm_num
    ring
  · simp only [Numeral.value, Numeral.power, value]
    congr 2
    omega
  · simp only [Numeral.value, Numeral.power, value]
    congr 2
    push_cast [Nat.cast_sub (Nat.succ_le_of_lt hlen)]
    omega

end Decimal

namespace Json

theorem isDigit_of_mem {n : ℕ} : ∀ c ∈ Nat.toDigits 10 n, c.isDigit = true := fun _ h =>
  Nat.isDigit_of_mem_toDigits (by decide) le_rfl h

theorem isDigits_toDigits (n : ℕ) : IsDigits (Nat.toDigits 10 n) :=
  ⟨Nat.toDigits_ne_nil, isDigit_of_mem⟩

theorem digitsValue_toDigits (n : ℕ) : digitsValue (Nat.toDigits 10 n) = n :=
  Nat.ofDigitChars_ten_toDigits

theorem exists_leading_digit {n : ℕ} (hn : n ≠ 0) :
    ∃ c cs, Nat.toDigits 10 n = c :: cs ∧ c ≠ '0' := by
  induction n using Nat.strong_induction_on with
  | h n ih =>
    by_cases h : 10 ≤ n
    · obtain ⟨c, cs, hc, h0⟩ := ih (n / 10) (by omega) (by omega)
      refine ⟨c, cs ++ [Nat.digitChar (n % 10)], ?_, h0⟩
      rw [Nat.toDigits_of_base_le (by decide) h, hc, List.cons_append]
    · refine ⟨Nat.digitChar n, [], Nat.toDigits_of_lt_base (by omega), ?_⟩
      simpa using hn

theorem isWhole_of_leading {c : Char} {cs : List Char} (h0 : c ≠ '0')
    (hd : ∀ d ∈ c :: cs, d.isDigit = true) : IsWhole (c :: cs) :=
  ⟨⟨List.cons_ne_nil c cs, hd⟩, fun h => absurd (Option.some.inj h) h0⟩

theorem isWhole_zero : IsWhole ['0'] := ⟨isDigits_singleton rfl, fun _ => rfl⟩

theorem isWhole_toDigits {n : ℕ} (hn : n ≠ 0) : IsWhole (Nat.toDigits 10 n) := by
  obtain ⟨c, cs, hcons, h0⟩ := exists_leading_digit hn
  rw [hcons]
  exact isWhole_of_leading h0 (hcons ▸ isDigit_of_mem)

theorem isDigit_replicate {k : ℕ} : ∀ c ∈ List.replicate k '0', c.isDigit = true := fun _ h => by
  rw [List.eq_of_mem_replicate h]
  rfl

/-- All digits behind the point, after some zeros. -/
theorem positional_behind_point (b : Bool) (n k : ℕ) :
    Positional ⟨b, n, k + (Nat.toDigits 10 n).length, 0, false⟩
      (signChars b ++ '0' :: '.' :: (List.replicate k '0' ++ Nat.toDigits 10 n)) := by
  have hplaces : IsDigits (List.replicate k '0' ++ Nat.toDigits 10 n) := by
    refine ⟨by simp, fun c hc => ?_⟩
    exact (List.mem_append.1 hc).elim (isDigit_replicate c) (isDigit_of_mem c)
  have hvalue : digitsValue (['0'] ++ (List.replicate k '0' ++ Nat.toDigits 10 n)) = n := by
    simp [digitsValue, Nat.ofDigitChars_cons, Nat.ofDigitChars_append]
  have h := Positional.places b isWhole_zero hplaces
  rw [hvalue] at h
  simpa using h

/-- All digits before the point, followed by some zeros. -/
theorem positional_before_point (b : Bool) {n : ℕ} (hn : n ≠ 0) (k : ℕ) :
    Positional ⟨b, n * 10 ^ k * 10, 1, 0, false⟩
      (signChars b ++ (Nat.toDigits 10 n ++ List.replicate k '0' ++ ['.', '0'])) := by
  have hwhole : IsWhole (Nat.toDigits 10 n ++ List.replicate k '0') := by
    refine ⟨(isDigits_toDigits n).append isDigit_replicate, fun h => ?_⟩
    obtain ⟨c, cs, hcons, h0⟩ := exists_leading_digit hn
    rw [hcons] at h
    exact absurd (Option.some.inj h) h0
  have hvalue : digitsValue (Nat.toDigits 10 n ++ List.replicate k '0' ++ ['0']) =
      n * 10 ^ k * 10 := by
    rw [digitsValue_concat]
    simp [digitsValue, Nat.ofDigitChars_append, Nat.mul_comm]
  have h := Positional.places b hwhole isWhole_zero.1
  rw [hvalue] at h
  simpa using h

/-- The point among the digits, `p` of them before it. -/
theorem positional_around_point (b : Bool) {n p : ℕ} (hn : n ≠ 0) (hp : 0 < p)
    (hlt : p < (Nat.toDigits 10 n).length) :
    Positional ⟨b, n, (Nat.toDigits 10 n).length - p, 0, false⟩
      (signChars b ++ ((Nat.toDigits 10 n).take p ++ '.' :: (Nat.toDigits 10 n).drop p)) := by
  obtain ⟨c, cs, hcons, h0⟩ := exists_leading_digit hn
  obtain ⟨k, rfl⟩ : ∃ k, p = k + 1 := ⟨p - 1, by omega⟩
  have hwhole : IsWhole ((Nat.toDigits 10 n).take (k + 1)) := by
    have hd : ∀ d ∈ (Nat.toDigits 10 n).take (k + 1), d.isDigit = true := fun d hd =>
      isDigit_of_mem d (List.mem_of_mem_take hd)
    rw [hcons, List.take_succ_cons] at hd ⊢
    exact isWhole_of_leading h0 hd
  have hplaces : IsDigits ((Nat.toDigits 10 n).drop (k + 1)) := by
    refine ⟨fun hnil => ?_, fun d hd => isDigit_of_mem d (List.mem_of_mem_drop hd)⟩
    exact absurd (List.drop_eq_nil_iff.1 hnil) (not_le.2 hlt)
  have h := Positional.places b hwhole hplaces
  rw [List.take_append_drop, digitsValue_toDigits, List.length_drop] at h
  simpa using h

/-- An exponent behind a numeral without one. -/
theorem isNumeral_power {n : Numeral} {cs : List Char} (h : Positional n cs) (lead : ℤ) :
    IsNumeral { n with exponent := lead, whole := false }
      (cs ++ 'e' :: (if lead < 0 then '-' else '+') :: Nat.toDigits 10 lead.natAbs) := by
  have hmark := PowerMark.signed (decide (lead < 0)) (.inl rfl : 'e' = 'e' ∨ 'e' = 'E')
  have hnumeral := IsNumeral.scientific h hmark (isDigits_toDigits lead.natAbs)
  have hpower : (if decide (lead < 0) = true then -(lead.natAbs : ℤ) else lead.natAbs) = lead := by
    simp only [decide_eq_true_eq]
    split <;> omega
  rw [withPower, digitsValue_toDigits, hpower] at hnumeral
  simpa using hnumeral

theorem isNumeral_scientific (b : Bool) {n : ℕ} (h : n ≠ 0) (lead : ℤ) :
    IsNumeral ⟨b, n, (Nat.toDigits 10 n).length - 1, lead, false⟩
      (signChars b ++ Layout.scientific (Nat.toDigits 10 n) lead) := by
  obtain ⟨c, cs, hcons, h0⟩ := exists_leading_digit h
  have hd : ∀ d ∈ c :: cs, d.isDigit = true := hcons ▸ isDigit_of_mem
  have hvalue : digitsValue (c :: cs) = n := hcons ▸ digitsValue_toDigits n
  have hfirst : IsWhole [c] := isWhole_of_leading h0 fun d hm =>
    hd d (List.mem_cons.2 (.inl (List.mem_singleton.1 hm)))
  rw [hcons]
  cases cs with
  | nil =>
    have hdigit : Positional { negative := b, mantissa := n } (signChars b ++ [c]) :=
      hvalue ▸ Positional.whole b hfirst
    have htext := isNumeral_power hdigit lead
    rwa [List.append_assoc] at htext
  | cons c' cs =>
    have hrest : IsDigits (c' :: cs) :=
      ⟨List.cons_ne_nil c' cs, fun d hm => hd d (List.mem_cons_of_mem _ hm)⟩
    have hplaces := Positional.places b hfirst hrest
    rw [List.singleton_append, hvalue] at hplaces
    have htext := isNumeral_power hplaces lead
    rwa [List.append_assoc, List.append_assoc] at htext

/-- A decimal is written as its numeral, in either layout. -/
theorem isNumeral_decimal (b : Bool) {d : Decimal} (h : d.digits ≠ 0) :
    IsNumeral (d.numeral b) (signChars b ++ Layout.json.decimal d) := by
  obtain ⟨n, e⟩ := d
  have hlen : 0 < (Nat.toDigits 10 n).length := List.length_pos_of_ne_nil Nat.toDigits_ne_nil
  unfold Layout.decimal Decimal.numeral Layout.positional
  dsimp only
  split_ifs with hplain hpoint he
  · exact .positional (positional_behind_point b n _)
  · exact .positional (positional_before_point b h _)
  · exact .positional (positional_around_point b h (by omega) (by omega))
  · exact isNumeral_scientific b h _

/-! ### The text of a float -/

variable {x : Float}

theorem isInf_of_isFinite (h : x.isFinite = true) : x.isInf = false := by
  change x.toModel.unpack.isFinite = true at h
  change x.toModel.unpack.isInf = false
  revert h
  cases x.toModel.unpack <;> simp [UnpackedFloat.isFinite, UnpackedFloat.isInf]

theorem isNaN_of_isFinite (h : x.isFinite = true) : x.isNaN = false := by
  change x.toModel.unpack.isFinite = true at h
  change x.toModel.unpack.isNaN = false
  revert h
  cases x.toModel.unpack <;> simp [UnpackedFloat.isFinite, UnpackedFloat.isNaN]

/-- A finite float unpacks to a zero, or to a mantissa and an exponent in canonical form. -/
theorem cases_of_isFinite (h : x.isFinite = true) :
    (Binary.ofFloat x).mantissa = 0 ∨
      ∃ m e, Canonical m e ∧ Binary.ofFloat x = ⟨m, e, decide (Narrow m e)⟩ := by
  change x.toModel.unpack.isFinite = true at h
  cases hu : x.toModel.unpack with
  | notANumber => simp [hu, UnpackedFloat.isFinite] at h
  | infinity s => simp [hu, UnpackedFloat.isFinite] at h
  | zero s => exact .inl (mantissa_ofFloat_of_zero hu)
  | finite s m e hm => exact .inr ⟨m, e, canonical_of_unpack hu, ofFloat_of_unpack hu⟩

theorem ne_zero_of_near {m : ℕ} {e : ℤ} {q : ℚ} (hc : Canonical m e) (hn : Near m e q) :
    q ≠ 0 := by
  rintro rfl
  exact absurd (hn.bounds hc).1 (not_le.2 (by positivity))

theorem digits_ne_zero {m : ℕ} {e : ℤ} (hc : Canonical m e) :
    (Decimal.shortest .even ⟨m, e, decide (Narrow m e)⟩).digits ≠ 0 := by
  intro h0
  refine ne_zero_of_near hc (Decimal.near_shortest .even hc) ?_
  rw [Decimal.value, h0, Nat.cast_zero, zero_mul]

theorem mantissa_pos_of_near {m : ℕ} {e : ℤ} {n : Numeral} (hc : Canonical m e)
    (hn : Near m e n.value) : 0 < n.mantissa := by
  rw [Nat.pos_iff_ne_zero]
  intro h0
  refine ne_zero_of_near hc hn ?_
  rw [Numeral.value, h0, Nat.cast_zero, zero_mul]

theorem whole_numeralOf (x : Float) : (numeralOf x).whole = false := by
  unfold numeralOf
  dsimp only
  split
  · rfl
  · exact Decimal.whole_numeral _ _

/-- The text of a finite float is its numeral. -/
theorem isNumeral_write (hx : x.isFinite = true) :
    IsNumeral (numeralOf x) (Value.real x).write.toList := by
  have htext : (Value.real x).write.toList =
      signChars (Layout.isSigned x) ++ Layout.json.magnitude x := by
    simp only [Value.real, hx, ↓reduceIte, Value.write, Number.write, Layout.write,
      isNaN_of_isFinite hx, isInf_of_isFinite hx, Bool.false_eq_true, String.toList_ofList]
    cases Layout.isSigned x <;> rfl
  rw [htext, Layout.magnitude, numeralOf]
  rcases cases_of_isFinite hx with h0 | ⟨m, e, hc, hb⟩
  · simp only [h0, ↓reduceIte]
    exact .positional (positional_behind_point (Layout.isSigned x) 0 0)
  · simp only [hb, hc.pos.ne', ↓reduceIte]
    exact isNumeral_decimal _ (digits_ne_zero hc)

/-! ### The float of a text -/

/-- The text of a float is not too close to the end of the range to be read, unless the float is
one of the three greatest. -/
theorem lt_limit_of_canonical {m : ℕ} {e : ℤ} {q : ℚ} (hc : Canonical m e) (hn : Near m e q)
    (h : e < 971 ∨ m + 4 ≤ 2 ^ 53) : q * 2 ^ 106 < limit * (2 ^ 53 - 1) ^ 2 := by
  have hupper := hn.upper
  have hp : (0 : ℚ) < 2 ^ (971 : ℤ) := by positivity
  rw [limit, limitAt]
  rcases h with he | hm
  · have hm : (m : ℚ) + 1 ≤ 2 ^ 53 := by exact_mod_cast hc.lt
    have hhalf : (2 : ℚ) * 2 ^ e ≤ 2 ^ (971 : ℤ) := by
      rw [← zpow_one_add₀ (by norm_num)]
      exact zpow_le_zpow_right₀ (by norm_num) (by omega)
    generalize (2 : ℚ) ^ (971 : ℤ) = p at *
    have hq : ((m : ℚ) + 1 / 2) * 2 ^ e ≤ (2 ^ 53 - 1 / 2) * (p / 2) := by
      gcongr <;> linarith
    linarith
  · have hm : (m : ℚ) + 4 ≤ 2 ^ 53 := by exact_mod_cast hm
    have hle : (2 : ℚ) ^ e ≤ 2 ^ (971 : ℤ) := zpow_le_zpow_right₀ (by norm_num) hc.most
    generalize (2 : ℚ) ^ (971 : ℤ) = p at *
    have hq : ((m : ℚ) + 1 / 2) * 2 ^ e ≤ (2 ^ 53 - 7 / 2) * p := by
      gcongr
      linarith
    linarith

theorem isSome_of_greatest : ∀ b, ∀ k : Fin 3, ((Decimal.shortest .even
    ⟨2 ^ 53 - 1 - k, 971, decide (Narrow (2 ^ 53 - 1 - k) 971)⟩).numeral b).toFloat?.isSome := by
  decide +kernel

/-- The text of a finite float is read as some float. -/
theorem exists_toFloat?_numeralOf (hx : x.isFinite = true) :
    ∃ y, (numeralOf x).toFloat? = some y := by
  unfold numeralOf
  dsimp only
  rcases cases_of_isFinite hx with h0 | ⟨m, e, hc, hb⟩
  · rw [if_pos h0]
    refine Numeral.exists_toFloat? ?_
    rw [Numeral.value, Nat.cast_zero, zero_mul, zero_mul]
    exact mul_pos limit_pos (by norm_num)
  · rw [hb, if_neg hc.pos.ne']
    by_cases htop : e < 971 ∨ m + 4 ≤ 2 ^ 53
    · refine Numeral.exists_toFloat? ?_
      rw [Decimal.value_numeral]
      exact lt_limit_of_canonical hc (Decimal.near_shortest .even hc) htop
    · have hm := hc.lt
      have he := hc.most
      obtain rfl : e = 971 := by omega
      obtain ⟨k, rfl⟩ : ∃ k : Fin 3, m = 2 ^ 53 - 1 - k :=
        ⟨⟨2 ^ 53 - 1 - m, by omega⟩, by simp only; omega⟩
      exact Option.isSome_iff_exists.1 (isSome_of_greatest _ k)

/-- The number has few digits, and a power of ten that is a float. -/
structure Short (x : Float) : Prop where
  finite : x.isFinite = true
  digits : (numeralOf x).mantissa < 2 ^ 53
  power : (numeralOf x).power.natAbs ≤ 22

theorem toFloat?_numeralOf_of_zero {s : UnpackedFloat.Sign} (hx : x.isFinite = true)
    (hunpack : x.toModel.unpack = .zero s) : (numeralOf x).toFloat? = some x := by
  have hsign := isSigned_of_zero hunpack
  unfold numeralOf
  dsimp only
  rw [if_pos (mantissa_ofFloat_of_zero hunpack)]
  cases s with
  | positive =>
    have hzero : (0 : Float).toModel.unpack = .zero .positive := by rfl
    have hplus : Layout.isSigned x = false := Bool.eq_false_iff.2 fun h => by cases hsign.1 h
    rw [hplus]
    obtain rfl : x = 0 := eq_of_unpack hx (hunpack.trans hzero.symm)
    decide +kernel
  | negative =>
    have hzero : (-0 : Float).toModel.unpack = .zero .negative := by rfl
    rw [hsign.2 rfl]
    obtain rfl : x = -0 := eq_of_unpack hx (hunpack.trans hzero.symm)
    decide +kernel

/-- The text of a short number is read as the number. -/
theorem Short.toFloat?_numeralOf (h : Short x) : (numeralOf x).toFloat? = some x := by
  obtain ⟨hx, hdigits, hpower⟩ := h
  have hu := hx
  change x.toModel.unpack.isFinite = true at hu
  cases hunpack : x.toModel.unpack with
  | notANumber => simp [hunpack, UnpackedFloat.isFinite] at hu
  | infinity s => simp [hunpack, UnpackedFloat.isFinite] at hu
  | zero s => exact toFloat?_numeralOf_of_zero hx hunpack
  | finite s m e hm =>
    have hc := canonical_of_unpack hunpack
    unfold numeralOf at *
    dsimp only at *
    rw [ofFloat_of_unpack hunpack, if_neg hc.pos.ne'] at *
    have hnear := Decimal.near_shortest .even hc
    rw [← Decimal.value_numeral (Layout.isSigned x)] at hnear
    obtain ⟨y, hy, huy⟩ := Numeral.exists_toFloat?_of_near (mantissa_pos_of_near hc hnear)
      hdigits hpower hc hnear
    have hyfinite : y.isFinite = true := by
      change y.toModel.unpack.isFinite = true
      rw [huy]
      rfl
    have hsign := isSigned_of_finite hunpack
    rw [hy, Decimal.negative_numeral, Option.some.injEq]
    cases s with
    | positive =>
      have hplus : Layout.isSigned x ≠ true := fun h => by cases hsign.1 h
      rw [if_neg hplus]
      exact eq_of_unpack hyfinite (huy.trans hunpack.symm)
    | negative =>
      rw [if_pos (hsign.2 rfl)]
      refine eq_of_unpack (isFinite_neg hyfinite) ?_
      rw [unpack_neg hyfinite, huy, hunpack]
      rfl

/-- What is read where the number was written. To unfold it would be to read a text. -/
@[irreducible]
def reread (x : Float) : Float := (Reader.real.parse (Value.real x).write).toOption.getD x

/-- The number is the one that its text is read as. -/
def ReadsBack (x : Float) : Prop := Reader.real.parse (Value.real x).write = .ok x

theorem ReadsBack.reread_eq (h : ReadsBack x) : reread x = x := by
  rw [reread, h]
  rfl

end Json

end TokenTariff
