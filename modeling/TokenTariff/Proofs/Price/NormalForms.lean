import Mathlib
import TokenTariff.Price.Quote
import TokenTariff.Proofs.Catalog.Rates
import TokenTariff.Proofs.Json.Readers
import TokenTariff.Proofs.Price.Amounts

/-!
# Normal forms of quotes

Whatever the unit of a quote, the prices that are divided to give its ratios are amounts, since they
have been checked or come from ones that have been. So the model ratio is an amount always, and the
completion ratio is one or has overflown. In the first case the pair is its own normal form and a
tariff of it passes its check; in the other one it is refused in both places.
-/

namespace TokenTariff

open Binary64
open Json (exists_of_bind exists_of_map)

theorem checkAmount_ok_iff {field : String} {x : Float} :
    checkAmount field x = .ok () ↔ isBadAmount x = false := by
  rw [checkAmount]
  cases isBadAmount x <;> simp

def OptionalAmount (y : Option Float) : Prop := ∀ x, y = some x → isBadAmount x = false

theorem checkAmounts_ok {first second : String} {x : Float} {y : Option Float}
    (hx : isBadAmount x = false) (hy : OptionalAmount y) :
    checkAmounts first second x y = .ok () := by
  unfold checkAmounts
  rw [checkAmount_ok_iff.2 hx]
  cases y with
  | none => rfl
  | some y => exact checkAmount_ok_iff.2 (hy y rfl)

theorem checkAmounts_ok_iff {first second : String} {x : Float} {y : Option Float} :
    checkAmounts first second x y = .ok () ↔ isBadAmount x = false ∧ OptionalAmount y := by
  constructor
  · intro h
    obtain ⟨⟨⟩, hx, h⟩ := exists_of_bind h
    refine ⟨checkAmount_ok_iff.1 hx, fun z hz => ?_⟩
    subst hz
    exact checkAmount_ok_iff.1 h
  · exact fun h => checkAmounts_ok h.1 h.2

theorem completionRatio_ok_iff {input output c : Float} :
    completionRatio input output = .ok c ↔ (input == 0) = false ∧ output / input = c := by
  rw [completionRatio]
  cases input == 0 <;> simp

namespace Quote

variable {q : Quote} {r : Float} {c : Option Float}

/-- The prices of a quote in dollars; ratios have none. -/
def dollars? : Quote → Option (Float × Option Float)
  | ratio _ _ => none
  | usd input output => some (input, output)
  | cny input output => some (input / cnyPerUsd, output.map (· / cnyPerUsd))

/-- The output price is so many times the input price that no finite float says how many. -/
def TooSteep (q : Quote) : Prop :=
  ∃ input output, q.dollars? = some (input, some output) ∧ limit ≤ size output / size input

theorem normalize_ratio (hr : isBadAmount r = false) (hc : OptionalAmount c) :
    (ratio r c).normalize = .ok (r, c) := by
  rw [normalize, checkAmounts_ok hr hc]
  rfl

theorem normalize_ratio_of_bad {x : Float} (hr : isBadAmount r = false)
    (hx : isBadAmount x = true) :
    (ratio r (some x)).normalize =
      .error (.badArgument (.notNonNegative "completion_ratio" x)) := by
  have hcheck : checkAmounts "model_ratio" "completion_ratio" r (some x) =
      .error (.badArgument (.notNonNegative "completion_ratio" x)) := by
    unfold checkAmounts
    rw [checkAmount_ok_iff.2 hr]
    exact if_pos hx
  rw [normalize, hcheck]
  rfl

theorem normalize_usd {input output : Float} (hin : isBadAmount input = false)
    (hout : isBadAmount output = false) (h0 : (input == 0) = false) :
    (usd input (some output)).normalize = .ok (ratioOfUsd input, some (output / input)) := by
  have houtput : OptionalAmount (some output) := fun x hx => Option.some.inj hx ▸ hout
  rw [normalize, checkAmounts_ok hin houtput, optionally,
    completionRatio_ok_iff.2 ⟨h0, rfl⟩]
  rfl

theorem exists_of_normalize (h : q.normalize = .ok (r, c)) :
    (q = ratio r c ∧ isBadAmount r = false ∧ OptionalAmount c) ∨
      ∃ input output, q.dollars? = some (input, output) ∧ isBadAmount input = false ∧
        OptionalAmount output ∧ r = ratioOfUsd input ∧
        optionally (completionRatio input) output = .ok c := by
  cases q with
  | ratio model completion =>
    obtain ⟨⟨⟩, hcheck, h⟩ := exists_of_bind h
    cases h
    exact .inl ⟨rfl, checkAmounts_ok_iff.1 hcheck⟩
  | usd input output =>
    obtain ⟨⟨⟩, hcheck, h⟩ := exists_of_bind h
    obtain ⟨completion, hcompletion, h⟩ := exists_of_bind h
    cases h
    obtain ⟨hin, hout⟩ := checkAmounts_ok_iff.1 hcheck
    exact .inr ⟨input, output, rfl, hin, hout, rfl, hcompletion⟩
  | cny input output =>
    obtain ⟨⟨⟩, hcheck, h⟩ := exists_of_bind h
    obtain ⟨completion, hcompletion, h⟩ := exists_of_bind h
    cases h
    obtain ⟨hin, hout⟩ := checkAmounts_ok_iff.1 hcheck
    refine .inr ⟨_, _, rfl, isBadAmount_dollars hin, fun x hx => ?_, rfl, ?_⟩
    · obtain ⟨y, hy, rfl⟩ := Option.map_eq_some_iff.1 hx
      exact isBadAmount_dollars (hout y hy)
    · cases output <;> exact hcompletion

theorem completion_cases {input : Float} {output : Option Float} (hin : isBadAmount input = false)
    (hout : OptionalAmount output) (h : optionally (completionRatio input) output = .ok c) :
    (∀ price, output = some price → size price / size input < limit) ∧ OptionalAmount c ∨
      ∃ price x, output = some price ∧ limit ≤ size price / size input ∧ c = some x ∧
        x.toModel.unpack = .infinity .positive := by
  cases output with
  | none =>
    cases h
    exact .inl ⟨nofun, nofun⟩
  | some price =>
    obtain ⟨x, hx, rfl⟩ := exists_of_map h
    obtain ⟨h0, rfl⟩ := completionRatio_ok_iff.1 hx
    rcases isBadAmount_div (hout price rfl) hin h0 with ⟨hlt, hamount⟩ | ⟨hle, hinf⟩
    · exact .inl ⟨fun _ hp => Option.some.inj hp ▸ hlt,
        fun _ hx => Option.some.inj hx ▸ hamount⟩
    · exact .inr ⟨price, _, rfl, hle, rfl, hinf⟩

end Quote

namespace Tariff

variable {model : String} {r : Float} {c : Option Float}

def ofRatios (model : String) (r : Float) (c : Option Float) : Tariff :=
  flat model { modelRatio := some r, completionRatio := c }

theorem check_ofRatios (hmodel : isBlank model = false) (hr : isBadAmount r = false)
    (hc : OptionalAmount c) : (ofRatios model r c).check = .ok () := by
  have hrate : FlatRate.check { modelRatio := some r, completionRatio := c } = .ok () := by
    refine FlatRate.check_eq_ok_iff.2 ⟨rfl, fun i x hx => ?_⟩
    cases i with
    | price => cases hx
    | ratio => exact Option.some.inj hx ▸ hr
    | completion => exact hc x hx
  rw [check, ofRatios, flat, hmodel]
  exact hrate

theorem check_ofRatios_of_bad {x : Float} (hmodel : isBlank model = false)
    (hr : isBadAmount r = false) (hx : isBadAmount x = true) :
    (ofRatios model r (some x)).check = .error (.notNonNegative "completion_ratio" x) := by
  have hrate : FlatRate.check { modelRatio := some r, completionRatio := some x } =
      .error (.notNonNegative "completion_ratio" x) := by
    simp [FlatRate.check, FlatRate.badField?, FlatRate.fields, Option.filter, hr, hx]
  rw [check, ofRatios, flat, hmodel]
  exact hrate

end Tariff

namespace Quote

variable {q : Quote} {r : Float} {c : Option Float}

/-- The normal form of a quote is its own normal form and may be saved for any model, unless the
quote is too steep: then the completion ratio is infinite, and it is refused in both places. -/
theorem saved_unless_too_steep (h : q.normalize = .ok (r, c)) :
    (¬q.TooSteep ∧ (ratio r c).normalize = .ok (r, c) ∧
      ∀ model, isBlank model = false → (Tariff.ofRatios model r c).check = .ok ()) ∨
    (q.TooSteep ∧ ∃ x, c = some x ∧ x.isInf = true ∧
      (ratio r c).normalize = .error (.badArgument (.notNonNegative "completion_ratio" x)) ∧
      ∀ model, isBlank model = false →
        (Tariff.ofRatios model r c).check = .error (.notNonNegative "completion_ratio" x)) := by
  rcases exists_of_normalize h with
    ⟨rfl, hr, hc⟩ | ⟨input, output, hdollars, hin, hout, rfl, hcompletion⟩
  · exact .inl ⟨nofun, normalize_ratio hr hc, fun _ hmodel => Tariff.check_ofRatios hmodel hr hc⟩
  · have hr := isBadAmount_ratioOfUsd hin
    rcases completion_cases hin hout hcompletion with ⟨hlt, hc⟩ | ⟨price, x, rfl, hle, rfl, hinf⟩
    · refine .inl ⟨?_, normalize_ratio hr hc, fun _ hmodel => Tariff.check_ofRatios hmodel hr hc⟩
      rintro ⟨input', price, hprices, hle⟩
      cases hdollars.symm.trans hprices
      exact absurd (hlt price rfl) (not_lt.2 hle)
    · have hbad := isBadAmount_of_infinity hinf
      refine .inr ⟨⟨input, price, hdollars, hle⟩, x, rfl, ?_, normalize_ratio_of_bad hr hbad,
        fun _ hmodel => Tariff.check_ofRatios_of_bad hmodel hr hbad⟩
      change x.toModel.unpack.isInf = true
      rw [hinf]
      rfl

/-- The least price there is: half of it is zero, but the completion ratio is a float still. -/
theorem saved_of_least_price :
    let r := ratioOfUsd 5e-324
    let c : Float := 5e-16 / 5e-324
    (usd 5e-324 (some 5e-16)).normalize = .ok (r, some c) ∧
      (ratio r (some c)).normalize = .ok (r, some c) ∧
      isBlank "m" = false ∧ (Tariff.ofRatios "m" r (some c)).check = .ok () := by
  intro r c
  have hnormal : (usd 5e-324 (some 5e-16)).normalize = .ok (r, some c) :=
    normalize_usd (by decide +kernel) (by decide +kernel) (by decide +kernel)
  have hfinite : c.isInf = false := by decide +kernel
  have hmodel : isBlank "m" = false := by decide
  rcases saved_unless_too_steep hnormal with ⟨-, hagain, hcheck⟩ | ⟨-, x, hx, hinf, -⟩
  · exact ⟨hnormal, hagain, hmodel, hcheck "m" hmodel⟩
  · rw [Option.some.inj hx, hinf] at hfinite
    cases hfinite

/-- The quotient of two prices that are both finite is too large for a float. -/
theorem infinite_completion_ratio :
    let r := ratioOfUsd 1e-200
    let c : Float := 1e200 / 1e-200
    (usd 1e-200 (some 1e200)).normalize = .ok (r, some c) ∧ c.isInf = true ∧
      (ratio r (some c)).normalize =
        .error (.badArgument (.notNonNegative "completion_ratio" c)) ∧
      isBlank "m" = false ∧
      (Tariff.ofRatios "m" r (some c)).check = .error (.notNonNegative "completion_ratio" c) := by
  intro r c
  have hr : isBadAmount r = false := by decide +kernel
  have hc : isBadAmount c = true := by decide +kernel
  exact ⟨normalize_usd (by decide +kernel) (by decide +kernel) (by decide +kernel),
    by decide +kernel, normalize_ratio_of_bad hr hc, by decide,
    Tariff.check_ofRatios_of_bad (by decide) hr hc⟩

end Quote

end TokenTariff
