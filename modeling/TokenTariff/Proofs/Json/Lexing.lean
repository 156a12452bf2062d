import Mathlib
import TokenTariff.Json.Value

/-!
# Reading piece by piece

The machine that reads a JSON text is run over a piece of the text from any of its states, and
pieces are put together. Digits are collected in the mantissa or the exponent of a numeral.
-/

namespace TokenTariff.Json

namespace Lexer

/-- The tokens that a piece of text completes, and the machine after it. -/
def reads : Lexer → List Char → List Token × Lexer
  | l, [] => ([], l)
  | l, c :: cs =>
    let (tokens, l) := l.step c
    ((tokens ++ (reads l cs).1), (reads l cs).2)

@[simp] theorem reads_nil (l : Lexer) : l.reads [] = ([], l) := rfl

theorem reads_cons (l : Lexer) (c : Char) (cs : List Char) :
    l.reads (c :: cs) =
      ((l.step c).1 ++ ((l.step c).2.reads cs).1, ((l.step c).2.reads cs).2) := rfl

theorem reads_append (l : Lexer) (cs ds : List Char) :
    l.reads (cs ++ ds) =
      ((l.reads cs).1 ++ ((l.reads cs).2.reads ds).1, ((l.reads cs).2.reads ds).2) := by
  induction cs generalizing l with
  | nil =>
    rw [reads_nil]
    rfl
  | cons c cs ih => simp [reads_cons, ih]

theorem reads_append_of_silent {l l' : Lexer} {cs : List Char} (h : l.reads cs = ([], l'))
    (ds : List Char) : l.reads (cs ++ ds) = l'.reads ds := by
  rw [reads_append, h]
  rfl

theorem reads_cons_of_silent {l l' : Lexer} {c : Char} (h : l.step c = ([], l'))
    (cs : List Char) : l.reads (c :: cs) = l'.reads cs := by
  rw [reads_cons, h]
  rfl

theorem foldl_step (s : Scan) (cs : List Char) :
    cs.foldl Scan.step s =
      ⟨(s.lexer.reads cs).1.reverse ++ s.tokens, (s.lexer.reads cs).2⟩ := by
  induction cs generalizing s with
  | nil => rfl
  | cons c cs ih => simp [ih, Scan.step, reads_cons]

theorem run_eq (cs : List Char) :
    Scan.run cs = (between.reads cs).1 ++ (between.reads cs).2.finish := by
  simp [Scan.run, foldl_step]

/-! ### Digits -/

def opening (negative : Bool) : Lexer :=
  if negative then numeral .sign { negative } else between

theorem addDigit_eq (n : Numeral) (c : Char) :
    addDigit n c = { n with mantissa := Nat.ofDigitChars 10 [c] n.mantissa } := by
  simp [addDigit, Nat.ofDigitChars_cons, Nat.mul_comm]

theorem step_opening_zero (b : Bool) :
    (opening b).step '0' = ([], numeral .zero { negative := b }) := by
  cases b <;> rfl

theorem start_digit {c : Char} (hc : c.isDigit = true) (h0 : c ≠ '0') :
    start c = ([], numeral .whole { mantissa := c.toNat - '0'.toNat }) := by
  have hne : ∀ d : Char, d.isDigit = false → c ≠ d := by
    rintro d hd rfl
    exact absurd hc (by simp [hd])
  unfold start
  split <;> first
    | exact absurd rfl (hne _ rfl)
    | exact absurd rfl h0
    | simp [hc]

theorem step_opening_digit (b : Bool) {c : Char} (hc : c.isDigit = true) (h0 : c ≠ '0') :
    (opening b).step c =
      ([], numeral .whole { negative := b, mantissa := c.toNat - '0'.toNat }) := by
  cases b with
  | false => exact start_digit hc h0
  | true =>
    change numeralStep .sign { negative := true } c = _
    simp [numeralStep, h0, hc, addDigit]

theorem reads_whole (n : Numeral) {ds : List Char} (hd : ∀ c ∈ ds, c.isDigit = true) :
    (numeral .whole n).reads ds =
      ([], numeral .whole { n with mantissa := Nat.ofDigitChars 10 ds n.mantissa }) := by
  induction ds generalizing n with
  | nil => rfl
  | cons c ds ih =>
    have hc : (numeral .whole n).step c = ([], numeral .whole (addDigit n c)) := by
      simp [step, numeralStep, hd c List.mem_cons_self]
    rw [reads_cons_of_silent hc, ih _ fun d h => hd d (List.mem_cons_of_mem _ h), addDigit_eq]
    rfl

theorem reads_places (n : Numeral) {ds : List Char} (hd : ∀ c ∈ ds, c.isDigit = true) :
    (numeral .places n).reads ds =
      ([], numeral .places { n with
        mantissa := Nat.ofDigitChars 10 ds n.mantissa, places := n.places + ds.length }) := by
  induction ds generalizing n with
  | nil => rfl
  | cons c ds ih =>
    have hc : (numeral .places n).step c =
        ([], numeral .places { addDigit n c with places := n.places + 1 }) := by
      simp [step, numeralStep, hd c List.mem_cons_self]
    rw [reads_cons_of_silent hc, ih _ fun d h => hd d (List.mem_cons_of_mem _ h), addDigit_eq]
    simp only [Nat.ofDigitChars_cons, Nat.ofDigitChars_nil, List.length_cons]
    rw [Nat.add_assoc, Nat.add_comm 1]

/-- Digits behind the point; there is one at least. -/
theorem reads_point (n : Numeral) {ds : List Char} (hne : ds ≠ [])
    (hd : ∀ c ∈ ds, c.isDigit = true) :
    (numeral .point n).reads ds =
      ([], numeral .places { n with
        mantissa := Nat.ofDigitChars 10 ds n.mantissa, places := n.places + ds.length }) := by
  obtain ⟨c, cs, rfl⟩ := List.exists_cons_of_ne_nil hne
  rw [← reads_places n hd, reads_cons, reads_cons]
  simp [step, numeralStep, hd c List.mem_cons_self]

theorem reads_power (down : Bool) (n : Numeral) (k : Nat) {ds : List Char}
    (hn : n.exponent = if down then -(k : Int) else k) (hd : ∀ c ∈ ds, c.isDigit = true) :
    (numeral (.power down) n).reads ds =
      ([], numeral (.power down) { n with
        exponent := if down then -(Nat.ofDigitChars 10 ds k : Int)
          else Nat.ofDigitChars 10 ds k }) := by
  induction ds generalizing n k with
  | nil => simp [← hn]
  | cons c ds ih =>
    have hc : (numeral (.power down) n).step c =
        ([], numeral (.power down) (addPower down n c)) := by
      simp [step, numeralStep, hd c List.mem_cons_self]
    rw [reads_cons_of_silent hc,
      ih _ (10 * k + (c.toNat - '0'.toNat)) ?_ fun d h => hd d (List.mem_cons_of_mem _ h)]
    · rfl
    · cases down <;> simp only [addPower, hn] <;> simp <;> ring

/-- The exponent after its sign; there is one digit at least. -/
theorem reads_markSign (down : Bool) (n : Numeral) {ds : List Char} (hn : n.exponent = 0)
    (hne : ds ≠ []) (hd : ∀ c ∈ ds, c.isDigit = true) :
    (numeral (.markSign down) n).reads ds =
      ([], numeral (.power down) { n with
        exponent := if down then -(Nat.ofDigitChars 10 ds 0 : Int)
          else Nat.ofDigitChars 10 ds 0 }) := by
  obtain ⟨c, cs, rfl⟩ := List.exists_cons_of_ne_nil hne
  rw [← reads_power down n 0 (by simp [hn]) hd, reads_cons, reads_cons]
  simp [step, numeralStep, hd c List.mem_cons_self]

end Lexer

end TokenTariff.Json
