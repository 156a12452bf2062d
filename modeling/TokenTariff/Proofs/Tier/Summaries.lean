import Mathlib
import TokenTariff.Proofs.Tier.BetweenBounds
import TokenTariff.Text.Pieces
import TokenTariff.Tier.Summary

/-!
# What a summary says

A summary has a text for each span. The text of a range can be read in one way only: as any count,
as those above a bound, as those up to one, or as those between two. It does not say whether a bound
is open, so it is wrong about some bounds: a count on a lower bound that is not open is left out,
and one on an upper bound that is open is let in. About all other counts it is right.
-/

namespace TokenTariff

/-- How the text of a range is read: as the counts in `p`. -/
inductive RangeMeans : String → (ℕ → Prop) → Prop
  | unbounded : RangeMeans "unbounded" fun _ => True
  | atMost (b : ℕ) : RangeMeans s!"≤ {b}" fun n => n ≤ b
  | above (a : ℕ) : RangeMeans s!"> {a}" fun n => a < n
  | between (a b : ℕ) : RangeMeans s!"{a} < x ≤ {b}" fun n => a < n ∧ n ≤ b

/-- How a summary is read: its text for the input as the counts in `p`, that for the output as those
in `q`. -/
inductive SummaryMeans : String → (ℕ → Prop) → (ℕ → Prop) → Prop
  | intro {input output : String} {p q : ℕ → Prop} (rest : String) :
    RangeMeans input p → RangeMeans output q →
      SummaryMeans s!"input: {input} | output: {output} | {rest}" p q

/-! ### Texts are read in one way -/

theorem notMem_toDigits {c : Char} (hc : c.isDigit = false) (n : ℕ) : c ∉ Nat.toDigits 10 n := by
  intro h
  have hdigit := Nat.isDigit_of_mem_toDigits (by decide) le_rfl h
  rw [hc] at hdigit
  cases hdigit

namespace RangeMeans

variable {text : String} {p q : ℕ → Prop} {n : ℕ}

theorem toList_atMost (b : ℕ) : s!"≤ {b}".toList = '≤' :: ' ' :: Nat.toDigits 10 b := by
  change ("≤ " ++ b.repr).toList = _
  rw [String.toList_append, Nat.toList_repr]
  rfl

theorem toList_above (a : ℕ) : s!"> {a}".toList = '>' :: ' ' :: Nat.toDigits 10 a := by
  change ("> " ++ a.repr).toList = _
  rw [String.toList_append, Nat.toList_repr]
  rfl

theorem toList_between (a b : ℕ) :
    s!"{a} < x ≤ {b}".toList =
      Nat.toDigits 10 a ++ ' ' :: '<' :: ' ' :: 'x' :: ' ' :: '≤' :: ' ' :: Nat.toDigits 10 b := by
  change (a.repr ++ " < x ≤ " ++ b.repr).toList = _
  rw [String.toList_append, String.toList_append, Nat.toList_repr, Nat.toList_repr,
    List.append_assoc]
  rfl

/-- The counts that a range speaks of, from its words. -/
def InWords (n : ℕ) : List (List Char) → Prop
  | [['≤'], b] => n ≤ Nat.ofDigitChars 10 b 0
  | [['>'], a] => Nat.ofDigitChars 10 a 0 < n
  | [a, _, _, _, b] => Nat.ofDigitChars 10 a 0 < n ∧ n ≤ Nat.ofDigitChars 10 b 0
  | _ => True

theorem iff_inWords (h : RangeMeans text p) : p n ↔ InWords n (splitAll ' ' text.toList) := by
  have hblank := notMem_toDigits (c := ' ') rfl
  cases h with
  | unbounded => exact Iff.rfl
  | atMost b =>
    have hwords : splitAll ' ' s!"≤ {b}".toList = [['≤'], Nat.toDigits 10 b] := by
      rw [toList_atMost]
      simp [splitAll, splitAll_of_notMem (hblank b)]
    rw [hwords, InWords, Nat.ofDigitChars_ten_toDigits]
  | above a =>
    have hwords : splitAll ' ' s!"> {a}".toList = [['>'], Nat.toDigits 10 a] := by
      rw [toList_above]
      simp [splitAll, splitAll_of_notMem (hblank a)]
    rw [hwords, InWords, Nat.ofDigitChars_ten_toDigits]
  | between a b =>
    have hwords : splitAll ' ' s!"{a} < x ≤ {b}".toList =
        [Nat.toDigits 10 a, ['<'], ['x'], ['≤'], Nat.toDigits 10 b] := by
      rw [toList_between, splitAll_append_cons (hblank a)]
      simp [splitAll, splitAll_of_notMem (hblank b)]
    rw [hwords, InWords, Nat.ofDigitChars_ten_toDigits, Nat.ofDigitChars_ten_toDigits]

theorem unique (h : RangeMeans text p) (h' : RangeMeans text q) : p = q :=
  funext fun _ => propext (h.iff_inWords.trans h'.iff_inWords.symm)

theorem bar_notMem (h : RangeMeans text p) : '|' ∉ text.toList := by
  have hbar := notMem_toDigits (c := '|') rfl
  cases h with
  | unbounded => decide
  | atMost b =>
    rw [toList_atMost]
    simp [hbar b]
  | above a =>
    rw [toList_above]
    simp [hbar a]
  | between a b =>
    rw [toList_between]
    simp [hbar a, hbar b]

end RangeMeans

namespace SummaryMeans

variable {text input output : String} {p q p' q' : ℕ → Prop}

theorem toList_summary (input output rest : String) :
    s!"input: {input} | output: {output} | {rest}".toList =
      "input: ".toList ++ (input.toList ++ [' ']) ++ '|' ::
        (" output: ".toList ++ (output.toList ++ [' ']) ++ '|' :: ' ' :: rest.toList) := by
  change ("input: " ++ input ++ " | output: " ++ output ++ " | " ++ rest).toList = _
  simp

/-- The texts of the ranges stand between the bars. -/
theorem splitAll_summary (hinput : '|' ∉ input.toList) (houtput : '|' ∉ output.toList)
    (rest : String) :
    ∃ pieces, splitAll '|' s!"input: {input} | output: {output} | {rest}".toList =
      ("input: ".toList ++ (input.toList ++ [' '])) ::
        (" output: ".toList ++ (output.toList ++ [' '])) :: pieces := by
  have hbar {label text : String} (hlabel : '|' ∉ label.toList) (htext : '|' ∉ text.toList) :
      '|' ∉ label.toList ++ (text.toList ++ [' ']) := by simp [hlabel, htext]
  rw [toList_summary, splitAll_append_cons (hbar (by decide) hinput),
    splitAll_append_cons (hbar (by decide) houtput)]
  exact ⟨_, rfl⟩

theorem unique (h : SummaryMeans text p q) (h' : SummaryMeans text p' q') : p = p' ∧ q = q' := by
  generalize htext : text = text' at h'
  obtain ⟨rest, hinput, houtput⟩ := h
  obtain ⟨rest', hinput', houtput'⟩ := h'
  obtain ⟨pieces, hpieces⟩ := splitAll_summary hinput.bar_notMem houtput.bar_notMem rest
  obtain ⟨pieces', hpieces'⟩ := splitAll_summary hinput'.bar_notMem houtput'.bar_notMem rest'
  rw [htext, hpieces'] at hpieces
  obtain ⟨hin, hout, -⟩ := by simpa using hpieces
  exact ⟨hinput.unique (String.toList_injective hin ▸ hinput'),
    houtput.unique (String.toList_injective hout ▸ houtput')⟩

end SummaryMeans

/-! ### What is shown of a span -/

theorem countText_of_lt {b : UInt64} (h : b < 1000) : countText b = s!"{b.toNat}" :=
  if_neg (UInt64.not_le.2 h)

namespace Span

variable {s : Span} {n : ℕ}

def Shown (s : Span) (n : ℕ) : Prop :=
  (∀ b, s.lower = some b → b.toNat < n) ∧ ∀ b, s.upper = some b → n ≤ b.toNat

def OnClosedLower (s : Span) (n : ℕ) : Prop :=
  s.openBelow = false ∧ ∃ b, s.lower = some b ∧ b.toNat = n

def OnOpenUpper (s : Span) (n : ℕ) : Prop :=
  s.openAbove = true ∧ ∃ b, s.upper = some b ∧ b.toNat = n

theorem rangeMeans_text (h : ∀ b ∈ s.bounds, b < 1000) : RangeMeans s.text s.Shown := by
  have hlower {b : UInt64} (hb : s.lower = some b) : countText b = s!"{b.toNat}" :=
    countText_of_lt (h b (mem_bounds.2 (.inl hb)))
  have hupper {b : UInt64} (hb : s.upper = some b) : countText b = s!"{b.toNat}" :=
    countText_of_lt (h b (mem_bounds.2 (.inr hb)))
  obtain ⟨_ | a, _ | b, openBelow, openAbove⟩ := s
  · have hshown : Shown ⟨none, none, openBelow, openAbove⟩ = fun _ => True := by
      funext n
      simp [Shown]
    rw [hshown]
    exact .unbounded
  · have hshown : Shown ⟨none, some b, openBelow, openAbove⟩ = fun n => n ≤ b.toNat := by
      funext n
      simp [Shown]
    rw [hshown, text, rangeText, hupper rfl]
    exact .atMost b.toNat
  · have hshown : Shown ⟨some a, none, openBelow, openAbove⟩ = fun n => a.toNat < n := by
      funext n
      simp [Shown]
    rw [hshown, text, rangeText, hlower rfl]
    exact .above a.toNat
  · have hshown : Shown ⟨some a, some b, openBelow, openAbove⟩ =
        fun n => a.toNat < n ∧ n ≤ b.toNat := by
      funext n
      simp [Shown]
    rw [hshown, text, rangeText, hlower rfl, hupper rfl]
    exact .between a.toNat b.toNat

/-- What the flags make of the counts that a text means: a lower bound that is not open comes in,
if the upper one lets it, and an upper bound that is open drops out. -/
def WithFlags (s : Span) (p : ℕ → Prop) (n : ℕ) : Prop :=
  (p n ∨ s.OnClosedLower n ∧ ∀ b, s.upper = some b → n ≤ b.toNat) ∧ ¬ s.OnOpenUpper n

/-- The flags are those that texts of ranges go by: a lower bound is open, an upper one is not. -/
structure Plain (s : Span) : Prop where
  lower (b : UInt64) (hb : s.lower = some b) : s.openBelow = true
  upper (b : UInt64) (hb : s.upper = some b) : s.openAbove = false

theorem Holds.lower_le (h : s.Holds n) {b : UInt64} (hb : s.lower = some b) : b.toNat ≤ n :=
  (h.lower b hb).elim le_of_lt fun heq => heq.2.le

theorem Holds.le_upper (h : s.Holds n) {b : UInt64} (hb : s.upper = some b) : n ≤ b.toNat :=
  (h.upper b hb).elim le_of_lt fun heq => heq.2.le

theorem holds_iff_withFlags : s.Holds n ↔ s.WithFlags s.Shown n := by
  constructor
  · intro h
    constructor
    · by_cases hon : s.OnClosedLower n
      · exact .inr ⟨hon, fun b hb => h.le_upper hb⟩
      · have habove : ∀ b, s.lower = some b → b.toNat < n := fun b hb =>
          (h.lower b hb).resolve_right fun heq => hon ⟨heq.1, b, hb, heq.2⟩
        exact .inl ⟨habove, fun b hb => h.le_upper hb⟩
    · rintro ⟨hopen, b, hb, rfl⟩
      rcases h.upper b hb with hlt | ⟨hclosed, -⟩
      · exact lt_irrefl _ hlt
      · exact Bool.noConfusion (hopen.symm.trans hclosed)
  · rintro ⟨hshown, hnot⟩
    constructor
    · intro b hb
      rcases hshown with ⟨habove, -⟩ | ⟨⟨hclosed, b', hb', heq⟩, -⟩
      · exact .inl (habove b hb)
      · exact .inr ⟨hclosed, Option.some.inj (hb'.symm.trans hb) ▸ heq⟩
    · intro b hb
      have hle : n ≤ b.toNat := hshown.elim (fun h => h.2 b hb) (fun h => h.2 b hb)
      rcases hle.lt_or_eq with hlt | heq
      · exact .inl hlt
      · exact .inr ⟨Bool.eq_false_iff.2 fun hopen => hnot ⟨hopen, b, hb, heq.symm⟩, heq⟩

theorem Plain.holds_iff (h : s.Plain) : s.Holds n ↔ s.Shown n := by
  have hlower : ¬ s.OnClosedLower n := fun ⟨hclosed, b, hb, _⟩ =>
    Bool.noConfusion (hclosed.symm.trans (h.lower b hb))
  have hupper : ¬ s.OnOpenUpper n := fun ⟨hopen, b, hb, _⟩ =>
    Bool.noConfusion (hopen.symm.trans (h.upper b hb))
  rw [holds_iff_withFlags, WithFlags, and_iff_left hupper, or_iff_left fun hon => hlower hon.1]

/-- A span that holds any count holds a lower bound that is not open. -/
theorem Holds.closed_lower {b : UInt64} (h : s.Holds n) (hb : s.lower = some b)
    (hclosed : s.openBelow = false) : s.Holds b.toNat where
  lower b' hb' := .inr ⟨hclosed, by rw [Option.some.inj (hb'.symm.trans hb)]⟩
  upper b' hb' := by
    rcases h.upper b' hb' with hlt | ⟨hclosed', rfl⟩
    · exact .inl ((h.lower_le hb).trans_lt hlt)
    · exact (h.lower_le hb).lt_or_eq.imp_right fun heq => ⟨hclosed', heq⟩

/-- Of a span that holds any count, an upper bound that is open is shown. -/
theorem Holds.shown_upper {b : UInt64} (h : s.Holds n) (hb : s.upper = some b)
    (hopen : s.openAbove = true) : s.Shown b.toNat := by
  have hlt : n < b.toNat := (h.upper b hb).resolve_right fun heq =>
    Bool.noConfusion (hopen.symm.trans heq.1)
  refine ⟨fun b' hb' => (h.lower_le hb').trans_lt hlt, fun b' hb' => ?_⟩
  rw [Option.some.inj (hb'.symm.trans hb)]

/-- A span that holds any count, and all those that are shown of it and no others, is plain. -/
theorem Holds.plain (hn : s.Holds n) (h : ∀ m : UInt64, s.Holds m.toNat ↔ s.Shown m.toNat) :
    s.Plain where
  lower b hb := by
    by_contra hclosed
    have hholds := hn.closed_lower hb (Bool.eq_false_iff.2 hclosed)
    exact lt_irrefl _ (((h b).1 hholds).1 b hb)
  upper b hb := by
    rw [Bool.eq_false_iff]
    intro hopen
    have hholds := (h b).2 (hn.shown_upper hb hopen)
    exact (holds_iff_withFlags.1 hholds).2 ⟨hopen, b, hb, rfl⟩

end Span

namespace Tier

variable {t : Tier}

def ratiosText (t : Tier) : String :=
  s!"model_ratio: {plainText t.modelRatio} | completion_ratio: {plainText t.completionRatio}"

theorem summary_eq (t : Tier) :
    t.summary = s!"input: {t.input.text} | output: {t.output.text} | {t.ratiosText}" := rfl

theorem summaryMeans_iff {p q : ℕ → Prop} (hin : ∀ b ∈ t.input.bounds, b < 1000)
    (hout : ∀ b ∈ t.output.bounds, b < 1000) :
    SummaryMeans t.summary p q ↔ p = t.input.Shown ∧ q = t.output.Shown := by
  have hshown : SummaryMeans t.summary t.input.Shown t.output.Shown := by
    rw [summary_eq]
    exact .intro t.ratiosText (Span.rangeMeans_text hin) (Span.rangeMeans_text hout)
  constructor
  · exact fun h => h.unique hshown
  · rintro ⟨rfl, rfl⟩
    exact hshown

/-- Let all bounds be small enough to be written out. Then the summary can be read in one way, and
the tier covers the calls that it speaks of, but for the bounds whose flags it does not show. If all
flags are plain these are just the calls that it speaks of; if they are not, and the tier covers any
call, they are not. -/
theorem covers_as_summarized (hin : ∀ b ∈ t.input.bounds, b < 1000)
    (hout : ∀ b ∈ t.output.bounds, b < 1000) :
    (∃ p q, SummaryMeans t.summary p q) ∧
    ∀ p q, SummaryMeans t.summary p q →
      (∀ input output, t.covers input output = true ↔
        t.input.WithFlags p input.toNat ∧ t.output.WithFlags q output.toNat) ∧
      (t.input.Plain ∧ t.output.Plain →
        ∀ input output, t.covers input output = true ↔ p input.toNat ∧ q output.toNat) ∧
      ((∃ input output, t.covers input output = true) →
        (∀ input output, t.covers input output = true ↔ p input.toNat ∧ q output.toNat) →
        t.input.Plain ∧ t.output.Plain) := by
  refine ⟨⟨_, _, (summaryMeans_iff hin hout).2 ⟨rfl, rfl⟩⟩, fun p q hmeans => ?_⟩
  obtain ⟨rfl, rfl⟩ := (summaryMeans_iff hin hout).1 hmeans
  refine ⟨fun input output => ?_, fun ⟨hpin, hpout⟩ input output => ?_, ?_⟩
  · rw [covers_iff, Covers, Span.holds_iff_withFlags, Span.holds_iff_withFlags]
  · rw [covers_iff, Covers, hpin.holds_iff, hpout.holds_iff]
  · rintro ⟨i, o, hcovers⟩ h
    obtain ⟨hi, ho⟩ := covers_iff.1 hcovers
    obtain ⟨hi', ho'⟩ := (h i o).1 hcovers
    -- With one count kept, the counts of the other side are told apart by the calls.
    constructor
    · refine hi.plain fun n => ?_
      have hn := h n o
      rwa [covers_iff, Covers, and_iff_left ho, and_iff_left ho'] at hn
    · refine ho.plain fun n => ?_
      have hn := h i n
      rwa [covers_iff, Covers, and_iff_right hi, and_iff_right hi'] at hn

/-- From 5 to below 9. The text leaves out the first of these bounds and lets in the other. -/
theorem covers_between_odd_bounds :
    let t : Tier := ⟨⟨some 5, some 9, false, true⟩, { upper := some 50 }, 1, 2, 0⟩
    (∀ b ∈ t.input.bounds, b < 1000) ∧ (∀ b ∈ t.output.bounds, b < 1000) ∧
      SummaryMeans t.summary (fun n => 5 < n ∧ n ≤ 9) (fun n => n ≤ 50) ∧
      t.covers 5 50 = true ∧ t.covers 9 50 = false := by
  intro t
  have hin : ∀ b ∈ t.input.bounds, b < 1000 := by simp [t, Span.bounds]
  have hout : ∀ b ∈ t.output.bounds, b < 1000 := by simp [t, Span.bounds]
  have hmeans : SummaryMeans t.summary (fun n => 5 < n ∧ n ≤ 9) (fun n => n ≤ 50) := by
    rw [summary_eq]
    exact .intro t.ratiosText (.between 5 9) (.atMost 50)
  obtain ⟨hcovers, -, -⟩ := (covers_as_summarized hin hout).2 _ _ hmeans
  refine ⟨hin, hout, hmeans, (hcovers 5 50).2 ?_, Bool.eq_false_iff.2 fun h => ?_⟩
  · simp [t, Span.WithFlags, Span.OnClosedLower, Span.OnOpenUpper]
  · exact ((hcovers 9 50).1 h).1.2 ⟨rfl, 9, rfl, rfl⟩

/-- A lower bound that belongs to its span is written as one that does not. -/
theorem covers_unsaid_bound :
    let t : Tier := ⟨{ lower := some 5, openBelow := false }, {}, 1, 2, 0⟩
    (∀ b ∈ t.input.bounds, b < 1000) ∧ (∀ b ∈ t.output.bounds, b < 1000) ∧
      SummaryMeans t.summary (fun n => 5 < n) (fun _ => True) ∧
      ¬(t.covers 5 0 = true ↔ 5 < (5 : UInt64).toNat ∧ True) := by
  intro t
  refine ⟨by simp [t, Span.bounds], by simp [t, Span.bounds], ?_, by decide⟩
  rw [summary_eq]
  exact .intro t.ratiosText (.above 5) .unbounded

end Tier

end TokenTariff
