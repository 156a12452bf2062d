import Mathlib
import TokenTariff.Proofs.Catalog.Union

/-!
# Edits of a book

Three tables make up one map from models to rates. Entering a tariff and erasing a model are the two
edits: an edit sets the rate of one model or does nothing at all, whatever the tables held before.
So the last edit of a model decides its rate, and what the tables show can be told from the edits.
-/

namespace TokenTariff

namespace FlatBook

variable {b b' : FlatBook} {t : Tariff} {model : String}

/-- A book is determined by the rates of all models. -/
theorem ext_rate (h : ∀ model, b.rate model = b'.rate model) : b = b' := by
  refine ext_table fun i => Table.ext fun model => ?_
  rw [← field_rate, ← field_rate, h]

/-! ### Entering a tariff -/

/-- A tariff is entered just when it is flat and bills something. -/
theorem enter_ok_iff : b.enter t = .ok b' ↔
    ∃ r, t.plan = .flat r ∧ r.isSet = true ∧ b' = b.revise t.model r.plain := by
  constructor
  · intro h
    obtain ⟨m, e, r | ts⟩ := t
    · by_cases hr : r.isSet = true
      · rw [enter_eq b rfl hr] at h
        exact ⟨r, rfl, hr, (Except.ok.inj h).symm⟩
      · obtain ⟨_ | p, _ | x, c⟩ := r <;> first | exact absurd rfl hr | cases h
    · cases h
  · rintro ⟨r, ht, hr, rfl⟩
    exact enter_eq b ht hr

/-- Whether a tariff is entered, and why not, does not depend on the book. -/
theorem enter_error {e : Malformed} (h : b.enter t = .error e) (b' : FlatBook) :
    b'.enter t = .error e := by
  obtain ⟨m, enabled, ⟨_ | p, _ | x, c⟩ | ts⟩ := t <;> first | exact h | cases h

/-! ### Edits one after the other -/

inductive Edit where
  | enter (t : Tariff)
  | erase (model : String)

/-- The book after an edit. `enter` gives no book for a tariff that it refuses, so then it is this
definition that keeps the book; nothing could have been changed before the refusal. -/
def edit (b : FlatBook) : Edit → FlatBook
  | .enter t =>
    match b.enter t with
    | .ok b' => b'
    | .error _ => b
  | .erase model => b.erase model

def edits (b : FlatBook) (es : List Edit) : FlatBook := es.foldl edit b

def Edit.rate? (model : String) : Edit → Option FlatRate
  | .enter t =>
    match t.plan with
    | .flat r => if t.model = model ∧ r.isSet then some r.plain else none
    | .tiered _ => none
  | .erase m => if m = model then some {} else none

theorem edit_enter_of_ok (h : b.enter t = .ok b') : b.edit (.enter t) = b' := by
  simp only [edit, h]

theorem edit_enter_of_error {e : Malformed} (h : b.enter t = .error e) :
    b.edit (.enter t) = b := by
  simp only [edit, h]

/-- One edit: the rate of a model is what the edit sets, and if it sets none, what it was. -/
theorem rate_edit (b : FlatBook) (e : Edit) (model : String) :
    (b.edit e).rate model = (e.rate? model).getD (b.rate model) := by
  cases e with
  | erase m =>
    rw [edit, erase_eq_revise, rate_revise, Edit.rate?]
    split <;> rfl
  | enter t =>
    cases h : b.enter t with
    | ok b' =>
      obtain ⟨r, hplan, hset, rfl⟩ := enter_ok_iff.1 h
      rw [edit_enter_of_ok h, rate_revise]
      simp only [Edit.rate?, hplan, hset, and_true]
      split <;> rfl
    | error c =>
      rw [edit_enter_of_error h]
      obtain ⟨m, enabled, r | ts⟩ := t
      · have hunset : r.isSet = false := by
          by_contra hset
          rw [enter_eq b rfl (by simpa using hset)] at h
          cases h
        simp [Edit.rate?, hunset]
      · rfl

/-- Many edits: the last one that sets a rate for the model decides it. -/
theorem rate_edits (b : FlatBook) (es : List Edit) (model : String) :
    (b.edits es).rate model = ((es.filterMap (·.rate? model)).getLast?).getD (b.rate model) := by
  induction es using List.reverseRecOn with
  | nil => rfl
  | append_singleton es e ih =>
    rw [edits, List.foldl_append, List.foldl_cons, List.foldl_nil, rate_edit, ← edits, ih,
      List.filterMap_append]
    cases h : e.rate? model <;> simp [h]

/-- Edits of different models can change places. -/
theorem edit_comm (b : FlatBook) {e₁ e₂ : Edit}
    (h : ∀ model, e₁.rate? model = none ∨ e₂.rate? model = none) :
    (b.edit e₁).edit e₂ = (b.edit e₂).edit e₁ := by
  refine ext_rate fun model => ?_
  rw [rate_edit, rate_edit, rate_edit, rate_edit]
  rcases h model with h | h <;> rw [h] <;> rfl

def Edit.subject : Edit → String
  | .enter t => t.model
  | .erase model => model

theorem Edit.rate?_of_ne {e : Edit} (h : e.subject ≠ model) : e.rate? model = none := by
  cases e with
  | erase m => exact if_neg h
  | enter t =>
    have hne : t.model ≠ model := h
    rw [rate?]
    split <;> simp [hne]

theorem edit_comm_of_ne (b : FlatBook) {e₁ e₂ : Edit} (h : e₁.subject ≠ e₂.subject) :
    (b.edit e₁).edit e₂ = (b.edit e₂).edit e₁ := by
  refine b.edit_comm fun model => ?_
  by_cases h₁ : e₁.subject = model
  · exact .inr (Edit.rate?_of_ne (h₁ ▸ h.symm))
  · exact .inl (Edit.rate?_of_ne h₁)

/-- A tariff that is entered hides what the model was entered with before. -/
theorem enter_edit_of_eq (b : FlatBook) {t₁ t₂ : Tariff} (h : t₁.model = t₂.model) :
    (b.edit (.enter t₁)).enter t₂ = b.enter t₂ := by
  cases h₁ : b.enter t₁ with
  | error e => rw [edit_enter_of_error h₁]
  | ok b₁ =>
    rw [edit_enter_of_ok h₁]
    cases h₂ : b.enter t₂ with
    | error e => exact enter_error h₂ b₁
    | ok b₂ =>
      obtain ⟨r₁, -, -, rfl⟩ := enter_ok_iff.1 h₁
      obtain ⟨r₂, hplan, hset, rfl⟩ := enter_ok_iff.1 h₂
      rw [enter_eq _ hplan hset, h, revise_revise]

theorem erase_edit_enter (b : FlatBook) (t : Tariff) :
    (b.edit (.enter t)).erase t.model = b.erase t.model := by
  cases h : b.enter t with
  | error e => rw [edit_enter_of_error h]
  | ok b' =>
    obtain ⟨r, -, -, rfl⟩ := enter_ok_iff.1 h
    rw [edit_enter_of_ok h, erase_eq_revise, erase_eq_revise, revise_revise]

/-! ### What the tables show -/

theorem mem_tariffs_iff {skip : List String} :
    t ∈ b.tariffs skip ↔
      b.contains t.model = true ∧ t.model ∉ skip ∧ t = Tariff.flat t.model (b.rate t.model) := by
  rw [mem_tariffs_skip_iff, contains, Bool.or_eq_true]

/-- No model is listed twice. -/
theorem filter_model_eq {skip : List String} (h : t ∈ b.tariffs skip) :
    (b.tariffs skip).filter (·.model == t.model) = [t] := by
  refine eq_of_ascending ((pairwise_flatTariffs b skip).filter _) (List.pairwise_singleton _ t) ?_
  intro t'
  rw [List.mem_filter, List.mem_singleton, beq_iff_eq]
  constructor
  · rintro ⟨hmem, hmodel⟩
    rw [(mem_tariffs_iff.1 hmem).2.2, (mem_tariffs_iff.1 h).2.2, hmodel]
  · rintro rfl
    exact ⟨h, rfl⟩

/-- Two books list the same for all models but one if their rates are the same there. -/
theorem filter_tariffs_congr (skip : List String) (h : ∀ m, m ≠ model → b.rate m = b'.rate m) :
    (b.tariffs skip).filter (·.model != model) = (b'.tariffs skip).filter (·.model != model) := by
  refine eq_of_ascending ((pairwise_flatTariffs b skip).filter _)
    ((pairwise_flatTariffs b' skip).filter _) fun t => ?_
  rw [List.mem_filter, List.mem_filter, bne_iff_ne]
  refine and_congr_left fun hne => ?_
  rw [mem_tariffs_iff, mem_tariffs_iff, contains_eq_isSet, contains_eq_isSet, h _ hne]

theorem contains_iff_listed (b : FlatBook) (model : String) :
    b.contains model = true ↔ ∃ t ∈ b.tariffs [], t.model = model := by
  constructor
  · intro h
    exact ⟨Tariff.flat model (b.rate model),
      mem_tariffs_iff.2 ⟨h, List.not_mem_nil, rfl⟩, rfl⟩
  · rintro ⟨t, ht, rfl⟩
    exact (mem_tariffs_iff.1 ht).1

/-- A tariff that was entered is listed in its plain form, and nothing else of its model is. -/
theorem filter_tariffs_of_enter {r : FlatRate} (h : b.enter t = .ok b') (ht : t.plan = .flat r)
    {skip : List String} (hskip : t.model ∉ skip) :
    (b'.tariffs skip).filter (·.model == t.model) = [Tariff.flat t.model r.plain] := by
  obtain ⟨r', hplan, hset, rfl⟩ := enter_ok_iff.1 h
  obtain rfl : r = r' := by
    rw [ht] at hplan
    exact Plan.flat.inj hplan
  have hrate : (b.revise t.model r.plain).rate t.model = r.plain := by
    rw [rate_revise, if_pos rfl]
  have hmem : Tariff.flat t.model r.plain ∈ (b.revise t.model r.plain).tariffs skip := by
    refine mem_tariffs_iff.2 ⟨?_, hskip, ?_⟩
    · change (b.revise t.model r.plain).contains t.model = true
      rw [contains_eq_isSet, hrate, FlatRate.isSet_plain, hset]
    · change _ = Tariff.flat t.model ((b.revise t.model r.plain).rate t.model)
      rw [hrate]
  exact filter_model_eq hmem

/-- The tables of a book are one map from models to rates. A tariff is entered just when it is flat
and has a price or a model ratio; then the book lists it once, a price without the ratios, and
everything else as before. It hides what was entered for its model before, and what is entered for
another model goes in at either side of it. The last edit of a model decides its rate, and at any
time the models contained are those listed. -/
theorem edits_of_map (b : FlatBook) :
    (∀ t, (∃ b', b.enter t = .ok b') ↔
      ∃ r, t.plan = .flat r ∧ (r.price.isSome ∨ r.modelRatio.isSome)) ∧
    (∀ t e, b.enter t = .error e → b.edit (.enter t) = b) ∧
    (∀ t b', b.enter t = .ok b' → b.edit (.enter t) = b' ∧ ∀ skip : List String,
      (t.model ∉ skip → ∀ r, t.plan = .flat r →
        (b'.tariffs skip).filter (·.model == t.model) =
          [Tariff.flat t.model (match r.price with
            | some p => ⟨some p, none, none⟩
            | none => ⟨none, r.modelRatio, r.completionRatio⟩)]) ∧
      (b'.tariffs skip).filter (·.model != t.model) =
        (b.tariffs skip).filter (·.model != t.model)) ∧
    (∀ t₁ t₂ : Tariff, t₁.model = t₂.model →
      (b.edit (.enter t₁)).enter t₂ = b.enter t₂) ∧
    (∀ t₁ t₂ : Tariff, t₁.model ≠ t₂.model →
      (b.edit (.enter t₁)).edit (.enter t₂) = (b.edit (.enter t₂)).edit (.enter t₁)) ∧
    (∀ t : Tariff, (b.edit (.enter t)).erase t.model = b.erase t.model) ∧
    ∀ (es : List Edit) (model : String),
      (b.edits es).rate model = ((es.filterMap (·.rate? model)).getLast?).getD (b.rate model) ∧
      ((b.edits es).contains model = true ↔ ∃ t ∈ (b.edits es).tariffs [], t.model = model) := by
  refine ⟨fun t => ?_, fun t e h => edit_enter_of_error h, fun t b' h => ?_,
    fun t₁ t₂ h => b.enter_edit_of_eq h, fun t₁ t₂ h => b.edit_comm_of_ne h,
    fun t => b.erase_edit_enter t, fun es model => ⟨b.rate_edits es model, ?_⟩⟩
  · constructor
    · rintro ⟨b', h⟩
      obtain ⟨r, hplan, hset, -⟩ := enter_ok_iff.1 h
      exact ⟨r, hplan, by simpa [FlatRate.isSet] using hset⟩
    · rintro ⟨r, hplan, hset⟩
      exact ⟨_, enter_eq b hplan (by simpa [FlatRate.isSet] using hset)⟩
  · refine ⟨edit_enter_of_ok h, fun skip => ⟨fun hskip r ht => ?_, ?_⟩⟩
    · rw [filter_tariffs_of_enter h ht hskip]
      obtain ⟨_ | p, m, c⟩ := r <;> rfl
    · obtain ⟨r, -, -, rfl⟩ := enter_ok_iff.1 h
      refine filter_tariffs_congr skip fun m hm => ?_
      rw [rate_revise, if_neg (Ne.symm hm)]
  · exact contains_iff_listed _ model

end FlatBook

end TokenTariff
