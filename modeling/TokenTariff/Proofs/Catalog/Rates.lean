import Mathlib
import TokenTariff.Proofs.Catalog.Settings
import TokenTariff.Proofs.Tariff.Wire
import TokenTariff.Tariff.Check

/-!
# Rates in a book

Entering a flat tariff and erasing a model are both revisions: they set what the three tables say
about one model and leave every other model alone. A price that is entered displaces the ratios, so
the rate that is entered is the plain form of the one that was asked for. Tables that are written
and read again have the same entries, each with the number that its text is read as.
-/

namespace TokenTariff

namespace FlatRate

open FlatBook

def field (r : FlatRate) : Part → Option Float
  | .price => r.price
  | .ratio => r.modelRatio
  | .completion => r.completionRatio

theorem field_reread (r : FlatRate) (i : Part) :
    r.reread.field i = (r.field i).map Json.reread := by
  cases i <;> rfl

/-- A rate without what its price makes idle. -/
def plain (r : FlatRate) : FlatRate :=
  match r.price with
  | some p => ⟨some p, none, none⟩
  | none => r

theorem ext_field {r r' : FlatRate} (h : ∀ i, r.field i = r'.field i) : r = r' := by
  obtain ⟨p, m, c⟩ := r
  obtain ⟨p', m', c'⟩ := r'
  obtain rfl : p = p' := h .price
  obtain rfl : m = m' := h .ratio
  obtain rfl : c = c' := h .completion
  rfl

def isSet (r : FlatRate) : Bool := r.price.isSome || r.modelRatio.isSome

theorem isSet_plain (r : FlatRate) : r.plain.isSet = r.isSet := by
  obtain ⟨_ | p, m, c⟩ := r <;> rfl

theorem plain_reread (r : FlatRate) : r.plain.reread = r.reread.plain := by
  obtain ⟨_ | p, m, c⟩ := r <;> rfl

theorem isSet_reread (r : FlatRate) : r.reread.isSet = r.isSet := by
  obtain ⟨_ | p, _ | m, c⟩ := r <;> rfl

def ReadsBack (r : FlatRate) : Prop := ∀ i x, r.field i = some x → Json.ReadsBack x

theorem readsBack_iff {r : FlatRate} : r.ReadsBack ↔ (∀ x ∈ r.price, Json.ReadsBack x) ∧
    (∀ x ∈ r.modelRatio, Json.ReadsBack x) ∧ ∀ x ∈ r.completionRatio, Json.ReadsBack x := by
  refine ⟨fun h => ⟨h .price, h .ratio, h .completion⟩, fun ⟨hp, hr, hc⟩ i => ?_⟩
  cases i with
  | price => exact hp
  | ratio => exact hr
  | completion => exact hc

instance (r : FlatRate) : Decidable r.ReadsBack := decidable_of_iff _ readsBack_iff.symm

theorem readsBack_empty : ReadsBack {} := fun i x hx => by cases i <;> cases hx

theorem ReadsBack.field {r : FlatRate} (h : r.ReadsBack) (i : Part) :
    (r.field i).map Json.reread = r.field i := by
  cases hx : r.field i with
  | none => rfl
  | some x => exact congrArg some (h i x hx).reread_eq

theorem ReadsBack.reread_eq {r : FlatRate} (h : r.ReadsBack) : r.reread = r :=
  ext_field fun i => (r.field_reread i).trans (h.field i)

def Finite (r : FlatRate) : Prop := ∀ i x, r.field i = some x → x.isFinite = true

theorem Finite.plain {r : FlatRate} (h : r.Finite) : r.plain.Finite := by
  obtain ⟨_ | p, m, c⟩ := r
  · exact h
  · intro i x hx
    cases i with
    | price => exact h .price x hx
    | ratio => cases hx
    | completion => cases hx

theorem badField?_eq_none_iff {r : FlatRate} :
    r.badField? = none ↔ ∀ i x, r.field i = some x → isBadAmount x = false := by
  obtain ⟨p, m, c⟩ := r
  rw [badField?, List.findSome?_eq_none_iff]
  simp only [fields, List.forall_mem_cons, Option.map_eq_none_iff, Option.filter_eq_none_iff]
  constructor
  · rintro ⟨hp, hm, hc, -⟩ i x hx
    cases i with
    | price => exact Bool.eq_false_iff.2 (hp x hx)
    | ratio => exact Bool.eq_false_iff.2 (hm x hx)
    | completion => exact Bool.eq_false_iff.2 (hc x hx)
  · intro h
    exact ⟨fun x hx => Bool.eq_false_iff.1 (h .price x hx),
      fun x hx => Bool.eq_false_iff.1 (h .ratio x hx),
      fun x hx => Bool.eq_false_iff.1 (h .completion x hx), List.forall_mem_nil _⟩

/-- A rate may be saved just when it bills something and all its fields are amounts. -/
theorem check_eq_ok_iff {r : FlatRate} :
    r.check = .ok () ↔ r.isSet = true ∧ ∀ i x, r.field i = some x → isBadAmount x = false := by
  have hset : (r.price.isNone && r.modelRatio.isNone) = !r.isSet := by
    obtain ⟨_ | p, _ | m, c⟩ := r <;> rfl
  rw [check, hset, ← badField?_eq_none_iff]
  cases r.isSet <;> cases r.badField? <;> simp

theorem isSet_of_check {r : FlatRate} (h : r.check = .ok ()) : r.isSet = true :=
  (check_eq_ok_iff.1 h).1

theorem finite_of_check {r : FlatRate} (h : r.check = .ok ()) : r.Finite := by
  intro i x hx
  have hx' := (check_eq_ok_iff.1 h).2 i x hx
  rw [isBadAmount, Bool.or_eq_false_iff, Bool.not_eq_false'] at hx'
  exact hx'.1

end FlatRate

namespace FlatBook

variable {b b' b'' : FlatBook}

/-- The book in which the tables say this about a model. -/
def revise (b : FlatBook) (model : String) (r : FlatRate) : FlatBook :=
  ⟨b.prices.put model r.price, b.ratios.put model r.modelRatio,
    b.completions.put model r.completionRatio⟩

theorem table_revise (b : FlatBook) (model : String) (r : FlatRate) (i : Part) :
    (b.revise model r).table i = (b.table i).put model (r.field i) := by
  cases i <;> rfl

theorem field_rate (b : FlatBook) (model : String) (i : Part) :
    (b.rate model).field i = (b.table i).get? model := by
  cases i <;> rfl

theorem rate_reread (b : FlatBook) (model : String) :
    b.reread.rate model = (b.rate model).reread := by
  apply FlatRate.ext_field
  intro i
  rw [field_rate, table_reread, Table.get?_map, FlatRate.field_reread, field_rate]

theorem erase_eq_revise (b : FlatBook) (model : String) : b.erase model = b.revise model {} := rfl

theorem rate_revise (b : FlatBook) (model model' : String) (r : FlatRate) :
    (b.revise model r).rate model' = if model = model' then r else b.rate model' := by
  apply FlatRate.ext_field
  intro i
  rw [field_rate, table_revise, Table.get?_put]
  split
  · rfl
  · rw [field_rate]

theorem revise_revise (b : FlatBook) (model : String) (r r' : FlatRate) :
    (b.revise model r).revise model r' = b.revise model r' := by
  apply ext_table
  intro i
  rw [table_revise, table_revise, table_revise, Table.put_put]

theorem contains_eq_isSet (b : FlatBook) (model : String) :
    b.contains model = (b.rate model).isSet := rfl

theorem contains_reread (b : FlatBook) (model : String) :
    b.reread.contains model = b.contains model := by
  rw [contains_eq_isSet, contains_eq_isSet, rate_reread, FlatRate.isSet_reread]

theorem ReadsBack.rate (h : b.ReadsBack) (model : String) : (b.rate model).ReadsBack := by
  intro i x hx
  rw [field_rate] at hx
  exact h i (model, x) ((Table.mem_entries _ _ _).2 hx)

theorem ReadsBack.revise (h : b.ReadsBack) {r : FlatRate} (hr : r.ReadsBack) (model : String) :
    (b.revise model r).ReadsBack := by
  intro i e he
  rw [table_revise] at he
  rcases Table.mem_put_entries he with hi | he
  · exact hr i _ hi
  · exact h i e he

theorem Finite.revise (h : b.Finite) {r : FlatRate} (hr : r.Finite) (model : String) :
    (b.revise model r).Finite := by
  intro i e he
  rw [table_revise] at he
  rcases Table.mem_put_entries he with hi | he
  · exact hr i _ hi
  · exact h i e he

theorem Finite.erase (h : b.Finite) (model : String) : (b.erase model).Finite :=
  h.revise (r := {}) (fun i x hx => by cases i <;> cases hx) model

theorem erase_of_not_mentions {model : String} (h : b.mentions model = false) :
    b.erase model = b := by
  simp only [mentions, contains, Bool.or_eq_false_iff] at h
  obtain ⟨⟨hp, hr⟩, hc⟩ := h
  rw [erase, Table.erase_of_not_contains hp, Table.erase_of_not_contains hr,
    Table.erase_of_not_contains hc]

/-- A flat tariff that bills something is entered in its plain form. -/
theorem enter_eq (b : FlatBook) {t : Tariff} {r : FlatRate} (ht : t.plan = .flat r)
    (hr : r.isSet = true) : b.enter t = .ok (b.revise t.model r.plain) := by
  obtain ⟨m, e, plan⟩ := t
  obtain rfl : plan = .flat r := ht
  obtain ⟨_ | p, _ | x, _ | c⟩ := r <;> first | rfl | cases hr

/-- Each table is one of `b` or of `b'`. -/
def Mixed (b b' b'' : FlatBook) : Prop := ∀ i, b''.table i = b.table i ∨ b''.table i = b'.table i

theorem Mixed.left (b b' : FlatBook) : b.Mixed b' b := fun _ => .inl rfl

theorem Mixed.right (b b' : FlatBook) : b.Mixed b' b' := fun _ => .inr rfl

/-- A revision in part: the model has some old fields and some new ones. -/
theorem Mixed.field {model : String} {r : FlatRate} (h : b.Mixed (b.revise model r).reread b'')
    (i : Part) : (b''.rate model).field i = (b.rate model).field i ∨
      (b''.rate model).field i = r.reread.field i := by
  rw [field_rate, field_rate]
  refine (h i).imp (fun hi => by rw [hi]) fun hi => ?_
  rw [hi, table_reread, Table.get?_map, table_revise, Table.get?_put, if_pos rfl,
    FlatRate.field_reread]

/-- Another model has the fields it had, some of them as their texts are read. -/
theorem Mixed.field_of_ne {model model' : String} {r : FlatRate}
    (h : b.Mixed (b.revise model r).reread b'') (hne : model ≠ model') (i : Part) :
    (b''.rate model').field i = (b.rate model').field i ∨
      (b''.rate model').field i = ((b.rate model').field i).map Json.reread := by
  rw [field_rate, field_rate]
  refine (h i).imp (fun hi => by rw [hi]) fun hi => ?_
  rw [hi, table_reread, Table.get?_map, table_revise, Table.get?_put, if_neg hne]

end FlatBook

end TokenTariff
