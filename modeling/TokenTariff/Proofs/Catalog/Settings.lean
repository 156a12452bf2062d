import Mathlib
import TokenTariff.Proofs.Catalog.WrittenTables
import TokenTariff.Proofs.Json.Readers
import TokenTariff.Remote.Memory

/-!
# Settings that hold a book

The three tables of a book are its parts, each under a key of its own. When no key occurs twice, a
list of settings holds a book part by part: a part is what the setting at its key says. Putting a
setting therefore changes one part and nothing else, neither the other parts nor the settings that
belong to no book.
-/

namespace TokenTariff

open Json

namespace FlatBook

inductive Part where
  | price
  | ratio
  | completion
deriving DecidableEq

namespace Part

def key : Part → String
  | price => priceKey
  | ratio => ratioKey
  | completion => completionKey

theorem key_injective : Function.Injective key := by
  intro i j h
  cases i <;> cases j <;> first | rfl | exact absurd h (by decide)

end Part

def table (b : FlatBook) : Part → Table Float
  | .price => b.prices
  | .ratio => b.ratios
  | .completion => b.completions

def set (b : FlatBook) (i : Part) (t : Table Float) : FlatBook :=
  match i with
  | .price => { b with prices := t }
  | .ratio => { b with ratios := t }
  | .completion => { b with completions := t }

theorem table_set (b : FlatBook) (i j : Part) (t : Table Float) :
    (b.set i t).table j = if i = j then t else b.table j := by
  cases i <;> cases j <;> rfl

theorem ext_table {b b' : FlatBook} (h : ∀ i, b.table i = b'.table i) : b = b' := by
  obtain ⟨p, r, c⟩ := b
  obtain ⟨p', r', c'⟩ := b'
  obtain rfl : p = p' := h .price
  obtain rfl : r = r' := h .ratio
  obtain rfl : c = c' := h .completion
  rfl

def setting (i : Part) (t : Table Float) : Setting := ⟨i.key, writeTable t⟩

theorem toSettings_eq (b : FlatBook) :
    b.toSettings = [Part.price, .ratio, .completion].map fun i => setting i (b.table i) := rfl

theorem mem_toSettings {b : FlatBook} {s : Setting} :
    s ∈ b.toSettings ↔ ∃ i, s = setting i (b.table i) := by
  rw [toSettings_eq]
  constructor
  · intro h
    obtain ⟨i, -, rfl⟩ := List.mem_map.1 h
    exact ⟨i, rfl⟩
  · rintro ⟨i, rfl⟩
    exact List.mem_map_of_mem (by cases i <;> simp)

theorem nodup_keys_toSettings (b : FlatBook) : (b.toSettings.map (·.key)).Nodup := by
  change [priceKey, ratioKey, completionKey].Nodup
  decide

theorem readSetting_of_key {b : FlatBook} {s : Setting} {i : Part} (h : s.key = i.key) :
    b.readSetting s = (readTable i.key s.value).map (b.set i) := by
  obtain ⟨key, value⟩ := s
  obtain rfl : key = i.key := h
  cases i <;> rfl

theorem readSetting_of_other {b : FlatBook} {s : Setting} (h : ∀ i : Part, s.key ≠ i.key) :
    b.readSetting s = .ok b := by
  have hp : s.key ≠ priceKey := h .price
  have hr : s.key ≠ ratioKey := h .ratio
  have hc : s.key ≠ completionKey := h .completion
  simp [readSetting, hp, hr, hc]

def Finite (b : FlatBook) : Prop := ∀ i, ∀ e ∈ (b.table i).entries, e.2.isFinite = true

def reread (b : FlatBook) : FlatBook :=
  ⟨b.prices.map Json.reread, b.ratios.map Json.reread, b.completions.map Json.reread⟩

theorem table_reread (b : FlatBook) (i : Part) :
    b.reread.table i = (b.table i).map Json.reread := by
  cases i <;> rfl

theorem finite_reread_iff {b : FlatBook} : b.reread.Finite ↔ b.Finite := by
  refine forall_congr' fun i => ?_
  rw [table_reread, Table.map, List.forall_mem_map]
  exact forall₂_congr fun e _ => isFinite_reread_iff

def ReadsBack (b : FlatBook) : Prop := ∀ i, ∀ e ∈ (b.table i).entries, Json.ReadsBack e.2

theorem readsBack_iff {b : FlatBook} : b.ReadsBack ↔ b.Finite ∧ b.reread = b := by
  have hsame : b.reread = b ↔ ∀ i, ∀ e ∈ (b.table i).entries, Json.reread e.2 = e.2 := by
    refine ⟨fun h i => Table.map_eq_self_iff.1 ?_, fun h => ext_table fun i => ?_⟩
    · rw [← table_reread, h]
    · rw [table_reread, Table.map_eq_self_iff.2 (h i)]
  rw [hsame]
  simp only [ReadsBack, Finite, Json.readsBack_iff]
  exact ⟨fun h => ⟨fun i e he => (h i e he).1, fun i e he => (h i e he).2⟩,
    fun h i e he => ⟨h.1 i e he, h.2 i e he⟩⟩

theorem ReadsBack.reread_eq {b : FlatBook} (h : b.ReadsBack) : b.reread = b := (readsBack_iff.1 h).2

end FlatBook

/-! ### Settings by their keys -/

namespace Setting

def valueAt (key : String) : List Setting → Option String
  | [] => none
  | s :: rest => if s.key = key then some s.value else valueAt key rest

theorem valueAt_of_not_mem {key : String} {ss : List Setting} (h : key ∉ ss.map (·.key)) :
    valueAt key ss = none := by
  induction ss with
  | nil => rfl
  | cons s rest ih =>
    rw [List.map_cons, List.mem_cons, not_or] at h
    rw [valueAt, if_neg (Ne.symm h.1), ih h.2]

theorem valueAt_of_mem {s : Setting} {ss : List Setting} (hu : (ss.map (·.key)).Nodup)
    (h : s ∈ ss) : valueAt s.key ss = some s.value := by
  induction ss with
  | nil => exact absurd h List.not_mem_nil
  | cons t rest ih =>
    rw [List.map_cons, List.nodup_cons] at hu
    rcases List.mem_cons.1 h with rfl | h
    · rw [valueAt, if_pos rfl]
    · have hne : t.key ≠ s.key := fun hk => hu.1 (hk ▸ List.mem_map_of_mem h)
      rw [valueAt, if_neg hne, ih hu.2 h]

theorem valueAt_putIn (s : Setting) (key : String) (ss : List Setting) :
    valueAt key (Store.putIn s ss) = if s.key = key then some s.value else valueAt key ss := by
  induction ss with
  | nil => simp [Store.putIn, valueAt]
  | cons t rest ih =>
    rw [Store.putIn]
    split
    · rename_i ht
      by_cases hk : s.key = key
      · simp [valueAt, hk]
      · simp [valueAt, hk, ht]
    · rename_i ht
      by_cases hk : s.key = key
      · subst hk
        simp [valueAt, ht, ih]
      · simp [valueAt, ih, hk]

theorem mem_putIn {s t : Setting} {ss : List Setting} (h : t ∈ Store.putIn s ss) :
    t = s ∨ t ∈ ss := by
  induction ss with
  | nil => exact .inl (List.mem_singleton.1 h)
  | cons u rest ih =>
    rw [Store.putIn] at h
    split at h
    · exact (List.mem_cons.1 h).imp_right (List.mem_cons_of_mem _)
    · rcases List.mem_cons.1 h with h | h
      · exact .inr (h ▸ List.mem_cons_self)
      · exact (ih h).imp_right (List.mem_cons_of_mem _)

theorem mem_keys_putIn {s : Setting} {key : String} {ss : List Setting}
    (h : key ∈ (Store.putIn s ss).map (·.key)) : key = s.key ∨ key ∈ ss.map (·.key) := by
  obtain ⟨t, ht, rfl⟩ := List.mem_map.1 h
  exact (mem_putIn ht).imp (congrArg Setting.key) List.mem_map_of_mem

theorem nodup_putIn (s : Setting) {ss : List Setting} (h : (ss.map (·.key)).Nodup) :
    ((Store.putIn s ss).map (·.key)).Nodup := by
  induction ss with
  | nil => simp [Store.putIn]
  | cons t rest ih =>
    rw [List.map_cons, List.nodup_cons] at h
    rw [Store.putIn]
    split
    · rename_i ht
      rw [List.map_cons, List.nodup_cons, ← ht]
      exact h
    · rename_i ht
      rw [List.map_cons, List.nodup_cons]
      refine ⟨fun hm => ?_, ih h.2⟩
      rcases mem_keys_putIn hm with hk | hk
      · exact ht hk
      · exact h.1 hk

theorem filter_putIn {p : Setting → Bool} {s : Setting}
    (hs : ∀ t : Setting, t.key = s.key → p t = false) (ss : List Setting) :
    (Store.putIn s ss).filter p = ss.filter p := by
  induction ss with
  | nil => simp [Store.putIn, hs s rfl]
  | cons t rest ih =>
    rw [Store.putIn]
    split
    · rename_i ht
      simp [hs s rfl, hs t ht]
    · rw [List.filter_cons, List.filter_cons, ih]

end Setting

/-! ### The book of a list of settings -/

namespace FlatBook

/-- What the settings say about a table that was `t` before they were read. -/
def readAt (t : Table Float) (i : Part) (ss : List Setting) : Except Malformed (Table Float) :=
  match Setting.valueAt i.key ss with
  | none => .ok t
  | some text => readTable i.key text

theorem readAt_of_not_mem {t : Table Float} {i : Part} {ss : List Setting}
    (h : i.key ∉ ss.map (·.key)) : readAt t i ss = .ok t := by
  rw [readAt, Setting.valueAt_of_not_mem h]

theorem readAt_cons_self {t : Table Float} {i : Part} {s : Setting} {ss : List Setting}
    (h : s.key = i.key) : readAt t i (s :: ss) = readTable i.key s.value := by
  rw [readAt, Setting.valueAt, if_pos h]

theorem readAt_cons_of_ne {t : Table Float} {i : Part} {s : Setting} {ss : List Setting}
    (h : s.key ≠ i.key) : readAt t i (s :: ss) = readAt t i ss := by
  rw [readAt, Setting.valueAt, if_neg h, readAt]

theorem foldlM_readSetting {ss : List Setting} (hu : (ss.map (·.key)).Nodup) (b₀ b : FlatBook) :
    ss.foldlM readSetting b₀ = .ok b ↔ ∀ i, readAt (b₀.table i) i ss = .ok (b.table i) := by
  induction ss generalizing b₀ with
  | nil =>
    change Except.ok b₀ = Except.ok b ↔ ∀ i, Except.ok (b₀.table i) = Except.ok (b.table i)
    simp only [Except.ok.injEq]
    exact ⟨by rintro rfl i; rfl, ext_table⟩
  | cons s rest ih =>
    rw [List.map_cons, List.nodup_cons] at hu
    rw [List.foldlM_cons]
    by_cases hk : ∃ i : Part, s.key = i.key
    · obtain ⟨i, hi⟩ := hk
      have hrest : i.key ∉ rest.map (·.key) := hi ▸ hu.1
      have hother {j : Part} (hj : j ≠ i) : s.key ≠ j.key := fun h =>
        hj (Part.key_injective (h.symm.trans hi))
      rw [readSetting_of_key hi]
      cases ht : readTable i.key s.value with
      | error e =>
        apply iff_of_false (by rintro ⟨⟩)
        intro h
        have := h i
        rw [readAt_cons_self hi, ht] at this
        cases this
      | ok t =>
        refine (ih hu.2 (b₀.set i t)).trans (forall_congr' fun j => ?_)
        by_cases hj : j = i
        · subst hj
          rw [readAt_of_not_mem hrest, readAt_cons_self hi, ht, table_set, if_pos rfl]
        · rw [readAt_cons_of_ne (hother hj), table_set, if_neg (Ne.symm hj)]
    · push Not at hk
      rw [readSetting_of_other hk]
      refine (ih hu.2 b₀).trans (forall_congr' fun j => ?_)
      rw [readAt_cons_of_ne (hk j)]

/-- The book of settings in which no key occurs twice, part by part. -/
theorem ofSettings_iff {ss : List Setting} (hu : (ss.map (·.key)).Nodup) (b : FlatBook) :
    ofSettings ss = .ok b ↔ ∀ i, readAt ∅ i ss = .ok (b.table i) := by
  refine (foldlM_readSetting hu {} b).trans (forall_congr' fun i => ?_)
  cases i <;> rfl

/-- Settings with all tables of a finite book, each under its key, are read as that book with its
numbers as their texts are read. -/
theorem ofSettings_of_mem {ss : List Setting} (hu : (ss.map (·.key)).Nodup) {b : FlatBook}
    (hb : b.Finite) (h : ∀ i, setting i (b.table i) ∈ ss) : ofSettings ss = .ok b.reread := by
  refine (ofSettings_iff hu b.reread).2 fun i => ?_
  have hvalue : Setting.valueAt i.key ss = some (writeTable (b.table i)) :=
    Setting.valueAt_of_mem hu (h i)
  rw [readAt, hvalue, table_reread]
  exact readTable_writeTable i.key (hb i)

theorem isFinite_of_readTable {key text : String} {t : Table Float}
    (h : readTable key text = .ok t) : ∀ e ∈ t.entries, e.2.isFinite = true := by
  unfold readTable at h
  split at h
  · cases h
    exact fun e he => absurd he List.not_mem_nil
  · split at h
    · rename_i t' ht
      cases h
      exact isFinite_of_parse ht
    · cases h

theorem Finite.set {b : FlatBook} (h : b.Finite) (i : Part) {t : Table Float}
    (ht : ∀ e ∈ t.entries, e.2.isFinite = true) : (b.set i t).Finite := by
  intro j
  rw [table_set]
  split
  · exact ht
  · exact h j

theorem Finite.foldlM {ss : List Setting} {b₀ b : FlatBook} (h₀ : b₀.Finite)
    (h : ss.foldlM readSetting b₀ = .ok b) : b.Finite := by
  induction ss generalizing b₀ with
  | nil =>
    cases h
    exact h₀
  | cons s rest ih =>
    rw [List.foldlM_cons] at h
    obtain ⟨b₁, hs, h⟩ := exists_of_bind h
    refine ih ?_ h
    by_cases hk : ∃ i : Part, s.key = i.key
    · obtain ⟨i, hi⟩ := hk
      rw [readSetting_of_key hi] at hs
      obtain ⟨t, ht, rfl⟩ := exists_of_map hs
      exact h₀.set i (isFinite_of_readTable ht)
    · rw [readSetting_of_other fun i hi => hk ⟨i, hi⟩] at hs
      cases hs
      exact h₀

/-- A book that was read is finite. -/
theorem finite_of_ofSettings {ss : List Setting} {b : FlatBook} (h : ofSettings ss = .ok b) :
    b.Finite :=
  Finite.foldlM (fun i e he => by cases i <;> exact absurd he List.not_mem_nil) h

theorem ofSettings_putIn {ss : List Setting} (hu : (ss.map (·.key)).Nodup) {b : FlatBook}
    (h : ofSettings ss = .ok b) (i : Part) {t : Table Float}
    (ht : ∀ e ∈ t.entries, e.2.isFinite = true) :
    ofSettings (Store.putIn (setting i t) ss) = .ok (b.set i (t.map Json.reread)) := by
  apply (ofSettings_iff (Setting.nodup_putIn _ hu) _).2
  intro j
  rw [table_set, readAt, Setting.valueAt_putIn]
  by_cases hj : i = j
  · subst hj
    simp only [setting, ↓reduceIte, readTable_writeTable i.key ht]
  · have hk : (setting i t).key ≠ j.key := fun hk => hj (Part.key_injective hk)
    rw [if_neg hk, if_neg hj]
    exact (ofSettings_iff hu b).1 h j

end FlatBook

end TokenTariff
