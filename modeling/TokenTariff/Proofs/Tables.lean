import Mathlib
import TokenTariff.Table

/-!
# Tables as finite maps

A table is determined by its look-ups, and its entries are the pairs that a look-up finds. Entries
that ascend already make up their table as they stand.
-/

namespace TokenTariff

namespace Entries

variable {α : Type}

theorem mem_iff {l : List (String × α)} (h : Ascending l) (k : String) (v : α) :
    (k, v) ∈ l ↔ get? k l = some v := by
  induction l with
  | nil => simp [get?]
  | cons e rest ih =>
    obtain ⟨k', v'⟩ := e
    obtain ⟨hlt, hrest⟩ := List.pairwise_cons.1 h
    replace hlt : ∀ e ∈ rest, k' < e.1 := hlt
    by_cases hk : k' = k
    · subst hk
      have hnot : (k', v) ∉ rest := fun hm => String.lt_irrefl k' (hlt (k', v) hm)
      simp [get?, hnot, eq_comm]
    · simp [get?, hk, Ne.symm hk, ih hrest]

theorem insert_of_lt {l : List (String × α)} {k : String} (v : α) (h : ∀ e ∈ l, e.1 < k) :
    insert k v l = l ++ [(k, v)] := by
  induction l with
  | nil => rfl
  | cons e rest ih =>
    have he : e.1 < k := h e List.mem_cons_self
    have hnot : ¬k < e.1 := String.lt_asymm he
    have hne : k ≠ e.1 := fun hk => String.lt_irrefl _ (hk ▸ he)
    simp [insert, hnot, hne, ih fun e' h' => h e' (List.mem_cons_of_mem _ h')]

theorem get?_foldl_insert {k : String} {l : List (String × α)} (h : k ∉ l.map (·.1))
    (before : List (String × α)) :
    get? k (l.foldl (fun l e => insert e.1 e.2 l) before) = get? k before := by
  induction l generalizing before with
  | nil => rfl
  | cons e rest ih =>
    rw [List.map_cons, List.mem_cons, not_or] at h
    rw [List.foldl_cons, ih h.2, get?_insert, if_neg (Ne.symm h.1)]

theorem map_insert {β : Type} (f : α → β) (k : String) (v : α) (l : List (String × α)) :
    (insert k v l).map (fun e => (e.1, f e.2)) =
      insert k (f v) (l.map fun e => (e.1, f e.2)) := by
  induction l with
  | nil => rfl
  | cons e rest ih =>
    rw [insert, List.map_cons, insert]
    split_ifs
    · rfl
    · rfl
    · rw [List.map_cons, ih]

end Entries

namespace Table

variable {α : Type}

theorem mem_entries (t : Table α) (k : String) (v : α) :
    (k, v) ∈ t.entries ↔ t.get? k = some v := Entries.mem_iff t.ascending k v

theorem eq_of_entries {t t' : Table α} (h : t.entries = t'.entries) : t = t' := by
  cases t
  cases t'
  subst h
  rfl

/-- Tables with the same look-ups are equal. -/
theorem ext {t t' : Table α} (h : ∀ k, t.get? k = t'.get? k) : t = t' := by
  have hnodup (t : Table α) : t.entries.Nodup := by
    refine List.Pairwise.imp ?_ t.ascending
    rintro a b hlt rfl
    exact String.lt_irrefl _ hlt
  refine eq_of_entries (List.Perm.eq_of_pairwise (fun a b _ _ hab hba => ?_) t.ascending
    t'.ascending ((List.perm_ext_iff_of_nodup (hnodup t) (hnodup t')).2 fun e => ?_))
  · exact absurd hba (String.lt_asymm hab)
  · rw [mem_entries, mem_entries, h]

theorem entries_foldl_insert (t : Table α) {l : List (String × α)}
    (h : Entries.Ascending (t.entries ++ l)) :
    (l.foldl (fun t e => t.insert e.1 e.2) t).entries = t.entries ++ l := by
  induction l generalizing t with
  | nil => simp
  | cons e rest ih =>
    have hlt : ∀ e' ∈ t.entries, e'.1 < e.1 := fun e' h' =>
      (List.pairwise_append.1 h).2.2 e' h' e List.mem_cons_self
    have hins : (t.insert e.1 e.2).entries = t.entries ++ [e] := Entries.insert_of_lt e.2 hlt
    rw [List.foldl_cons, ih _ (by simpa [hins] using h), hins, List.append_assoc,
      List.singleton_append]

@[simp] theorem ofList_entries (t : Table α) : ofList t.entries = t :=
  eq_of_entries (entries_foldl_insert ∅ t.ascending)

theorem mem_insert_entries {t : Table α} {k : String} {v : α} {e : String × α}
    (h : e ∈ (t.insert k v).entries) : e = (k, v) ∨ e ∈ t.entries := Entries.mem_insert h

theorem mem_erase_entries {t : Table α} {k : String} {e : String × α}
    (h : e ∈ (t.erase k).entries) : e ∈ t.entries := (List.mem_filter.1 h).1

theorem mem_ofList_entries {l : List (String × α)} {e : String × α}
    (h : e ∈ (ofList l).entries) : e ∈ l := by
  have key (l : List (String × α)) (t : Table α)
      (h : e ∈ (l.foldl (fun t e => t.insert e.1 e.2) t).entries) : e ∈ t.entries ∨ e ∈ l := by
    induction l generalizing t with
    | nil => exact .inl h
    | cons e' rest ih =>
      rcases ih _ h with h | h
      · rcases mem_insert_entries h with rfl | h
        · exact .inr List.mem_cons_self
        · exact .inl h
      · exact .inr (List.mem_cons_of_mem _ h)
  rcases key l ∅ h with h | h
  · exact absurd h List.not_mem_nil
  · exact h

theorem erase_of_not_contains {t : Table α} {k : String} (h : t.contains k = false) :
    t.erase k = t := by
  apply ext
  intro k'
  rw [get?_erase]
  split
  · rename_i hk
    subst hk
    exact (by simpa [contains] using h : t.get? k = none).symm
  · rfl

/-- The table with a name set to a value, or without the name. -/
def put (t : Table α) (k : String) : Option α → Table α
  | some v => t.insert k v
  | none => t.erase k

theorem get?_put (t : Table α) (k k' : String) (v : Option α) :
    (t.put k v).get? k' = if k = k' then v else t.get? k' := by
  cases v with
  | none => exact t.get?_erase k k'
  | some v => exact t.get?_insert k k' v

theorem put_put (t : Table α) (k : String) (v w : Option α) : (t.put k v).put k w = t.put k w := by
  apply ext
  intro k'
  rw [get?_put, get?_put, get?_put]
  split <;> rfl

theorem mem_put_entries {t : Table α} {k : String} {v : Option α} {e : String × α}
    (h : e ∈ (t.put k v).entries) : v = some e.2 ∨ e ∈ t.entries := by
  cases v with
  | none => exact .inr (mem_erase_entries h)
  | some v =>
    rcases mem_insert_entries h with rfl | h
    · exact .inl rfl
    · exact .inr h

def map {β : Type} (f : α → β) (t : Table α) : Table β :=
  ⟨t.entries.map fun e => (e.1, f e.2), List.pairwise_map.2 t.ascending⟩

theorem get?_map {β : Type} (f : α → β) (t : Table α) (k : String) :
    (t.map f).get? k = (t.get? k).map f := by
  have key (l : List (String × α)) :
      Entries.get? k (l.map fun e => (e.1, f e.2)) = (Entries.get? k l).map f := by
    induction l with
    | nil => rfl
    | cons e rest ih =>
      rw [List.map_cons, Entries.get?, Entries.get?, ih]
      split <;> rfl
  exact key t.entries

theorem map_eq_self_iff {f : α → α} {t : Table α} :
    t.map f = t ↔ ∀ e ∈ t.entries, f e.2 = e.2 := by
  have hentries : t.map f = t ↔ t.entries.map (fun e => (e.1, f e.2)) = t.entries :=
    ⟨congrArg entries, fun h => eq_of_entries h⟩
  rw [hentries]
  nth_rewrite 2 [← List.map_id t.entries]
  rw [List.map_inj_left]
  exact forall₂_congr fun e _ => by simp [Prod.ext_iff]

theorem map_id (t : Table α) : t.map id = t := map_eq_self_iff.2 fun _ _ => rfl

theorem map_put {β : Type} (f : α → β) (t : Table α) (k : String) (v : Option α) :
    (t.put k v).map f = (t.map f).put k (v.map f) := by
  apply ext
  intro k'
  rw [get?_map, get?_put, get?_put, get?_map]
  split <;> rfl

def tabulate (names : List String) (f : String → Option α) : Table α :=
  names.foldl (fun t k => t.put k (f k)) ∅

theorem get?_tabulate (names : List String) (f : String → Option α) (k : String) :
    (tabulate names f).get? k = if k ∈ names then f k else none := by
  have key (t : Table α) : (names.foldl (fun t k => t.put k (f k)) t).get? k =
      if k ∈ names then f k else t.get? k := by
    induction names generalizing t with
    | nil => rfl
    | cons n names ih =>
      rw [List.foldl_cons, ih, get?_put]
      by_cases hn : n = k
      · simp [hn]
      · simp [hn, Ne.symm hn]
  exact key ∅

end Table

end TokenTariff
