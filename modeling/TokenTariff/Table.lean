/-!
# Tables

A table is a finite map from names to values. It is kept as the list of its entries in ascending
order of names, so that two tables with the same entries are equal and every listing of a table
comes out in one order.
-/

namespace TokenTariff

namespace Entries

variable {α : Type}

def insert (k : String) (v : α) : List (String × α) → List (String × α)
  | [] => [(k, v)]
  | (k', v') :: rest =>
    if k < k' then (k, v) :: (k', v') :: rest
    else if k = k' then (k, v) :: rest
    else (k', v') :: insert k v rest

def erase (k : String) (l : List (String × α)) : List (String × α) := l.filter (·.1 != k)

def get? (k : String) : List (String × α) → Option α
  | [] => none
  | (k', v) :: rest => if k' = k then some v else get? k rest

/-- Names ascend, so that no name occurs twice. -/
abbrev Ascending (l : List (String × α)) : Prop := l.Pairwise (·.1 < ·.1)

theorem mem_insert {k : String} {v : α} {l : List (String × α)} {e : String × α}
    (h : e ∈ insert k v l) : e = (k, v) ∨ e ∈ l := by
  induction l with
  | nil => simpa [insert] using h
  | cons e' rest ih =>
    rw [insert] at h
    split at h
    · simpa using h
    · split at h
      · rcases List.mem_cons.1 h with h | h
        · exact .inl h
        · exact .inr (List.mem_cons_of_mem _ h)
      · rcases List.mem_cons.1 h with h | h
        · exact .inr (h ▸ List.mem_cons_self)
        · exact (ih h).imp_right (List.mem_cons_of_mem _)

theorem ascending_insert (k : String) (v : α) {l : List (String × α)} (h : Ascending l) :
    Ascending (insert k v l) := by
  induction l with
  | nil => simp [insert]
  | cons e rest ih =>
    obtain ⟨he, hr⟩ := List.pairwise_cons.1 h
    rw [insert]
    split
    · rename_i hk
      refine List.pairwise_cons.2 ⟨fun a ha => ?_, h⟩
      rcases List.mem_cons.1 ha with rfl | ha
      · exact hk
      · exact String.lt_trans hk (he a ha)
    · split
      · rename_i hk
        exact List.pairwise_cons.2 ⟨fun a ha => hk ▸ he a ha, hr⟩
      · refine List.pairwise_cons.2 ⟨fun a ha => ?_, ih hr⟩
        rcases mem_insert ha with rfl | ha
        · grind
        · exact he a ha

theorem ascending_erase (k : String) {l : List (String × α)} (h : Ascending l) :
    Ascending (erase k l) := List.Pairwise.filter _ h

theorem get?_insert (k k' : String) (v : α) (l : List (String × α)) :
    get? k' (insert k v l) = if k = k' then some v else get? k' l := by
  induction l with
  | nil => simp [insert, get?]
  | cons e rest ih =>
    rw [insert]
    split
    · simp [get?]
    · split
      · rename_i h
        by_cases hk : k = k' <;> simp [get?, ← h, hk]
      · rename_i h
        simp only [get?, ih]
        by_cases he : e.1 = k'
        · have hk : k ≠ k' := fun h' => h (h'.trans he.symm)
          simp [he, hk]
        · simp [he]

theorem get?_erase (k k' : String) (l : List (String × α)) :
    get? k' (erase k l) = if k = k' then none else get? k' l := by
  induction l with
  | nil => simp [erase, get?]
  | cons e rest ih =>
    rw [erase] at ih
    by_cases he : e.1 = k
    · by_cases hk : k = k' <;> simp_all [erase, get?]
    · by_cases hk : k = k'
      · subst hk
        simp_all [erase, get?]
      · simp [erase, get?, he, hk, ih]

theorem mem_names_iff (k : String) (l : List (String × α)) :
    k ∈ l.map (·.1) ↔ (get? k l).isSome := by
  induction l with
  | nil => simp [get?]
  | cons e rest ih =>
    by_cases h : e.1 = k
    · simp [get?, h]
    · simp [get?, h, ← ih, Ne.symm h]

end Entries

structure Table (α : Type) where
  entries : List (String × α) := []
  ascending : Entries.Ascending entries := by exact List.Pairwise.nil

namespace Table

variable {α : Type}

instance : EmptyCollection (Table α) := ⟨{}⟩

instance : Inhabited (Table α) := ⟨∅⟩

def get? (t : Table α) (k : String) : Option α := Entries.get? k t.entries

def contains (t : Table α) (k : String) : Bool := (t.get? k).isSome

def insert (t : Table α) (k : String) (v : α) : Table α :=
  ⟨Entries.insert k v t.entries, Entries.ascending_insert k v t.ascending⟩

def erase (t : Table α) (k : String) : Table α :=
  ⟨Entries.erase k t.entries, Entries.ascending_erase k t.ascending⟩

/-- The table of a list of entries; of two with one name the later counts. -/
def ofList (l : List (String × α)) : Table α := l.foldl (fun t e => t.insert e.1 e.2) ∅

def toList (t : Table α) : List (String × α) := t.entries

def names (t : Table α) : List String := t.entries.map (·.1)

theorem get?_insert (t : Table α) (k k' : String) (v : α) :
    (t.insert k v).get? k' = if k = k' then some v else t.get? k' :=
  Entries.get?_insert k k' v t.entries

theorem get?_erase (t : Table α) (k k' : String) :
    (t.erase k).get? k' = if k = k' then none else t.get? k' :=
  Entries.get?_erase k k' t.entries

theorem mem_names (t : Table α) (k : String) : k ∈ t.names ↔ t.contains k = true :=
  Entries.mem_names_iff k t.entries

end Table

end TokenTariff
