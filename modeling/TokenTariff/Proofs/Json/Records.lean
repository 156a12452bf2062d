import Mathlib
import TokenTariff.Proofs.Json.Readers
import TokenTariff.Proofs.Json.Written

/-!
# Written records read back

A record starts as the blank one of its shape, and each member that is a field sets it. So a record
that was written comes back as what its members set one after the other, and one that has a field
that cannot be read does not come back.
-/

namespace TokenTariff.Json

namespace Reader

variable {α β : Type} {r : Reader α} {src : Source}

/-- What is read from a value that can be written is decoded from its text. -/
theorem decodes_of_proper {v : Value} {depth : ℕ} (hv : v.Proper depth) {x : α}
    (h : r .text v.reread.toDoc = .ok x) : r.Decodes x := by
  refine ⟨v.write, .text, v.reread.toDoc, ?_, h⟩
  rw [hv.ofText_write]
  exact .itself

/-- The text of a value that can be written is read as the value that it says. -/
theorem parse_write {v : Value} {depth : ℕ} (hv : v.Proper depth) (r : Reader α) :
    r.parse v.write = r .text v.reread.toDoc := parse_eq hv.ofText_write r

theorem optional_of_read {r : Reader β} {d : Doc} {x : β} (hd : d ≠ .null) (h : r src d = .ok x) :
    optional r src d = .ok (some x) := by
  have hoptional : optional r src d = (r src d).map some := by
    cases d <;> first | rfl | exact absurd rfl hd
  rw [hoptional, h]
  rfl

/-- Items that were written one by one are read one by one. -/
theorem items_written {write : α → Value} {g : α → β} {r : Reader β} {xs : List α}
    (h : ∀ x ∈ xs, r src (write x).toDoc = .ok (g x)) :
    items r src (Value.list (xs.map write)).toDoc = .ok (xs.map g) := by
  rw [Value.toDoc, Value.toDocs_eq, List.map_map]
  exact items_map h

/-- Members that were written one by one are read one by one. -/
theorem members_written {write : α → Value} {g : α → β} {r : Reader β} {es : List (String × α)}
    (h : ∀ e ∈ es, r src (write e.2).toDoc = .ok (g e.2)) :
    members r src (Value.object (es.map fun e => (e.1, write e.2))).toDoc =
      .ok (es.map fun e => (e.1, g e.2)) := by
  rw [Value.toDoc, Value.toMembers_eq, List.map_map]
  refine members_map fun e he => ?_
  change member r src (.ok e.1, (write e.2).toDoc) = .ok (e.1, g e.2)
  rw [member, h e he]
  rfl

/-- Written items that are read can each be read. -/
theorem exists_of_items {write : α → Value} {r : Reader β} {xs : List α} {ys : List β}
    (h : items r src (Value.list (xs.map write)).toDoc = .ok ys) :
    ∀ x ∈ xs, ∃ y, r src (write x).toDoc = .ok y := by
  rw [Value.toDoc, items, Value.toDocs_eq, List.map_map] at h
  obtain ⟨ys, hys, -⟩ := exists_of_bind h
  exact fun x hx => exists_of_mapM hys _ (List.mem_map_of_mem hx)

/-- Written members that are read can each be read. -/
theorem exists_of_members {write : α → Value} {r : Reader β} {es : List (String × α)}
    {ys : List (String × β)}
    (h : members r src (Value.object (es.map fun e => (e.1, write e.2))).toDoc = .ok ys) :
    ∀ e ∈ es, ∃ y, r src (write e.2).toDoc = .ok y := by
  rw [Value.toDoc, members, Value.toMembers_eq, List.map_map] at h
  obtain ⟨ys, hys, -⟩ := exists_of_bind h
  intro e he
  obtain ⟨y, hy⟩ := exists_of_mapM hys _ (List.mem_map_of_mem he)
  obtain ⟨k, -, hy⟩ := exists_of_bind hy
  obtain ⟨x, hx, -⟩ := exists_of_bind hy
  exact ⟨x, hx⟩

theorem exists_of_optional {r : Reader β} {d : Doc} (hd : d ≠ .null) {x : Option β}
    (h : optional r src d = .ok x) : ∃ y, r src d = .ok y := by
  cases d with
  | null => exact absurd rfl hd
  | _ =>
    obtain ⟨y, hy, -⟩ := exists_of_map h
    exact ⟨y, hy⟩

end Reader

namespace Shape

variable {ρ β : Type} {s : Shape ρ} {src : Source}

/-- The member is a field of the shape, and reading it sets the record so. -/
def Sets (s : Shape ρ) (src : Source) (m : String × Value) (set : ρ → ρ) : Prop :=
  ∃ field, s.fields.find? (·.name == m.1) = some field ∧ field.read src m.2.toDoc = .ok set

theorem sets_of_read {name : String} {v : Value} {absence : Absence} {r : Reader β}
    {set : β → ρ → ρ} {x : β}
    (hfield : s.fields.find? (·.name == name) = some ⟨name, absence, r.map set⟩)
    (hread : r src v.toDoc = .ok x) : s.Sets src (name, v) (set x) := by
  refine ⟨_, hfield, ?_⟩
  change (r src v.toDoc).map set = _
  rw [hread]
  rfl

/-- The members are fields of the shape, and reading them one after the other changes the record
so. -/
inductive Reads (s : Shape ρ) (src : Source) : List (String × Value) → (ρ → ρ) → Prop where
  | nil : Reads s src [] id
  | cons {m : String × Value} {set : ρ → ρ} {ms : List (String × Value)} {f : ρ → ρ}
    (hm : s.Sets src m set) (h : Reads s src ms f) : Reads s src (m :: ms) (f ∘ set)

theorem Reads.one {m : String × Value} {set : ρ → ρ} (hm : s.Sets src m set) :
    s.Reads src [m] set := by
  have hcons : s.Reads src [m] (id ∘ set) := .cons hm .nil
  exact hcons

theorem Reads.append {ms ms' : List (String × Value)} {f g : ρ → ρ} (h : s.Reads src ms f)
    (h' : s.Reads src ms' g) : s.Reads src (ms ++ ms') (g ∘ f) := by
  induction h with
  | nil => exact h'
  | @cons m set ms f hm _ ih =>
    have hcons : s.Reads src (m :: (ms ++ ms')) ((g ∘ f) ∘ set) := .cons hm ih
    exact hcons

theorem readMembers_of_reads {ms : List (String × Value)} {f : ρ → ρ} (h : s.Reads src ms f) (r : ρ)
    (seen : List String) (hnodup : (ms.map (·.1)).Nodup) (hnew : ∀ m ∈ ms, m.1 ∉ seen) :
    s.readMembers src (Value.toMembers ms) r seen = .ok (f r, (ms.map (·.1)).reverse ++ seen) := by
  induction h generalizing r seen with
  | nil => rfl
  | @cons m set ms f hset _ ih =>
    obtain ⟨k, v⟩ := m
    obtain ⟨field, hfield, hread⟩ := hset
    obtain ⟨hk, hnodup⟩ := List.nodup_cons.1 hnodup
    obtain ⟨hkseen, hnew⟩ := List.forall_mem_cons.1 hnew
    have hseen : seen.contains k = false := by simpa using hkseen
    have hstep : s.readMembers src (Value.toMembers ((k, v) :: ms)) r seen =
        s.readMembers src (Value.toMembers ms) (set r) (k :: seen) := by
      rw [Value.toMembers, readMembers]
      dsimp only [bind, Except.bind]
      rw [hfield]
      dsimp only
      rw [if_neg (Bool.eq_false_iff.1 hseen), hread]
    have hnew' : ∀ m ∈ ms, m.1 ∉ k :: seen := fun m hm hmem => by
      rcases List.mem_cons.1 hmem with hmk | hmem
      · exact hk (List.mem_map.2 ⟨m, hm, hmk⟩)
      · exact hnew m hm hmem
    rw [hstep, ih _ _ hnodup hnew']
    simp

/-- A written record is read as its members change the blank one, if no key occurs twice and all
required fields are among them. -/
theorem Reads.reader {ms : List (String × Value)} {f : ρ → ρ} (h : s.Reads src ms f)
    (hnodup : (ms.map (·.1)).Nodup)
    (hrequired : ∀ field ∈ s.fields, field.absence = .fault → field.name ∈ ms.map (·.1)) :
    s.reader src (Value.object ms).toDoc = .ok (f s.blank) := by
  have hmissing : s.missing? ((ms.map (·.1)).reverse ++ []) = none := by
    rw [missing?, Option.map_eq_none_iff, List.find?_eq_none]
    intro field hf
    simp only [List.append_nil, Bool.and_eq_true, beq_iff_eq, Bool.not_eq_true',
      List.contains_reverse, not_and, Bool.not_eq_false]
    exact fun hfault => List.contains_iff_mem.2 (hrequired field hf hfault)
  rw [Value.toDoc, Shape.reader, readObject,
    readMembers_of_reads h s.blank [] hnodup fun _ _ => List.not_mem_nil]
  dsimp only [bind, Except.bind, ObjectEnd.onRead]
  rw [hmissing]

theorem reads_of_forall₂ {ms : List (String × Value)} {sets : List (ρ → ρ)}
    (h : List.Forall₂ (s.Sets src) ms sets) :
    s.Reads src ms fun r => sets.foldl (fun r set => set r) r := by
  induction h with
  | nil => exact .nil
  | cons hm _ ih => exact .cons hm ih

/-- Members that do not interfere with each other may come in any order. -/
theorem reader_of_perm {ms ms' : List (String × Value)} {sets : List (ρ → ρ)}
    (h : List.Forall₂ (s.Sets src) ms sets) (hperm : ms'.Perm ms)
    (hcomm : ∀ f ∈ sets, ∀ g ∈ sets, ∀ r, f (g r) = g (f r))
    (hnodup : (ms.map (·.1)).Nodup)
    (hrequired : ∀ field ∈ s.fields, field.absence = .fault → field.name ∈ ms.map (·.1)) :
    s.reader src (Value.object ms').toDoc = .ok (sets.foldl (fun r set => set r) s.blank) := by
  have hkeys := hperm.map (·.1)
  obtain ⟨sets', hsets', hsetsperm⟩ := List.perm_comp_forall₂ hperm h
  have hread := (reads_of_forall₂ hsets').reader (hkeys.nodup_iff.2 hnodup)
    fun field hf hfault => hkeys.mem_iff.2 (hrequired field hf hfault)
  have hfold := hsetsperm.symm.foldl_eq' (f := fun r set => set r)
    (fun f hf g hg r => hcomm g hg f hf r) s.blank
  rw [hread, hfold]

/-- Whatever members are read, those that are fields can be read as such. -/
theorem exists_of_readMembers {ms : List (Except Fault String × Doc)} {r : ρ} {seen : List String}
    {out : ρ × List String} (h : s.readMembers src ms r seen = .ok out) {k : String} {d : Doc}
    (hm : (.ok k, d) ∈ ms) {field : Field ρ}
    (hfield : s.fields.find? (·.name == k) = some field) :
    ∃ set, field.read src d = .ok set := by
  induction ms generalizing r seen with
  | nil => cases hm
  | cons m ms ih =>
    obtain ⟨k', hk', h⟩ := exists_of_bind h
    -- The member is this one, or it comes later and the rest was read whatever this one is.
    rcases List.mem_cons.1 hm with rfl | hm
    · cases hk'
      rw [hfield] at h
      dsimp only at h
      split at h
      · cases h
      · obtain ⟨set, hset, -⟩ := exists_of_bind h
        exact ⟨set, hset⟩
    · split at h
      · split at h
        · cases h
        · exact ih h hm
      · split at h
        · cases h
        · obtain ⟨set, -, h⟩ := exists_of_bind h
          exact ih h hm

/-- A written record that is read has only fields that can be read. -/
theorem exists_of_reader {ms : List (String × Value)} {x : ρ}
    (h : s.reader src (Value.object ms).toDoc = .ok x) {name : String} {v : Value}
    (hm : (name, v) ∈ ms) {absence : Absence} {r : Reader β} {set : β → ρ → ρ}
    (hfield : s.fields.find? (·.name == name) = some ⟨name, absence, r.map set⟩) :
    ∃ y, r src v.toDoc = .ok y := by
  rw [Value.toDoc, Shape.reader, readObject, Value.toMembers_eq] at h
  obtain ⟨out, hout, -⟩ := exists_of_bind h
  obtain ⟨g, hg⟩ := exists_of_readMembers hout (List.mem_map_of_mem hm) hfield
  obtain ⟨y, hy, -⟩ := exists_of_map hg
  exact ⟨y, hy⟩

end Shape

end TokenTariff.Json
