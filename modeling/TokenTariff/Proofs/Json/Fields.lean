import Mathlib
import TokenTariff.Proofs.Json.Records
import TokenTariff.Proofs.Json.Structure

/-!
# Records field by field

A record is read from an object member by member, yet what comes out can be told field by field when
every field has a place of its own in the record: each field is given once at most, and the record
has there what was read, or what the blank record has if nothing was given.
-/

namespace TokenTariff.Json

structure Slot (ρ : Type) where
  β : Type
  name : String
  absence : Absence
  reader : Reader β
  get : ρ → β
  set : β → ρ → ρ
  get_set : ∀ x r, get (set x r) = x

def given (name : String) (ms : List (Except Fault String × Doc)) : List Doc :=
  ms.filterMap fun m =>
    match m.1 with
    | .ok k => if k = name then some m.2 else none
    | .error _ => none

namespace Slot

variable {ρ : Type}

def field (a : Slot ρ) : Field ρ := ⟨a.name, a.absence, a.reader.map a.set⟩

/-- Each field can be set without the other. -/
def Apart (a b : Slot ρ) : Prop :=
  (∀ x r, b.get (a.set x r) = b.get r) ∧ ∀ x r, a.get (b.set x r) = a.get r

instance : Std.Symm (Apart : Slot ρ → Slot ρ → Prop) := ⟨fun _ _ h => h.symm⟩

/-- What the record has at the field, from one that had it so before. -/
def Reads (a : Slot ρ) (src : Source) (before after : ρ) : List Doc → Prop
  | [] => a.get after = a.get before
  | [d] => a.reader src d = .ok (a.get after)
  | _ => False

/-- What the record has at the field, if all members are read. -/
def Takes (a : Slot ρ) (src : Source) (blank r : ρ)
    (ms : List (Except Fault String × Doc)) : Prop :=
  (given a.name ms = [] → a.absence ≠ .fault) ∧ a.Reads src blank r (given a.name ms)

end Slot

theorem given_cons_ok (name k : String) (d : Doc) (ms : List (Except Fault String × Doc)) :
    given name ((.ok k, d) :: ms) = if k = name then d :: given name ms else given name ms := by
  by_cases hk : k = name <;> simp [given, hk]

theorem mem_given {name : String} {d : Doc} {ms : List (Except Fault String × Doc)} :
    d ∈ given name ms ↔ (.ok name, d) ∈ ms := by
  induction ms with
  | nil => exact ⟨nofun, nofun⟩
  | cons m ms ih =>
    obtain ⟨k | k, d'⟩ := m
    · rw [List.mem_cons, ← ih]
      simp [given]
    · rw [given_cons_ok, List.mem_cons, ← ih]
      by_cases hk : k = name
      · simp [hk]
      · simp [hk, Ne.symm hk]

namespace Slot

variable {ρ : Type} {a : Slot ρ} {src : Source} {blank r : ρ}
  {ms : List (Except Fault String × Doc)}

theorem takes_iff : a.Takes src blank r ms ↔
    (given a.name ms = [] ∧ a.absence ≠ .fault ∧ a.get r = a.get blank) ∨
      ∃ d, given a.name ms = [d] ∧ a.reader src d = .ok (a.get r) := by
  rw [Takes]
  match given a.name ms with
  | [] => simp [Reads]
  | [d] => simp [Reads]
  | _ :: _ :: _ => simp [Reads]

/-- A field that is given is given just once. -/
theorem takes_iff_of_mem {d : Doc} (hd : (.ok a.name, d) ∈ ms) :
    a.Takes src blank r ms ↔ given a.name ms = [d] ∧ a.reader src d = .ok (a.get r) := by
  have hmem : d ∈ given a.name ms := mem_given.2 hd
  rw [takes_iff]
  constructor
  · rintro (⟨hnil, -⟩ | ⟨d', hd', hread⟩)
    · rw [hnil] at hmem
      cases hmem
    · rw [hd', List.mem_singleton] at hmem
      subst hmem
      exact ⟨hd', hread⟩
  · exact fun h => .inr ⟨d, h⟩

end Slot

namespace Shape

variable {ρ : Type} {s : Shape ρ} {slots : List (Slot ρ)} {src : Source}

/-- The fields have places of their own, which make up the record. -/
structure Slotted (s : Shape ρ) (slots : List (Slot ρ)) : Prop where
  fields : s.fields = slots.map Slot.field
  nodup : (slots.map Slot.name).Nodup
  apart : slots.Pairwise Slot.Apart
  ext : ∀ r r' : ρ, (∀ a ∈ slots, a.get r = a.get r') → r = r'

/-- All keys can be read, and the members that are no fields can be skipped. -/
def Readable (s : Shape ρ) (ms : List (Except Fault String × Doc)) : Prop :=
  ∀ m ∈ ms, ∃ k, m.1 = .ok k ∧
    ((∀ f ∈ s.fields, f.name ≠ k) → m.2.onSkip = none)

theorem readable_cons_ok {k : String} {d : Doc} {ms : List (Except Fault String × Doc)} :
    s.Readable ((.ok k, d) :: ms) ↔
      ((∀ f ∈ s.fields, f.name ≠ k) → d.onSkip = none) ∧ s.Readable ms := by
  rw [Readable, List.forall_mem_cons, Readable]
  simp

theorem not_exists_ok {ε α β : Type} (e : ε) (f : α → β) :
    ¬∃ x, (Except.error e : Except ε β) = .ok (f x) := by
  rintro ⟨x, h⟩
  cases h

namespace Slotted

variable (h : s.Slotted slots)

include h

theorem find?_eq_none {k : String} (hk : ∀ a ∈ slots, a.name ≠ k) :
    s.fields.find? (·.name == k) = none := by
  rw [h.fields, List.find?_eq_none]
  intro f hf
  obtain ⟨a, ha, rfl⟩ := List.mem_map.1 hf
  simpa [Slot.field] using hk a ha

theorem eq_of_name {a b : Slot ρ} (ha : a ∈ slots) (hb : b ∈ slots) (hname : a.name = b.name) :
    a = b := List.inj_on_of_nodup_map h.nodup ha hb hname

theorem get_set_of_ne {a b : Slot ρ} (ha : a ∈ slots) (hb : b ∈ slots) (hne : a.name ≠ b.name)
    (x : a.β) (r : ρ) : b.get (a.set x r) = b.get r :=
  (h.apart.forall ha hb fun hab => hne (congrArg Slot.name hab)).1 x r

theorem find?_eq_some {a : Slot ρ} (ha : a ∈ slots) :
    s.fields.find? (·.name == a.name) = some a.field := by
  rw [h.fields]
  cases hfind : (slots.map Slot.field).find? (·.name == a.name) with
  | none =>
    have hnot := List.find?_eq_none.1 hfind a.field (List.mem_map_of_mem ha)
    exact absurd (beq_self_eq_true a.name) hnot
  | some f =>
    obtain ⟨b, hb, rfl⟩ := List.mem_map.1 (List.mem_of_find?_eq_some hfind)
    have hname : b.name = a.name := beq_iff_eq.1 (List.find?_some hfind :)
    rw [h.eq_of_name hb ha hname]

/-- What the fields take from a member more, when it is one of them. -/
theorem reads_cons_iff {a b : Slot ρ} (ha : a ∈ slots) (hb : b ∈ slots) {d : Doc}
    {ms : List (Except Fault String × Doc)} {x : a.β} (hx : a.reader src d = .ok x) {r r' : ρ}
    {seen : List String} (hseen : a.name ∉ seen) :
    ((b.name ∈ a.name :: seen → given b.name ms = []) ∧
        b.Reads src (a.set x r) r' (given b.name ms)) ↔
      (b.name ∈ seen → given b.name ((.ok a.name, d) :: ms) = []) ∧
        b.Reads src r r' (given b.name ((.ok a.name, d) :: ms)) := by
  rw [given_cons_ok]
  by_cases hab : a.name = b.name
  · obtain rfl := h.eq_of_name ha hb hab
    rw [if_pos rfl]
    have hlate : a.name ∈ a.name :: seen := List.mem_cons_self
    rw [and_iff_right (fun hmem => absurd hmem hseen : a.name ∈ seen → d :: given a.name ms = [])]
    cases hms : given a.name ms with
    | nil =>
      simp only [Slot.Reads, a.get_set, hx, Except.ok.injEq, implies_true, true_and]
      exact eq_comm
    | cons d' ds => exact iff_of_false (fun hno => nomatch hno.1 hlate) id
  · rw [if_neg hab, List.mem_cons, or_iff_right (Ne.symm hab)]
    refine and_congr_right fun _ => ?_
    cases hms : given b.name ms with
    | nil => rw [Slot.Reads, Slot.Reads, h.get_set_of_ne ha hb hab]
    | cons d' ds => cases ds <;> rfl

/-- What all fields take from a member more, when it is one of them. -/
theorem forall_reads_cons_iff {a : Slot ρ} (ha : a ∈ slots) {d : Doc}
    {ms : List (Except Fault String × Doc)} {r r' : ρ} {seen : List String} :
    (∀ b ∈ slots, (b.name ∈ seen → given b.name ((.ok a.name, d) :: ms) = []) ∧
        b.Reads src r r' (given b.name ((.ok a.name, d) :: ms))) ↔
      a.name ∉ seen ∧ ∃ x, a.reader src d = .ok x ∧ ∀ b ∈ slots,
        (b.name ∈ a.name :: seen → given b.name ms = []) ∧
          b.Reads src (a.set x r) r' (given b.name ms) := by
  constructor
  · intro hall
    obtain ⟨hnew, hreads⟩ := hall a ha
    rw [given_cons_ok, if_pos rfl] at hnew hreads
    have hseen : a.name ∉ seen := fun hmem => List.cons_ne_nil _ _ (hnew hmem)
    have hx : a.reader src d = .ok (a.get r') := by
      cases hms : given a.name ms with
      | nil => rwa [hms] at hreads
      | cons d' ds =>
        rw [hms] at hreads
        exact hreads.elim
    exact ⟨hseen, _, hx, fun b hb => (h.reads_cons_iff ha hb hx hseen).2 (hall b hb)⟩
  · rintro ⟨hseen, x, hx, hall⟩
    exact fun b hb => (h.reads_cons_iff ha hb hx hseen).1 (hall b hb)

/-- A member that is a field sets it, unless it was set before. -/
theorem readMembers_field {a : Slot ρ} (ha : a ∈ slots) (d : Doc)
    (ms : List (Except Fault String × Doc)) (r : ρ) (seen : List String) :
    s.readMembers src ((.ok a.name, d) :: ms) r seen =
      if a.name ∈ seen then .error (.duplicate a.name)
      else a.reader src d >>= fun x => s.readMembers src ms (a.set x r) (a.name :: seen) := by
  rw [readMembers]
  dsimp only [bind, Except.bind]
  rw [h.find?_eq_some ha]
  have hread : a.field.read src d = (a.reader src d).map a.set := rfl
  dsimp only
  rw [hread]
  by_cases hseen : a.name ∈ seen
  · rw [if_pos (by simpa using hseen), if_pos hseen]
  · rw [if_neg (by simpa using hseen), if_neg hseen]
    cases a.reader src d <;> rfl

/-- A member that is no field is skipped. -/
theorem readMembers_strange {k : String} (hk : ∀ a ∈ slots, a.name ≠ k) (d : Doc)
    (ms : List (Except Fault String × Doc)) (r : ρ) (seen : List String) :
    s.readMembers src ((.ok k, d) :: ms) r seen =
      d.onSkip.elim (s.readMembers src ms r seen) .error := by
  rw [readMembers]
  dsimp only [bind, Except.bind]
  rw [h.find?_eq_none hk]
  cases d.onSkip <;> rfl

/-- All members are read just when keys and strange members can be read and each field that is given
is given once, and not before. -/
theorem readMembers_iff {ms : List (Except Fault String × Doc)} {r r' : ρ} {seen : List String} :
    (∃ seen', s.readMembers src ms r seen = .ok (r', seen')) ↔
      s.Readable ms ∧ ∀ a ∈ slots,
        (a.name ∈ seen → given a.name ms = []) ∧ a.Reads src r r' (given a.name ms) := by
  induction ms generalizing r seen with
  | nil =>
    have hresult : (∃ seen', s.readMembers src [] r seen = .ok (r', seen')) ↔ r' = r := by
      simp [readMembers, eq_comm]
    have hreadable : s.Readable [] := List.forall_mem_nil _
    rw [hresult, and_iff_right hreadable]
    constructor
    · rintro rfl
      exact fun a _ => ⟨fun _ => rfl, rfl⟩
    · exact fun hall => h.ext r' r fun a ha => (hall a ha).2
  | cons m ms ih =>
    obtain ⟨k | k, d⟩ := m
    · refine iff_of_false (not_exists_ok _ _) fun hno => ?_
      obtain ⟨k, hk, -⟩ := hno.1 _ List.mem_cons_self
      cases hk
    rw [readable_cons_ok]
    by_cases hk : ∃ a ∈ slots, a.name = k
    · obtain ⟨a, ha, rfl⟩ := hk
      have hfield : ¬∀ f ∈ s.fields, f.name ≠ a.name := fun hno =>
        hno a.field (h.fields ▸ List.mem_map_of_mem ha) rfl
      rw [h.forall_reads_cons_iff ha, and_iff_right (fun hno => absurd hno hfield),
        h.readMembers_field ha]
      by_cases hseen : a.name ∈ seen
      · rw [if_pos hseen]
        exact iff_of_false (not_exists_ok _ _) fun hno => hno.2.1 hseen
      rw [if_neg hseen, and_iff_right hseen]
      cases a.reader src d with
      | error f =>
        refine iff_of_false (not_exists_ok _ _) fun hno => ?_
        obtain ⟨x, hx, -⟩ := hno.2
        cases hx
      | ok x =>
        simp only [Except.ok.injEq, exists_eq_left']
        exact ih
    · push Not at hk
      have hfields : ∀ f ∈ s.fields, f.name ≠ k := by
        rw [h.fields, List.forall_mem_map]
        exact hk
      rw [h.readMembers_strange hk]
      cases hskip : d.onSkip with
      | some f =>
        refine iff_of_false (not_exists_ok _ _) fun hno => ?_
        cases hno.1.1 hfields
      | none =>
        refine ih.trans ?_
        rw [and_iff_right (fun _ => rfl)]
        refine and_congr_right fun _ => forall₂_congr fun a ha => ?_
        rw [given_cons_ok, if_neg (Ne.symm (hk a ha))]

/-- The names seen are those of the fields that were given. -/
theorem mem_seen_iff {ms : List (Except Fault String × Doc)} {r r' : ρ} {seen seen' : List String}
    (hread : s.readMembers src ms r seen = .ok (r', seen')) {a : Slot ρ} (ha : a ∈ slots) :
    a.name ∈ seen' ↔ a.name ∈ seen ∨ given a.name ms ≠ [] := by
  induction ms generalizing r seen with
  | nil =>
    obtain ⟨-, rfl⟩ := Prod.mk.inj (Except.ok.inj hread)
    exact ⟨.inl, fun hor => hor.resolve_right fun hno => hno rfl⟩
  | cons m ms ih =>
    obtain ⟨k | k, d⟩ := m
    · cases hread
    by_cases hk : ∃ b ∈ slots, b.name = k
    · obtain ⟨b, hb, rfl⟩ := hk
      rw [h.readMembers_field hb] at hread
      split_ifs at hread
      obtain ⟨x, -, hread⟩ := exists_of_bind hread
      rw [ih hread, List.mem_cons, given_cons_ok]
      by_cases hab : b.name = a.name
      · simp [hab]
      · simp [hab, Ne.symm hab]
    · push Not at hk
      rw [h.readMembers_strange hk] at hread
      cases hskip : d.onSkip with
      | some f =>
        rw [hskip] at hread
        cases hread
      | none =>
        rw [hskip] at hread
        rw [ih hread, given_cons_ok, if_neg (Ne.symm (hk a ha))]

/-- A record is read just when keys and strange members can be read and each field takes its part.
-/
theorem readObject_iff {ms : List (Except Fault String × Doc)} {r : ρ} :
    s.readObject src ms .closed = .ok r ↔
      s.Readable ms ∧ ∀ a ∈ slots, a.Takes src s.blank r ms := by
  have hmissing : ∀ {r' : ρ} {seen : List String},
      s.readMembers src ms s.blank [] = .ok (r', seen) →
      (s.missing? seen = none ↔ ∀ a ∈ slots, given a.name ms = [] → a.absence ≠ .fault) := by
    intro r' seen hread
    rw [missing?, Option.map_eq_none_iff, List.find?_eq_none, h.fields, List.forall_mem_map]
    refine forall₂_congr fun a ha => ?_
    have hseen := h.mem_seen_iff hread ha
    simp only [List.not_mem_nil, false_or] at hseen
    simp only [Slot.field, Bool.and_eq_true, beq_iff_eq, Bool.not_eq_true', List.contains_eq_mem,
      decide_eq_false_iff_not, hseen, not_and, not_not]
    tauto
  have hiff : (∃ seen, s.readMembers src ms s.blank [] = .ok (r, seen)) ↔ _ := h.readMembers_iff
  simp only [List.not_mem_nil, false_implies, true_and] at hiff
  constructor
  · intro hread
    obtain ⟨⟨r', seen⟩, hmembers, hread⟩ := exists_of_bind hread
    dsimp only [ObjectEnd.onRead] at hread
    split at hread
    · cases hread
    · rename_i hnone
      obtain rfl := Except.ok.inj hread
      obtain ⟨hreadable, hreads⟩ := hiff.1 ⟨seen, hmembers⟩
      exact ⟨hreadable, fun a ha => ⟨(hmissing hmembers).1 hnone a ha, hreads a ha⟩⟩
  · rintro ⟨hreadable, htakes⟩
    obtain ⟨seen, hmembers⟩ := hiff.2 ⟨hreadable, fun a ha => (htakes a ha).2⟩
    rw [readObject, hmembers]
    dsimp only [bind, Except.bind, ObjectEnd.onRead]
    rw [(hmissing hmembers).2 fun a ha => (htakes a ha).1]

end Slotted

end Shape

/-! ### Records in values -/

theorem Value.onSkip_toDoc (v : Value) : v.toDoc.onSkip = none := by
  match v with
  | .null | .bool _ | .number _ | .text _ => rfl
  | .list items =>
    rw [Value.toDoc, Value.toDocs_eq]
    refine Doc.onSkipLast_of_all (List.forall_mem_map.2 fun w hw => ?_)
    exact onSkip_toDoc w
  | .object members =>
    rw [Value.toDoc, Value.toMembers_eq]
    refine Doc.onSkipLastMember_of_all (List.forall_mem_map.2 fun m hm => ?_)
    exact onSkip_toDoc m.2
termination_by sizeOf v
decreasing_by
  · have hlt := List.sizeOf_lt_of_mem hw
    simp only [Value.list.sizeOf_spec]
    omega
  · have hlt := List.sizeOf_lt_of_mem hm
    obtain ⟨k, w⟩ := m
    simp only [Value.object.sizeOf_spec, Prod.mk.sizeOf_spec] at hlt ⊢
    omega

/-- A name stands once at most in a table. -/
theorem given_table (name : String) (ms : Table Value) :
    given name (Value.toMembers ms.entries) = (ms.get? name).toList.map Value.toDoc := by
  obtain ⟨entries, hasc⟩ := ms
  change given name (Value.toMembers entries) = (Entries.get? name entries).toList.map Value.toDoc
  induction entries with
  | nil => rfl
  | cons e rest ih =>
    obtain ⟨k, v⟩ := e
    obtain ⟨hlt, hrest⟩ := List.pairwise_cons.1 hasc
    rw [Value.toMembers, given_cons_ok, ih hrest, Entries.get?]
    by_cases hk : k = name
    · subst hk
      have hnone : Entries.get? k rest = none := by
        rw [← Option.not_isSome_iff_eq_none, ← Entries.mem_names_iff]
        intro hmem
        obtain ⟨e, he, hek⟩ := List.mem_map.1 hmem
        exact String.lt_irrefl _ (hek ▸ hlt e he)
      simp [hnone]
    · rw [if_neg hk, if_neg hk]

/-- What the record has at the field, from the value that stands at its name. -/
def Slot.TakesValue {ρ : Type} (a : Slot ρ) (src : Source) (blank r : ρ) : Option Value → Prop
  | none => a.absence ≠ .fault ∧ a.get r = a.get blank
  | some v => a.reader src v.toDoc = .ok (a.get r)

namespace Shape

variable {ρ : Type} {s : Shape ρ} {slots : List (Slot ρ)} {src : Source}

theorem Slotted.reader_iff (h : s.Slotted slots) (ms : Table Value) {r : ρ} :
    s.reader src (Value.object ms.entries).toDoc = .ok r ↔
      ∀ a ∈ slots, a.TakesValue src s.blank r (ms.get? a.name) := by
  have hreadable : s.Readable (Value.toMembers ms.entries) := by
    rw [Value.toMembers_eq]
    exact List.forall_mem_map.2 fun m _ => ⟨m.1, rfl, fun _ => m.2.onSkip_toDoc⟩
  rw [Value.toDoc, reader, h.readObject_iff, and_iff_right hreadable]
  refine forall₂_congr fun a _ => ?_
  rw [Slot.Takes, given_table]
  cases ms.get? a.name with
  | none => simp [Slot.Reads, Slot.TakesValue]
  | some v => simp [Slot.Reads, Slot.TakesValue]

/-- Members of other names than those known might as well not be there. -/
theorem readMembers_filter (known : String → Bool)
    (hknown : ∀ k, known k = false → s.fields.find? (·.name == k) = none)
    (ms : List (String × Value)) (r : ρ) (seen : List String) :
    s.readMembers src (Value.toMembers (ms.filter fun m => known m.1)) r seen =
      s.readMembers src (Value.toMembers ms) r seen := by
  induction ms generalizing r seen with
  | nil => rfl
  | cons m ms ih =>
    obtain ⟨k, v⟩ := m
    rw [List.filter_cons]
    by_cases hk : known k = true
    · rw [if_pos hk, Value.toMembers, Value.toMembers, readMembers, readMembers]
      simp only [ih]
    · have hskip : s.readMembers src (Value.toMembers ((k, v) :: ms)) r seen =
          s.readMembers src (Value.toMembers ms) r seen := by
        rw [Value.toMembers, readMembers]
        dsimp only [bind, Except.bind]
        rw [hknown k (by simpa using hk)]
        dsimp only
        rw [v.onSkip_toDoc]
      rw [if_neg hk, ih, hskip]

theorem filter_insert_of_neg {α : Type} {p : String → Bool} {k : String} (hk : p k = false) (v : α)
    (l : List (String × α)) :
    (Entries.insert k v l).filter (fun e => p e.1) = l.filter fun e => p e.1 := by
  induction l with
  | nil => simp [Entries.insert, hk]
  | cons e l ih =>
    rw [Entries.insert]
    split
    · rw [List.filter_cons_of_neg (by simp [hk])]
    · split
      · rename_i heq
        subst heq
        rw [List.filter_cons_of_neg (by simp [hk]), List.filter_cons_of_neg (by simp [hk])]
      · rw [List.filter_cons, List.filter_cons, ih]

/-- A member that is no field changes nothing, neither a record that is read nor a fault. -/
theorem reader_insert {k : String} (hk : ∀ f ∈ s.fields, f.name ≠ k) (v : Value)
    (ms : Table Value) :
    s.reader src (Value.object (ms.insert k v).entries).toDoc =
      s.reader src (Value.object ms.entries).toDoc := by
  have hknown : ∀ k', (k' != k) = false → s.fields.find? (·.name == k') = none := by
    intro k' hk'
    obtain rfl : k' = k := by simpa using hk'
    rw [List.find?_eq_none]
    exact fun f hf => by simpa using hk f hf
  have hfilter : (ms.insert k v).entries.filter (fun e => e.1 != k) =
      ms.entries.filter fun e => e.1 != k :=
    filter_insert_of_neg (p := (· != k)) (by simp) v ms.entries
  rw [Value.toDoc, Value.toDoc, reader, reader, readObject, readObject,
    ← readMembers_filter (· != k) hknown (ms.insert k v).entries, hfilter,
    readMembers_filter (· != k) hknown]

end Shape

end TokenTariff.Json
