import Mathlib
import TokenTariff.Json.Value
import TokenTariff.Proofs.Json.Readers

/-!
# Documents that are values

A document is a value of some kind if nothing in it is at fault, neither a key nor a number nor a
string, and if lists and objects are not nested too deep in it. Which value it is does not matter
here.
-/

namespace TokenTariff.Json.Doc

/-- Nothing is at fault in the document, and it is less than so many lists and objects deep. -/
inductive Flawless : ℕ → Doc → Prop where
  | null {depth : ℕ} : Flawless depth .null
  | bool {depth : ℕ} (b : Bool) : Flawless depth (.bool b)
  | number {depth : ℕ} (n : Number) : Flawless depth (.number (.ok n))
  | text {depth : ℕ} (s : String) : Flawless depth (.text (.ok s))
  | list {depth : ℕ} {items : List Doc} (h : ∀ d ∈ items, Flawless (depth + 1) d) :
    Flawless (depth + 2) (.list items .closed)
  | object {depth : ℕ} {members : List (Except Fault String × Doc)}
    (hkeys : ∀ m ∈ members, ∃ k, m.1 = .ok k) (h : ∀ m ∈ members, Flawless (depth + 1) m.2) :
    Flawless (depth + 2) (.object members .closed)

theorem exists_toValues {depth : ℕ} {items : List Doc} :
    (∃ vs, toValues depth items = .ok vs) ↔ ∀ d ∈ items, ∃ v, d.toValue depth = .ok v := by
  induction items with
  | nil => exact iff_of_true ⟨[], rfl⟩ (List.forall_mem_nil _)
  | cons d items ih =>
    rw [List.forall_mem_cons, ← ih, toValues]
    constructor
    · rintro ⟨vs, h⟩
      obtain ⟨v, hv, h⟩ := exists_of_bind h
      obtain ⟨rest, hrest, -⟩ := exists_of_bind h
      exact ⟨⟨v, hv⟩, rest, hrest⟩
    · rintro ⟨⟨v, hv⟩, rest, hrest⟩
      rw [hv, hrest]
      exact ⟨v :: rest, rfl⟩

theorem exists_toEntries {depth : ℕ} {members : List (Except Fault String × Doc)}
    {read : List (String × Value)} :
    (∃ es, toEntries depth members read = .ok es) ↔
      ∀ m ∈ members, (∃ k, m.1 = .ok k) ∧ ∃ v, m.2.toValue depth = .ok v := by
  induction members generalizing read with
  | nil => exact iff_of_true ⟨read, rfl⟩ (List.forall_mem_nil _)
  | cons m members ih =>
    obtain ⟨key, d⟩ := m
    rw [List.forall_mem_cons, toEntries]
    constructor
    · rintro ⟨es, h⟩
      obtain ⟨k, hk, h⟩ := exists_of_bind h
      obtain ⟨v, hv, h⟩ := exists_of_bind h
      exact ⟨⟨⟨k, hk⟩, v, hv⟩, ih.1 ⟨es, h⟩⟩
    · rintro ⟨⟨⟨k, hk⟩, v, hv⟩, h⟩
      obtain rfl : key = .ok k := hk
      obtain ⟨es, hes⟩ := ih.2 h
      refine ⟨es, ?_⟩
      rw [hv]
      exact hes

theorem exists_toValue_list {depth : ℕ} {items : List Doc} {ending : ListEnd} :
    (∃ v, (list items ending).toValue depth = .ok v) ↔
      1 < depth ∧ ending = .closed ∧ ∀ d ∈ items, ∃ v, d.toValue (depth - 1) = .ok v := by
  rw [← exists_toValues, toValue]
  constructor
  · rintro ⟨v, h⟩
    split_ifs at h with hdepth
    obtain ⟨vs, hvs, h⟩ := exists_of_bind h
    cases ending with
    | closed => exact ⟨by omega, rfl, vs, hvs⟩
    | _ => cases h
  · rintro ⟨hdepth, rfl, vs, hvs⟩
    rw [if_neg (by omega), hvs]
    exact ⟨_, rfl⟩

theorem exists_toValue_object {depth : ℕ} {members : List (Except Fault String × Doc)}
    {ending : ObjectEnd} :
    (∃ v, (object members ending).toValue depth = .ok v) ↔
      1 < depth ∧ ending = .closed ∧
        ∀ m ∈ members, (∃ k, m.1 = .ok k) ∧ ∃ v, m.2.toValue (depth - 1) = .ok v := by
  have hentries : (∃ es, toEntries (depth - 1) members [] = .ok es) ↔ _ := exists_toEntries
  rw [← hentries, toValue]
  constructor
  · rintro ⟨v, h⟩
    split_ifs at h with hdepth
    obtain ⟨es, hes, h⟩ := exists_of_bind h
    cases ending with
    | closed => exact ⟨by omega, rfl, es, hes⟩
    | _ => cases h
  · rintro ⟨hdepth, rfl, es, hes⟩
    rw [if_neg (by omega), hes]
    exact ⟨_, rfl⟩

theorem flawless_list {depth : ℕ} {items : List Doc} {ending : ListEnd} :
    (list items ending).Flawless depth ↔
      1 < depth ∧ ending = .closed ∧ ∀ d ∈ items, d.Flawless (depth - 1) := by
  constructor
  · rintro (_ | _ | _ | _ | h | _)
    exact ⟨by omega, rfl, h⟩
  · rintro ⟨hdepth, rfl, h⟩
    obtain ⟨depth, rfl⟩ : ∃ n, depth = n + 2 := ⟨depth - 2, by omega⟩
    exact .list h

theorem flawless_object {depth : ℕ} {members : List (Except Fault String × Doc)}
    {ending : ObjectEnd} :
    (object members ending).Flawless depth ↔
      1 < depth ∧ ending = .closed ∧
        ∀ m ∈ members, (∃ k, m.1 = .ok k) ∧ m.2.Flawless (depth - 1) := by
  constructor
  · rintro (_ | _ | _ | _ | _ | ⟨hkeys, h⟩)
    exact ⟨by omega, rfl, fun m hm => ⟨hkeys m hm, h m hm⟩⟩
  · rintro ⟨hdepth, rfl, h⟩
    obtain ⟨depth, rfl⟩ : ∃ n, depth = n + 2 := ⟨depth - 2, by omega⟩
    exact .object (fun m hm => (h m hm).1) fun m hm => (h m hm).2

/-- A document can be read as a value just when it is flawless. -/
theorem exists_toValue (d : Doc) (depth : ℕ) :
    (∃ v, d.toValue depth = .ok v) ↔ d.Flawless depth := by
  match d with
  | .null => exact iff_of_true ⟨_, rfl⟩ .null
  | .bool b => exact iff_of_true ⟨_, rfl⟩ (.bool b)
  | .number (.ok n) => exact iff_of_true ⟨_, rfl⟩ (.number n)
  | .text (.ok s) => exact iff_of_true ⟨_, rfl⟩ (.text s)
  | .number (.error f) | .text (.error f) | .broken f _ | .garbled f _ =>
    exact iff_of_false nofun nofun
  | .list items ending =>
    rw [exists_toValue_list, flawless_list]
    have hparts : ∀ d ∈ items, (∃ v, d.toValue (depth - 1) = .ok v) ↔ d.Flawless (depth - 1) :=
      fun d hd => d.exists_toValue (depth - 1)
    exact and_congr_right fun _ => and_congr_right fun _ => forall₂_congr hparts
  | .object members ending =>
    rw [exists_toValue_object, flawless_object]
    have hparts : ∀ m ∈ members,
        (∃ v, m.2.toValue (depth - 1) = .ok v) ↔ m.2.Flawless (depth - 1) :=
      fun m hm => m.2.exists_toValue (depth - 1)
    exact and_congr_right fun _ => and_congr_right fun _ =>
      forall₂_congr fun m hm => and_congr_right fun _ => hparts m hm
termination_by sizeOf d
decreasing_by
  · have hlt := List.sizeOf_lt_of_mem hd
    simp only [list.sizeOf_spec]
    omega
  · have hlt := List.sizeOf_lt_of_mem hm
    obtain ⟨key, d⟩ := m
    simp only [object.sizeOf_spec, Prod.mk.sizeOf_spec] at hlt ⊢
    omega

end TokenTariff.Json.Doc
