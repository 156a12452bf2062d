import Mathlib
import TokenTariff.Json.Reader
import TokenTariff.Proofs.Json.FiniteNumbers
import TokenTariff.Proofs.Tables

/-!
# What readers give

What a reader gives is known from what it gives of the parts of a document. For the readers that are
put together from others this is one rule for each way of putting together; a record is read field
by field, so a property of the blank record that all fields keep is one of every record read. The
documents are those of finite numbers, as all documents of texts are.
-/

namespace TokenTariff.Json

/-- A result that took two steps. -/
theorem exists_of_bind {ε α β : Type} {x : Except ε α} {f : α → Except ε β} {b : β}
    (h : x >>= f = .ok b) : ∃ a, x = .ok a ∧ f a = .ok b := by
  cases x with
  | error e => cases h
  | ok a => exact ⟨a, rfl, h⟩

theorem exists_of_map {ε α β : Type} {x : Except ε α} {f : α → β} {b : β}
    (h : x.map f = .ok b) : ∃ a, x = .ok a ∧ f a = b := by
  cases x with
  | error e => cases h
  | ok a => exact ⟨a, rfl, Except.ok.inj h⟩

theorem eq_ok_of_toOption {ε α : Type} {x : Except ε α} {a : α} (h : x.toOption = some a) :
    x = .ok a := by
  cases x with
  | error e => cases h
  | ok b => exact congrArg Except.ok (Option.some.inj h)

section Traversals

variable {ε α β γ : Type} {f : α → Except ε β} {xs : List α} {ys : List β}

/-- A traversal gives the results of its steps. -/
theorem mapM_iff : xs.mapM f = .ok ys ↔ List.Forall₂ (fun x y => f x = .ok y) xs ys := by
  induction xs generalizing ys with
  | nil =>
    rw [List.forall₂_nil_left_iff]
    exact ⟨fun h => (Except.ok.inj h).symm, fun h => h ▸ rfl⟩
  | cons x xs ih =>
    rw [List.mapM_cons, List.forall₂_cons_left_iff]
    constructor
    · intro h
      obtain ⟨y, hy, h⟩ := exists_of_bind h
      obtain ⟨rest, hrest, h⟩ := exists_of_bind h
      exact ⟨y, rest, hy, ih.1 hrest, (Except.ok.inj h).symm⟩
    · rintro ⟨y, rest, hy, hrest, rfl⟩
      rw [hy, ih.2 hrest]
      rfl

/-- Every result of a traversal comes from one of its steps. -/
theorem exists_mem_of_mapM (h : xs.mapM f = .ok ys) : ∀ y ∈ ys, ∃ x ∈ xs, f x = .ok y := by
  have hsteps := mapM_iff.1 h
  clear h
  induction hsteps with
  | nil => exact List.forall_mem_nil _
  | cons hx _ ih =>
    refine List.forall_mem_cons.2 ⟨⟨_, List.mem_cons_self, hx⟩, fun y hy => ?_⟩
    obtain ⟨x, hmem, hfx⟩ := ih y hy
    exact ⟨x, List.mem_cons_of_mem _ hmem, hfx⟩

/-- Every step of a traversal that gives a result gave one. -/
theorem exists_of_mapM (h : xs.mapM f = .ok ys) : ∀ x ∈ xs, ∃ y, f x = .ok y := by
  have hsteps := mapM_iff.1 h
  clear h
  induction hsteps with
  | nil => exact List.forall_mem_nil _
  | cons hx _ ih => exact List.forall_mem_cons.2 ⟨⟨_, hx⟩, ih⟩

/-- What is known of each step is known of the traversal. -/
theorem mapM_map {write : γ → α} {g : γ → β} {zs : List γ} (h : ∀ z ∈ zs, f (write z) = .ok (g z)) :
    (zs.map write).mapM f = .ok (zs.map g) := by
  rw [mapM_iff, List.forall₂_map_left_iff, List.forall₂_map_right_iff, List.forall₂_same]
  exact h

end Traversals

namespace Reader

variable {α β : Type} {r : Reader α} {P : α → Prop} {Q : β → Prop}

theorem alone_iff {out : Doc × Bool} {x : α} :
    r.alone out = .ok x ↔ r .text out.1 = .ok x ∧ out.2 = false := by
  obtain ⟨d, more⟩ := out
  rw [alone]
  cases r .text d with
  | error f => simp
  | ok a => cases more <;> simp

/-- A text with nothing behind its document is read as the document. -/
theorem parse_eq {text : String} {d : Doc} (h : Doc.ofText text = (d, false)) (r : Reader α) :
    r.parse text = r .text d := by
  rw [parse, h, alone]
  cases r .text d <;> rfl

/-- An optional part is read from `null`, or as the part itself. -/
theorem optional_iff {src : Source} {d : Doc} :
    (∃ x, optional r src d = .ok x) ↔ d = .null ∨ ∃ x, r src d = .ok x := by
  have hsome : (∃ x, (r src d).map some = .ok x) ↔ ∃ x, r src d = .ok x := by
    cases r src d <;> simp [Except.map]
  cases d with
  | null => exact iff_of_true ⟨none, rfl⟩ (.inl rfl)
  | _ => exact hsome.trans (by simp)

/-- Whatever is read from a document of finite numbers has the property. -/
def Gives (r : Reader α) (P : α → Prop) : Prop :=
  ∀ src d x, Doc.AllFinite d → r src d = .ok x → P x

theorem Gives.map (h : r.Gives P) {f : α → β} (hf : ∀ x, P x → Q (f x)) : (r.map f).Gives Q := by
  intro src d y hd hy
  obtain ⟨x, hx, rfl⟩ := exists_of_map hy
  exact hf x (h src d x hd hx)

theorem items_map {γ : Type} {xs : List γ} {item : γ → Doc} {g : γ → α} {src : Source}
    (h : ∀ x ∈ xs, r src (item x) = .ok (g x)) :
    items r src (.list (xs.map item) .closed) = .ok (xs.map g) := by
  rw [items, mapM_map h]
  rfl

theorem members_map {γ : Type} {xs : List γ} {m : γ → Except Fault String × Doc}
    {g : γ → String × α} {src : Source} (h : ∀ x ∈ xs, member r src (m x) = .ok (g x)) :
    members r src (.object (xs.map m) .closed) = .ok (xs.map g) := by
  rw [members, mapM_map h]
  rfl

theorem gives_real : real.Gives fun x => x.isFinite = true := by
  intro src d x hd hx
  unfold real at hx
  split at hx
  · cases hx
    exact hd.finite _ rfl
  · cases hx

theorem Gives.optional (h : r.Gives P) : (optional r).Gives fun x => ∀ y, x = some y → P y := by
  intro src d x hd hx
  cases d with
  | null =>
    cases hx
    nofun
  | _ =>
    obtain ⟨y, hy, rfl⟩ := exists_of_map hx
    rintro _ ⟨⟩
    exact h src _ y hd hy

theorem Gives.items (h : r.Gives P) : (items r).Gives fun xs => ∀ x ∈ xs, P x := by
  intro src d xs hd hxs
  cases d with
  | list ds ending =>
    obtain ⟨ys, hys, hxs⟩ := exists_of_bind hxs
    split at hxs
    · cases hxs
    · cases hxs
      intro x hx
      obtain ⟨d, hmem, hdx⟩ := exists_mem_of_mapM hys x hx
      exact h src d x (hd.item hmem) hdx
  | _ => cases hxs

theorem Gives.members (h : r.Gives P) : (members r).Gives fun es => ∀ e ∈ es, P e.2 := by
  intro src d es hd hes
  cases d with
  | object ms ending =>
    obtain ⟨es', hes', hes⟩ := exists_of_bind hes
    split at hes
    · cases hes
    · cases hes
      intro e he
      obtain ⟨m, hmem, hme⟩ := exists_mem_of_mapM hes' e he
      obtain ⟨k, -, hme⟩ := exists_of_bind hme
      obtain ⟨x, hx, hme⟩ := exists_of_bind hme
      cases hme
      exact h src m.2 x (hd.member hmem) hx
  | _ => cases hes

theorem Gives.table (h : r.Gives P) : (table r).Gives fun t => ∀ e ∈ t.entries, P e.2 :=
  h.members.map fun _ hes e he => hes e (Table.mem_ofList_entries he)

/-- The reader gives the data for some part of the document of some text. -/
def Decodes (r : Reader α) (x : α) : Prop :=
  ∃ s src d, Doc.IsPart d (Doc.ofText s).1 ∧ r src d = .ok x

theorem decodes_of_parse {s : String} {x : α} (h : (r.parse s).toOption = some x) : r.Decodes x :=
  ⟨s, .text, _, .itself, (alone_iff.1 (eq_ok_of_toOption h)).1⟩

theorem Gives.decodes (h : r.Gives P) {x : α} (hx : r.Decodes x) : P x := by
  obtain ⟨s, src, d, hd, hx⟩ := hx
  exact h src d x ((allFinite_ofText s).part hd) hx

theorem gives_true (r : Reader α) : r.Gives fun _ => True := fun _ _ _ _ _ => trivial

theorem Gives.parse (h : r.Gives P) {s : String} {x : α} (hx : r.parse s = .ok x) : P x :=
  h .text _ x (allFinite_ofText s) (alone_iff.1 hx).1

end Reader

/-- A table of reals that is read from a text is finite. -/
theorem isFinite_of_parse {s : String} {t : Table Float}
    (h : (Reader.table Reader.real).parse s = .ok t) : ∀ e ∈ t.entries, e.2.isFinite = true :=
  Reader.gives_real.table.parse h

namespace Shape

variable {ρ : Type} {s : Shape ρ} {src : Source} {P : ρ → Prop}
  (hfields : ∀ f ∈ s.fields, f.read.Gives fun set => ∀ r, P r → P (set r))

include hfields

theorem readMembers_keeps {ms : List (Except Fault String × Doc)} (hms : ∀ m ∈ ms, m.2.AllFinite)
    {r r' : ρ} {seen seen' : List String} (hr : P r)
    (h : s.readMembers src ms r seen = .ok (r', seen')) : P r' := by
  induction ms generalizing r seen with
  | nil =>
    cases h
    exact hr
  | cons m ms ih =>
    obtain ⟨hm, hrest⟩ := List.forall_mem_cons.1 hms
    obtain ⟨k, -, h⟩ := exists_of_bind h
    split at h
    · split at h
      · cases h
      · exact ih hrest hr h
    · rename_i field hfield
      split at h
      · cases h
      · obtain ⟨set, hset, h⟩ := exists_of_bind h
        have hmem := List.mem_of_find?_eq_some hfield
        exact ih hrest (hfields field hmem src m.2 set hm hset r hr) h

theorem readItems_keeps {ending : ListEnd} {fields : List (Field ρ)}
    (hsub : ∀ f ∈ fields, f ∈ s.fields) {ds : List Doc} (hds : ∀ d ∈ ds, d.AllFinite) {i : ℕ}
    {r r' : ρ} {rest : List Doc} (hr : P r)
    (h : s.readItems src ending fields i ds r = .ok (r', rest)) : P r' := by
  induction fields generalizing i ds r with
  | nil =>
    cases h
    exact hr
  | cons field fields ih =>
    obtain ⟨hmem, hsub⟩ := List.forall_mem_cons.1 hsub
    cases ds with
    | nil =>
      rw [readItems] at h
      split at h
      · cases h
      · split at h
        · exact ih hsub hds hr h
        · cases h
    | cons d ds =>
      obtain ⟨hd, hds⟩ := List.forall_mem_cons.1 hds
      obtain ⟨set, hset, h⟩ := exists_of_bind h
      exact ih hsub hds (hfields field hmem src d set hd hset r hr) h

/-- What holds of the blank record and is kept by all fields holds of every record read. -/
theorem reader_gives (hblank : P s.blank) : s.reader.Gives P := by
  intro src d r hd hr
  cases d with
  | object ms ending =>
    obtain ⟨⟨r', seen⟩, hread, hr⟩ := exists_of_bind hr
    have hkeeps := readMembers_keeps hfields (fun m hm => hd.member hm) hblank hread
    dsimp only at hr
    split at hr
    · cases hr
    · split at hr
      · cases hr
      · cases hr
        exact hkeeps
  | list ds ending =>
    obtain ⟨⟨r', rest⟩, hread, hr⟩ := exists_of_bind hr
    have hkeeps := readItems_keeps hfields (fun f hf => hf) (fun d hd' => hd.item hd') hblank hread
    dsimp only at hr
    split at hr
    · cases hr
    · cases hr
      exact hkeeps
  | _ => cases hr

end Shape

end TokenTariff.Json
