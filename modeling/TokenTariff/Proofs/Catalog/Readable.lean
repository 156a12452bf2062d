import Mathlib
import TokenTariff.Proofs.Catalog.Settings

/-!
# Settings that can be read

A table is read from a blank text or from one that is a JSON object of numbers, and from no other.
Settings make up a book just when every one of them that stands at the key of a table can be read,
also those that a later setting displaces.
-/

namespace TokenTariff

open Json

namespace FlatBook

/-- The text is blank, or one JSON object in which every member is a number. -/
def IsTableText (text : String) : Prop :=
  isBlank text = true ∨ ∃ ns : List (String × Number),
    Doc.ofText text = (.object (ns.map fun n => (.ok n.1, .number (.ok n.2))) .closed, false)

theorem member_real_iff {src : Source} {m : Except Fault String × Doc} :
    (∃ e, Reader.member Reader.real src m = .ok e) ↔
      ∃ n : String × Number, m = (.ok n.1, .number (.ok n.2)) := by
  constructor
  · rintro ⟨e, he⟩
    obtain ⟨k, d⟩ := m
    cases k with
    | error f => cases he
    | ok k =>
      cases d with
      | number n =>
        cases n with
        | error f => cases he
        | ok n => exact ⟨(k, n), rfl⟩
      | _ => cases he
  · rintro ⟨n, rfl⟩
    exact ⟨_, rfl⟩

theorem mapM_real_iff (src : Source) {ms : List (Except Fault String × Doc)} :
    (∃ es, ms.mapM (Reader.member Reader.real src) = .ok es) ↔
      ∃ ns : List (String × Number), ms = ns.map fun n => (.ok n.1, .number (.ok n.2)) := by
  induction ms with
  | nil => exact ⟨fun _ => ⟨[], rfl⟩, fun _ => ⟨[], rfl⟩⟩
  | cons m ms ih =>
    rw [List.mapM_cons]
    constructor
    · rintro ⟨es, hes⟩
      obtain ⟨e, hm, hes⟩ := exists_of_bind hes
      obtain ⟨rest, hms, -⟩ := exists_of_bind hes
      obtain ⟨n, rfl⟩ := member_real_iff.1 ⟨e, hm⟩
      obtain ⟨ns, rfl⟩ := ih.1 ⟨rest, hms⟩
      exact ⟨n :: ns, rfl⟩
    · rintro ⟨_ | ⟨n, ns⟩, hns⟩
      · cases hns
      · obtain ⟨rfl, rfl⟩ := List.cons.inj hns
        obtain ⟨rest, hrest⟩ := ih.2 ⟨ns, rfl⟩
        exact ⟨_, by rw [hrest]; rfl⟩

theorem members_real_iff {src : Source} {d : Doc} :
    (∃ es, Reader.members Reader.real src d = .ok es) ↔
      ∃ ns : List (String × Number),
        d = .object (ns.map fun n => (.ok n.1, .number (.ok n.2))) .closed := by
  cases d with
  | object ms ending =>
    constructor
    · rintro ⟨es, hes⟩
      obtain ⟨es', hms, hend⟩ := exists_of_bind hes
      obtain ⟨ns, rfl⟩ := (mapM_real_iff src).1 ⟨es', hms⟩
      cases ending with
      | closed => exact ⟨ns, rfl⟩
      | _ => cases hend
    · rintro ⟨ns, hns⟩
      obtain ⟨rfl, rfl⟩ := Doc.object.inj hns
      obtain ⟨es, hes⟩ := (mapM_real_iff src).2 ⟨ns, rfl⟩
      refine ⟨es, ?_⟩
      rw [Reader.members, hes]
      rfl
  | _ =>
    constructor
    · rintro ⟨es, hes⟩
      cases hes
    · rintro ⟨ns, hns⟩
      cases hns

/-- A text is read when its document is and nothing follows it. -/
theorem parse_iff {α : Type} (r : Reader α) (text : String) :
    (∃ a, r.parse text = .ok a) ↔
      (∃ a, r .text (Doc.ofText text).1 = .ok a) ∧ (Doc.ofText text).2 = false := by
  simp only [Reader.parse, Reader.alone_iff, exists_and_right]

theorem parse_real_iff (text : String) :
    (∃ t, (Reader.table Reader.real).parse text = .ok t) ↔ ∃ ns : List (String × Number),
      Doc.ofText text =
        (.object (ns.map fun n => (.ok n.1, .number (.ok n.2))) .closed, false) := by
  have htable : (∃ t, Reader.table Reader.real .text (Doc.ofText text).1 = .ok t) ↔
      ∃ es, Reader.members Reader.real .text (Doc.ofText text).1 = .ok es := by
    rw [Reader.table, Reader.map]
    cases Reader.members Reader.real .text (Doc.ofText text).1 <;> simp [Except.map]
  rw [parse_iff, htable, members_real_iff, exists_and_right.symm]
  simp only [Prod.ext_iff]

/-- A table is read from a table's text and from no other. -/
theorem readTable_iff (key text : String) :
    (∃ t, readTable key text = .ok t) ↔ IsTableText text := by
  unfold readTable IsTableText
  rw [← parse_real_iff]
  by_cases hblank : isBlank text = true
  · rw [if_pos hblank]
    exact ⟨fun _ => .inl hblank, fun _ => ⟨∅, rfl⟩⟩
  · rw [if_neg hblank, or_iff_right hblank]
    cases (Reader.table Reader.real).parse text <;> simp

/-- Settings make up a book just when all that hold a table can be read. -/
theorem ofSettings_ok_iff (settings : List Setting) :
    (∃ b, ofSettings settings = .ok b) ↔
      ∀ s ∈ settings, (∃ i : Part, s.key = i.key) → IsTableText s.value := by
  unfold ofSettings
  generalize ({} : FlatBook) = b₀
  induction settings generalizing b₀ with
  | nil => exact ⟨fun _ => List.forall_mem_nil _, fun _ => ⟨b₀, rfl⟩⟩
  | cons s rest ih =>
    rw [List.foldlM_cons, List.forall_mem_cons]
    by_cases hkey : ∃ i : Part, s.key = i.key
    · obtain ⟨i, hi⟩ := hkey
      rw [readSetting_of_key hi, ← readTable_iff i.key]
      cases ht : readTable i.key s.value with
      | error c =>
        constructor
        · rintro ⟨b, hb⟩
          cases hb
        · rintro ⟨hs, -⟩
          obtain ⟨t, ht⟩ := hs ⟨i, hi⟩
          cases ht
      | ok t =>
        exact (ih (b₀.set i t)).trans (and_iff_right fun _ => ⟨t, rfl⟩).symm
    · rw [readSetting_of_other fun i hi => hkey ⟨i, hi⟩]
      exact (ih b₀).trans (and_iff_right fun h => absurd h hkey).symm

end FlatBook

end TokenTariff
