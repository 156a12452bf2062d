import Mathlib
import TokenTariff.Proofs.Catalog.Rates

/-!
# Books read back

A book is written as three settings, one for each table. Reading looks at no other settings, so the
three may come in any order and among any others. What is read is the book that was written, down to
the last entry, with its numbers as their texts are read. If a table has an entry that is not
finite, JSON has no number for it, and no book is read.
-/

namespace TokenTariff

namespace FlatBook

def tablesIn (ss : List Setting) : List Setting :=
  ss.filter fun s => s.key = priceKey ∨ s.key = ratioKey ∨ s.key = completionKey

theorem foldlM_tablesIn (ss : List Setting) (b : FlatBook) :
    (tablesIn ss).foldlM readSetting b = ss.foldlM readSetting b := by
  induction ss generalizing b with
  | nil => rfl
  | cons s rest ih =>
    rw [tablesIn, List.filter_cons, List.foldlM_cons]
    split
    · rw [List.foldlM_cons]
      congr 1
      funext b'
      exact ih b'
    · rename_i hs
      have hother : ∀ i : Part, s.key ≠ i.key := by
        intro i
        cases i <;> simp_all [Part.key]
      rw [readSetting_of_other hother]
      exact ih b

/-- A book that is written, in any order and among any other settings, is read back exactly when its
numbers are. What is read of any other finite book differs in its numbers only. -/
theorem ofSettings_eq_iff_readsBack {b : FlatBook} {ss : List Setting}
    (h : (tablesIn ss).Perm b.toSettings) :
    (ofSettings ss = .ok b ↔ b.ReadsBack) ∧ (ofSettings ss = .ok b.reread ↔ b.Finite) := by
  have hunique : ((tablesIn ss).map (·.key)).Nodup :=
    (h.map _).nodup_iff.2 b.nodup_keys_toSettings
  have hsame : ofSettings (tablesIn ss) = ofSettings ss := foldlM_tablesIn ss {}
  have hread (hb : b.Finite) : ofSettings ss = .ok b.reread := by
    rw [← hsame]
    exact ofSettings_of_mem hunique hb fun i => h.mem_iff.2 (mem_toSettings.2 ⟨i, rfl⟩)
  rw [readsBack_iff]
  refine ⟨⟨fun hb => ?_, fun ⟨hb, hback⟩ => hback ▸ hread hb⟩, fun hb => ?_, hread⟩
  · have hfinite := finite_of_ofSettings hb
    exact ⟨hfinite, Except.ok.inj ((hread hfinite).symm.trans hb)⟩
  · exact finite_reread_iff.1 (finite_of_ofSettings hb)

/-- Names that need escapes, in tables that come in reverse between settings of one other key. -/
theorem ofSettings_of_scattered_tables :
    let b : FlatBook := (({} : FlatBook).revise "" { price := some 0.1 }).revise "\"\\\n\u0001é"
      { modelRatio := some 1e21, completionRatio := some 2.5e-7 }
    let ss : List Setting := [⟨"Notice", "["⟩, setting .completion b.completions,
      setting .ratio b.ratios, ⟨"Notice", ""⟩, setting .price b.prices]
    ((tablesIn ss).Perm b.toSettings ∧ b.ReadsBack) ∧ ofSettings ss = .ok b := by
  intro b ss
  have hperm : (tablesIn ss).Perm b.toSettings := List.reverse_perm b.toSettings
  have hback : b.ReadsBack := fun i => by cases i <;> decide +kernel
  exact ⟨⟨hperm, hback⟩, (ofSettings_eq_iff_readsBack hperm).1.2 hback⟩

end FlatBook

end TokenTariff
