import Mathlib
import TokenTariff.Proofs.Registry.Steps

/-!
# Changes spare other models

A change of one model, complete or cut short anywhere, leaves the record of every other model as it
was, and of its entries in the tables none comes or goes. A number in a table that is written is
what its text is read as, so it stays when it reads back. Settings that belong to no book stay, and
the tables can still be read, so that loading later fails only when one of its own calls fails.
-/

namespace TokenTariff

namespace Store

/-- Of every model but the ones that changed the store has the same record and the same entries, the
numbers being the old ones or what their texts are read as; it still holds a book, and its other
settings are the same. -/
structure Spares (st : Store) (b : FlatBook) (changed : String → Prop) (st' : Store)
    (b' : FlatBook) : Prop where
  holds : st'.Holds b'
  others : st'.others = st.others
  records : ∀ model, ¬changed model → st'.records.get? model = st.records.get? model
  fields : ∀ model, ¬changed model → ∀ i, (b'.rate model).field i = (b.rate model).field i ∨
    (b'.rate model).field i = ((b.rate model).field i).map Json.reread

variable {st st' : Store} {b b' : FlatBook}

theorem Holds.spares (h : st.Holds b) (changed : String → Prop) : st.Spares b changed st b :=
  ⟨h, rfl, fun _ _ => rfl, fun _ _ _ => .inl rfl⟩

theorem Spares.rate {changed : String → Prop} {model : String} (h : st.Spares b changed st' b')
    (hm : ¬changed model) (hback : (b.rate model).ReadsBack) : b'.rate model = b.rate model := by
  apply FlatRate.ext_field
  intro i
  rcases h.fields model hm i with hi | hi
  · exact hi
  · rw [hi, hback.field i]

theorem Spares.contains {changed : String → Prop} {model : String}
    (h : st.Spares b changed st' b') (hm : ¬changed model) :
    b'.contains model = b.contains model := by
  have hfield (i : FlatBook.Part) :
      ((b'.rate model).field i).isSome = ((b.rate model).field i).isSome := by
    rcases h.fields model hm i with hi | hi <;> rw [hi]
    exact Option.isSome_map
  exact congrArg₂ (· || ·) (hfield .price) (hfield .ratio)

/-- What the tables show of a model stays when it is what its texts are read as. -/
theorem Spares.tariff? {changed : String → Prop} {model : String}
    (h : st.Spares b changed st' b') (hm : ¬changed model)
    (hsettled : (b.tariff? model).map Tariff.settled = b.tariff? model) :
    b'.tariff? model = b.tariff? model := by
  unfold FlatBook.tariff? at hsettled ⊢
  rw [h.contains hm]
  split
  · rename_i hc
    rw [if_pos hc, Option.map_some, Option.some_inj] at hsettled
    have hrate : (b.rate model).reread = b.rate model :=
      Plan.flat.inj (congrArg Tariff.plan hsettled)
    have hsame : b'.rate model = b.rate model := by
      apply FlatRate.ext_field
      intro i
      rcases h.fields model hm i with hi | hi
      · exact hi
      · rw [hi, ← FlatRate.field_reread, hrate]
    rw [hsame]
  · rfl

/-- A model's record is set and its entries are revised in part. -/
theorem Becomes.spares {rs : Table TierRecord} {model : String} {r : FlatRate}
    (h : st.Becomes rs b' st') (hmix : b.Mixed (b.revise model r).reread b')
    (hrs : rs = st.records ∨ ∃ v, rs = st.records.put model v) :
    st.Spares b (some model = some ·) st' b' := by
  refine ⟨h.holds, h.others, fun model' hne => ?_, fun model' hne =>
    hmix.field_of_ne fun heq => hne (congrArg some heq)⟩
  rw [h.records]
  rcases hrs with rfl | ⟨v, rfl⟩
  · rfl
  · rw [Table.get?_put, if_neg fun heq => hne (congrArg some heq)]

theorem Saving.spares {t : Tariff} (h : st.Saving b t st') :
    ∃ b', st.Spares b (some t.model = some ·) st' b' := by
  obtain ⟨b', hmix, ⟨hst', -⟩ | ⟨hst', -⟩⟩ := h
  · exact ⟨b', hst'.spares hmix (.inl rfl)⟩
  · exact ⟨b', hst'.spares hmix (.inr ⟨_, rfl⟩)⟩

theorem Deleting.spares {model : String} (h : st.Deleting b model st') :
    ∃ b', st.Spares b (some model = some ·) st' b' := by
  obtain ⟨rs, b', hrs, hmix, -, hst'⟩ := h
  exact ⟨b', hst'.spares (r := {}) hmix (hrs.imp_right fun h => ⟨none, h⟩)⟩

theorem Interrupted.spares {op : Operation} (h : st.Holds b) (hst' : st.Interrupted b op st') :
    ∃ b', st.Spares b (op.model? = some ·) st' b' := by
  cases op with
  | refresh =>
    obtain rfl : st' = st := hst'
    exact ⟨b, h.spares _⟩
  | save t => exact Saving.spares hst'
  | delete model => exact Deleting.spares hst'

end Store

namespace Service

variable {s : Service Faulty} {b : FlatBook}

theorem exists_spares (h : s.remote.store.Holds b) (now : String) (op : Operation) :
    ∃ b', s.remote.store.Spares b (op.model? = some ·)
      (s.perform Faulty.backend now op).2.remote.store b' :=
  ((step_perform h now op).interrupted h).spares h

/-- A change spares the other models, whichever of its calls fail and whatever of a failed call took
effect: those whose numbers read back keep their entries as they are. It is never the reason why
loading fails later. -/
theorem perform_spares (h : s.remote.store.Holds b) (now : String) (op : Operation) :
    (∃ b', s.remote.store.Spares b (op.model? = some ·)
      (s.perform Faulty.backend now op).2.remote.store b' ∧
      ∀ model, op.model? ≠ some model → (b.rate model).ReadsBack →
        b'.rate model = b.rate model) ∧
    ∀ (s' : Service Faulty) (now' : String) (e : RemoteError),
      s'.remote.store = (s.perform Faulty.backend now op).2.remote.store →
        (s'.refresh Faulty.backend now').1 = .error e →
          ∃ f ∈ s'.remote.script, f.error = some e := by
  obtain ⟨b', hspares⟩ := exists_spares h now op
  exact ⟨⟨b', hspares, fun _ => hspares.rate⟩,
    fun s' _ _ hst he => error_of_refresh (hst ▸ hspares.holds) he⟩

/-- A save of one model that fails at its second call spares the price of another. -/
theorem spares_price_of_failed_save :
    let b : FlatBook := ({} : FlatBook).revise "a" { price := some 1.5 }
    let st : Store := ⟨b.toSettings, ∅⟩
    let s : Service Faulty := ⟨{}, st, [.served, .failed .transport fun _ => false]⟩
    let t : Tariff := .flat "m" { modelRatio := some 2.0 }
    (st.Holds b ∧ (b.rate "a").ReadsBack) ∧ ∃ b', st.Spares b (some "m" = some ·)
      (s.perform Faulty.backend "" (.save t)).2.remote.store b' ∧
        b'.rate "a" = { price := some 1.5 } := by
  intro b st s t
  have hback : b.ReadsBack := fun i => by cases i <;> decide +kernel
  have h : st.Holds b := Store.holds_of_readsBack hback ∅
  obtain ⟨b', hspares, hrate⟩ := (perform_spares (s := s) h "" (.save t)).1
  exact ⟨⟨h, hback.rate "a"⟩, b', hspares, hrate "a" (by decide) (hback.rate "a")⟩

end Service

end TokenTariff
