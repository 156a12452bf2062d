import Mathlib
import TokenTariff.Proofs.Catalog.Rates
import TokenTariff.Proofs.Remote.Faulty

/-!
# What a store holds

A store in which no key occurs twice holds a book. Writing another book puts three settings, from
which that book is read again with its numbers as their texts are read; when only some of the writes
take effect, the store holds a mixture, each table being the old or the new one. Records and the
settings that belong to no book are left alone.
-/

namespace TokenTariff

open FlatBook

namespace Store

/-- The settings read as this book, and no key occurs twice. -/
structure Holds (st : Store) (b : FlatBook) : Prop where
  unique : (st.settings.map (·.key)).Nodup
  book : FlatBook.ofSettings st.settings = .ok b

def others (st : Store) : List Setting :=
  st.settings.filter fun s => s.key ≠ priceKey ∧ s.key ≠ ratioKey ∧ s.key ≠ completionKey

/-- The store has become one with these records and this book; its other settings are as before. -/
structure Becomes (st : Store) (records : Table TierRecord) (b : FlatBook) (st' : Store) :
    Prop where
  holds : st'.Holds b
  records : st'.records = records
  others : st'.others = st.others

theorem Holds.finite {st : Store} {b : FlatBook} (h : st.Holds b) : b.Finite :=
  finite_of_ofSettings h.book

theorem exists_holds {st : Store} (hunique : (st.settings.map (·.key)).Nodup)
    (hbook : (FlatBook.ofSettings st.settings).isOk = true) : ∃ b, st.Holds b := by
  cases h : FlatBook.ofSettings st.settings with
  | error e =>
    rw [h] at hbook
    cases hbook
  | ok b => exact ⟨b, hunique, h⟩

theorem Holds.unchanged {st : Store} {b : FlatBook} (h : st.Holds b) :
    st.Becomes st.records b st := ⟨h, rfl, rfl⟩

variable {st st' st'' : Store} {rs rs' : Table TierRecord} {b b' : FlatBook}

theorem Becomes.trans (h : st.Becomes rs b st') (h' : st'.Becomes rs' b' st'') :
    st.Becomes rs' b' st'' := ⟨h'.holds, h'.records, h'.others.trans h.others⟩

theorem Becomes.upsertRecord (h : st.Becomes rs b st') (r : TierRecord) :
    st.Becomes (rs.insert r.model r) b (st'.upsertRecord r) :=
  ⟨⟨h.holds.unique, h.holds.book⟩, congrArg (·.insert r.model r) h.records, h.others⟩

theorem Becomes.deleteRecord (h : st.Becomes rs b st') (model : String) :
    st.Becomes (rs.erase model) b (st'.deleteRecord model) :=
  ⟨⟨h.holds.unique, h.holds.book⟩, congrArg (·.erase model) h.records, h.others⟩

theorem Becomes.putSetting (h : st.Becomes rs b st') (i : Part) {t : Table Float}
    (ht : ∀ e ∈ t.entries, e.2.isFinite = true) :
    st.Becomes rs (b.set i (t.map Json.reread)) (st'.putSetting (setting i t)) := by
  refine ⟨⟨Setting.nodup_putIn _ h.holds.unique, ofSettings_putIn h.holds.unique h.holds.book i ht⟩,
    h.records, ?_⟩
  refine (Setting.filter_putIn (fun s hs => ?_) _).trans h.others
  rw [decide_eq_false_iff_not, hs]
  cases i <;> simp [setting, Part.key]

def write (b : FlatBook) (i : Part) : Access := .putSetting (setting i (b.table i))

/-- Some writes of a book: the tables written are the new ones as they are read again, the others
the old ones. -/
theorem Becomes.applyAll (h : st.Becomes rs b st') (hb' : b'.Finite) {as : List Access}
    (has : ∀ a ∈ as, ∃ i, a = write b' i) :
    ∃ b'', st.Becomes rs b'' (st'.applyAll as) ∧
      ∀ i, (write b' i ∈ as → b''.table i = b'.reread.table i) ∧
        (write b' i ∉ as → b''.table i = b.table i) := by
  induction as generalizing st' b with
  | nil => exact ⟨b, h, fun i => ⟨fun hi => absurd hi List.not_mem_nil, fun _ => rfl⟩⟩
  | cons a as ih =>
    obtain ⟨⟨i, rfl⟩, hrest⟩ := List.forall_mem_cons.1 has
    obtain ⟨b'', hbecomes, hmix⟩ := ih (h.putSetting i (hb' i)) hrest
    refine ⟨b'', hbecomes, fun j => ⟨fun hj => ?_, fun hj => ?_⟩⟩
    · by_cases hmem : write b' j ∈ as
      · exact (hmix j).1 hmem
      · have hij : i = j := by
          rcases List.mem_cons.1 hj with hj | hj
          · simp only [write, Access.putSetting.injEq] at hj
            exact (Part.key_injective (congrArg Setting.key hj)).symm
          · exact absurd hj hmem
        rw [(hmix j).2 hmem, table_set, if_pos hij, hij, table_reread]
    · rw [List.mem_cons, not_or] at hj
      have hij : i ≠ j := fun hij => hj.1 (hij ▸ rfl)
      rw [(hmix j).2 hj.2, table_set, if_neg hij]

theorem mem_accesses_putSettings {a : Access} :
    a ∈ (Call.putSettings b.toSettings).accesses ↔ ∃ i, a = write b i := by
  simp only [Call.accesses, List.mem_map, mem_toSettings]
  constructor
  · rintro ⟨s, ⟨i, rfl⟩, rfl⟩
    exact ⟨i, rfl⟩
  · rintro ⟨i, rfl⟩
    exact ⟨_, ⟨i, rfl⟩, rfl⟩

theorem Becomes.mixed (h : st.Becomes rs b st') (hb' : b'.Finite)
    {as : List Access} (has : as.Subperm (Call.putSettings b'.toSettings).accesses) :
    ∃ b'', b.Mixed b'.reread b'' ∧ st.Becomes rs b'' (st'.applyAll as) := by
  obtain ⟨b'', hbecomes, hmix⟩ := h.applyAll hb' fun a ha =>
    mem_accesses_putSettings.1 (has.subset ha)
  refine ⟨b'', fun i => ?_, hbecomes⟩
  by_cases hi : write b' i ∈ as
  · exact .inr ((hmix i).1 hi)
  · exact .inl ((hmix i).2 hi)

theorem Becomes.written (h : st.Becomes rs b st') (hb' : b'.Finite)
    {as : List Access} (has : as.Perm (Call.putSettings b'.toSettings).accesses) :
    st.Becomes rs b'.reread (st'.applyAll as) := by
  obtain ⟨b'', hbecomes, hmix⟩ := h.applyAll hb' fun a ha =>
    mem_accesses_putSettings.1 (has.subset ha)
  have hb'' : b'' = b'.reread := ext_table fun i =>
    (hmix i).1 (has.mem_iff.2 (mem_accesses_putSettings.2 ⟨i, rfl⟩))
  exact hb'' ▸ hbecomes

/-- A store to which a book has been written holds it as its texts are read. -/
theorem holds_toSettings (hb : b.Finite) (rs : Table TierRecord) :
    (⟨b.toSettings, rs⟩ : Store).Holds b.reread :=
  ⟨b.nodup_keys_toSettings, ofSettings_of_mem b.nodup_keys_toSettings hb fun i =>
    mem_toSettings.2 ⟨i, rfl⟩⟩

theorem holds_of_readsBack (hb : b.ReadsBack) (rs : Table TierRecord) :
    (⟨b.toSettings, rs⟩ : Store).Holds b := by
  have h := holds_toSettings (readsBack_iff.1 hb).1 rs
  rwa [hb.reread_eq] at h

end Store

namespace Session

variable {ε : Type} {E : RemoteError → Prop} {failed : RemoteError → ε} {st : Store}
  {rs : Table TierRecord} {b b' : FlatBook}

theorem ends_putSettings {Q : Except ε Unit → Store → Prop} (h : st.Holds b) (hb' : b'.Finite)
    (hok : ∀ st', st.Becomes st.records b'.reread st' → Q (.ok ()) st')
    (hno : ∀ e b'' st', E e → b.Mixed b'.reread b'' → st.Becomes st.records b'' st' →
      Q (.error (failed e)) st') : (ask (.putSettings b'.toSettings)).Ends E failed Q st := by
  constructor
  · exact fun as has => hok _ (h.unchanged.written hb' has)
  · intro e as he has
    obtain ⟨b'', hmix, hbecomes⟩ := h.unchanged.mixed hb' has
    exact hno e b'' _ he hmix hbecomes

end Session

end TokenTariff
