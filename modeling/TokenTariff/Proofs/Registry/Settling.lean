import Mathlib
import TokenTariff.Proofs.Registry.Isolation
import TokenTariff.Proofs.Registry.CrashSafety

/-!
# Saved tariffs

A save writes one place and clears the other, whatever it finds in them. When no call fails, the
model is afterwards in exactly one of the two, the registry shows the tariff that was saved, and
every other model is billed as loading the store before the save would have it. Where the save
writes the tables, flat rates are what their texts are read as, those of other models too.
-/

namespace TokenTariff

open Json

namespace Store

variable {st st' : Store} {b : FlatBook} {t : Tariff}

/-- A model that has been saved has a record or else entries that count. -/
theorem Saved.contains (h : st.Saved b t st') (ht : t.check = .ok ()) :
    st'.records.contains t.model = decide (t.kind = .tiered) ∧
      (b.saved t).contains t.model = decide (t.kind = .flat) := by
  have hrecords : st'.records.contains t.model = (TierRecord.ofTariff? t).isSome := by
    rw [Becomes.records h, Table.contains, Table.get?_put, if_pos rfl]
  rw [hrecords, FlatBook.contains_eq_isSet, FlatBook.rate_saved, t.rate_settled,
    FlatRate.isSet_reread]
  obtain ⟨m, e, r | ts⟩ := t
  · obtain ⟨hset, -, -⟩ := Tariff.isSet_of_check ht rfl
    exact ⟨rfl, r.isSet_plain.trans hset⟩
  · exact ⟨rfl, rfl⟩

end Store

namespace Service

variable {s s' : Service Faulty} {b : FlatBook} {t : Tariff} {now : String}

/-- The models other than the one that was saved show what they showed, but for the numbers of the
tables that were written. -/
theorem get?_of_saved (h : s.remote.store.Holds b)
    (hown : TierRecord.OwnNames s.remote.store.records)
    (hst : s.remote.store.Saved b t s'.remote.store)
    (hlisted : s' = listed s'.remote (b.saved t) now) {model : String} (hne : model ≠ t.model) :
    s'.registry.get? model =
      if b.Written t then ((s.remote.store.loaded now).get? model).map Tariff.settled
      else (s.remote.store.loaded now).get? model := by
  have htariffs := congrArg (·.registry.tariffs) hlisted
  rw [Registry.get?_of_listing (hst.saving.ownNames hown) htariffs,
    Registry.get?_of_listing hown (h.loaded now), Store.Becomes.records hst]
  exact shown?_saved_of_ne _ b hne.symm

theorem get?_of_saved_readsBack (h : s.remote.store.Holds b)
    (hown : TierRecord.OwnNames s.remote.store.records)
    (hst : s.remote.store.Saved b t s'.remote.store)
    (hlisted : s' = listed s'.remote (b.saved t) now) {model : String} (hne : model ≠ t.model)
    (hback : b.Written t → (b.rate model).ReadsBack) :
    s'.registry.get? model = (s.remote.store.loaded now).get? model := by
  have htariffs := congrArg (·.registry.tariffs) hlisted
  rw [Registry.get?_of_listing (hst.saving.ownNames hown) htariffs,
    Registry.get?_of_listing hown (h.loaded now)]
  apply shown?_of_ne
  · rw [Store.Becomes.records hst, Table.get?_put, if_neg hne.symm]
  · rw [FlatBook.rate_saved_of_ne hne.symm]
    split
    · rename_i hw
      exact (hback hw).reread_eq
    · rfl

/-- The model that was saved shows what was saved. -/
theorem get?_model_of_saved (hown : TierRecord.OwnNames s.remote.store.records)
    (ht : t.check = .ok ()) (hst : s.remote.store.Saved b t s'.remote.store)
    (hlisted : s' = listed s'.remote (b.saved t) now) :
    s'.registry.get? t.model = some t.settled.canon := by
  rw [Registry.get?_of_listing (hst.saving.ownNames hown) (congrArg (·.registry.tariffs) hlisted),
    Store.Becomes.records hst]
  exact shown?_saved ht s.remote.store.records FlatBook.rate_saved

/-- A save that no call cuts short settles its model, whatever was in the store: the registry shows
the tariff as it was saved and bills by it, the model is in one place only, and the other models are
billed as loading before the save would have had them. All this is up to the numbers of the tables
that are written, which are what their texts are read as, and exact for those that read back. -/
theorem save_settles (h : s.remote.store.Holds b)
    (hown : TierRecord.OwnNames s.remote.store.records) (ht : t.check = .ok ())
    (hserved : ∀ f ∈ s.remote.script, f.error = none) (now : String) :
    let s' := (s.save Faulty.backend now t).2
    (s.save Faulty.backend now t).1 = .ok t.settled.canon ∧
      s'.registry.get? t.model = some t.settled.canon ∧
      (∀ input output, s'.registry.resolve t.model input output =
        if t.enabled then (t.settled.charge input output).mapError .pricing
        else .error (.disabled t.model)) ∧
      (t.rate.ReadsBack → t.settled.canon = t.canon ∧
        ∀ input output, t.settled.charge input output = t.charge input output) ∧
      (∃ b', s'.remote.store.Holds b' ∧
        Xor (s'.remote.store.records.contains t.model = true) (b'.contains t.model = true)) ∧
      ∀ model, model ≠ t.model →
        (s'.registry.get? model =
          if b.Written t then ((s.remote.store.loaded now).get? model).map Tariff.settled
          else (s.remote.store.loaded now).get? model) ∧
        ((b.Written t → (b.rate model).ReadsBack) → ∀ input output,
          s'.registry.resolve model input output =
            (s.remote.store.loaded now).resolve model input output) := by
  intro s'
  obtain ⟨hst, hlisted, hreply⟩ := (step_save h now t).saved_of_served ht hserved
  have hget : s'.registry.get? t.model = some t.settled.canon :=
    get?_model_of_saved hown ht hst hlisted
  have hresolve : ∀ input output, s'.registry.resolve t.model input output =
      if t.enabled then (t.settled.charge input output).mapError .pricing
      else .error (.disabled t.model) := by
    intro input output
    have hsettled : (Registry.mk [t.settled] none).get? t.model = some t.settled :=
      Registry.get?_singleton t.settled none
    refine (Registry.resolve_of_canon (t := t.settled) hget input output).trans ?_
    change (Registry.mk [t.settled] none).resolve t.model input output = _
    rw [Registry.resolve, hsettled]
    rfl
  obtain ⟨hrecord, hbook⟩ := hst.contains ht
  refine ⟨?_, hget, hresolve, fun hback => ⟨Tariff.canon_settled hback,
    Tariff.charge_settled hback⟩, ⟨_, Store.Becomes.holds hst, ?_⟩, fun model hne =>
    ⟨get?_of_saved h hown hst hlisted hne, fun hback input output =>
      Registry.resolve_congr (get?_of_saved_readsBack h hown hst hlisted hne hback) input output⟩⟩
  · rw [Reply.saved.inj hreply, hget]
    rfl
  · rw [hrecord, hbook]
    cases t.kind <;> simp [Xor]

/-- A model in every place: an empty record, a price, and a completion ratio that its new model
ratio must not be combined with. -/
theorem save_settles_model_in_all_places :
    let b : FlatBook := (({} : FlatBook).revise "a" { modelRatio := some 0.5 }).revise "m"
      { price := some 1.5, completionRatio := some 4.0 }
    let record : TierRecord := ⟨"m", [], true⟩
    let s : Service Faulty := ⟨{}, ⟨b.toSettings, (∅ : Table TierRecord).insert "m" record⟩, []⟩
    let t : Tariff := .flat "m" { modelRatio := some 2.0 }
    let s' := (s.save Faulty.backend "" t).2
    (s.remote.store.Holds b ∧ TierRecord.OwnNames s.remote.store.records ∧ t.check = .ok () ∧
      b.ReadsBack ∧ t.rate.ReadsBack) ∧
      (s.save Faulty.backend "" t).1 = .ok t ∧
      (∀ input output, s'.registry.resolve "m" input output = .ok (.byRatio (some 2.0) none)) ∧
      (∃ b', s'.remote.store.Holds b' ∧
        Xor (s'.remote.store.records.contains "m" = true) (b'.contains "m" = true)) ∧
      ∀ input output,
        s'.registry.resolve "a" input output =
          (s.remote.store.loaded "").resolve "a" input output := by
  have ht : (Tariff.flat "m" { modelRatio := some 2.0 }).check = .ok () := by rfl
  intro b record s t s'
  have hback : b.ReadsBack := fun i => by cases i <;> decide +kernel
  have hrate : t.rate.ReadsBack := by decide +kernel
  have h : s.remote.store.Holds b := Store.holds_of_readsBack hback _
  have hown : TierRecord.OwnNames s.remote.store.records := TierRecord.ownNames_empty.insert record
  have hserved : ∀ f ∈ s.remote.script, f.error = none := fun _ hf => absurd hf List.not_mem_nil
  obtain ⟨hok, -, hresolve, hsame, hplace, hothers⟩ := save_settles (t := t) h hown ht hserved ""
  obtain ⟨hcanon, hcharge⟩ := hsame hrate
  refine ⟨⟨h, hown, ht, hback, hrate⟩, hok.trans (congrArg Except.ok hcanon),
    fun input output => (hresolve input output).trans ?_, hplace,
    (hothers "a" (by decide)).2 fun _ => hback.rate "a"⟩
  rw [hcharge]
  rfl

/-- Saving one model writes the price of another anew, which is read as another float from what is
written. -/
theorem other_price_misread :
    let s : Service Faulty := ⟨{}, ⟨[⟨priceKey, "\x7b\"a\": 94.527069555392230\x7d"⟩], ∅⟩, []⟩
    let t : Tariff := .flat "m" { price := some 1.5 }
    ((∃ b, s.remote.store.Holds b) ∧ TierRecord.OwnNames s.remote.store.records ∧
      Tariff.reader.Decodes t ∧ t.check = .ok () ∧ s.remote.script = []) ∧
      (s.save Faulty.backend "" t).1 = .ok t ∧
      ∀ input output,
        (s.remote.store.loaded "").resolve "a" input output = .ok (.perCall 94.52706955539223) ∧
          (s.save Faulty.backend "" t).2.registry.resolve "a" input output =
            .ok (.perCall 94.52706955539225) := by
  have ht : (Tariff.flat "m" { price := some 1.5 }).check = .ok () := by rfl
  have hdecodes : Tariff.reader.Decodes (.flat "m" { price := some 1.5 }) :=
    Reader.decodes_of_parse (s := "[\"m\",true,\"fixed\",1.5]") (by decide +kernel)
  intro s t
  have hok : (s.save Faulty.backend "" t).1.toOption = some t := by decide +kernel
  have hbefore : (s.remote.store.loaded "").get? "a" =
      some (.flat "a" { price := some 94.52706955539223 }) := by decide +kernel
  have hafter : (s.save Faulty.backend "" t).2.registry.get? "a" =
      some (.flat "a" { price := some 94.52706955539225 }) := by decide +kernel
  have hholds : ∃ b, s.remote.store.Holds b := Store.exists_holds (by decide) (by decide +kernel)
  refine ⟨⟨hholds, TierRecord.ownNames_empty, hdecodes, ht, rfl⟩, eq_ok_of_toOption hok,
    fun input output => ⟨?_, ?_⟩⟩
  · exact Registry.resolve_of_price hbefore input output
  · exact Registry.resolve_of_price hafter input output

end Service

end TokenTariff
