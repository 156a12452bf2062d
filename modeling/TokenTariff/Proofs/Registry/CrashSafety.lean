import Mathlib
import TokenTariff.Proofs.Registry.Steps

/-!
# Interrupted saves of tiered tariffs

A record hides what the tables say. Hence a save that puts a tiered tariff in place, or replaces
one, is not seen in part: while the record of the model is there, no table entry of it is shown, and
the record comes before the tables are touched and goes after they are complete. Wherever such a
save is cut short, the model is billed by the tariff it had or by the one that was to be saved,
whose flat rate is what the tables say when they are read again.
-/

namespace TokenTariff

open Json

namespace Store

variable {st st' : Store} {b : FlatBook} {t : Tariff}

/-- A tiered tariff comes from the record, whatever the book. -/
theorem shown?_of_tiered {rs : Table TierRecord} {model : String} {old : Tariff}
    (h : shown? rs b model = some old) (hk : old.kind = .tiered) (b' : FlatBook) :
    shown? rs b' model = some old := by
  unfold shown? at h ⊢
  cases hr : (rs.get? model).bind TierRecord.tariff? with
  | some r =>
    rw [hr] at h
    exact h
  | none =>
    rw [hr, Option.none_or] at h
    rw [FlatBook.kind_of_tariff? h] at hk
    cases hk

/-- A save that involves a tiered tariff shows the old tariff or the new one. -/
theorem Saving.shown? (h : st.Saving b t st') (ht : t.check = .ok ())
    (htiered : t.kind = .tiered ∨ ∃ old, shown? st.records b t.model = some old ∧
      old.kind = .tiered) :
    ∃ b', st'.Holds b' ∧
      (TokenTariff.shown? st'.records b' t.model = TokenTariff.shown? st.records b t.model ∨
        TokenTariff.shown? st'.records b' t.model = some t.settled.canon) := by
  obtain ⟨b', -, ⟨hst', hbook⟩ | ⟨hst', hbook⟩⟩ := h
  · refine ⟨b', hst'.holds, .inl ?_⟩
    rw [hst'.records]
    rcases htiered with hk | ⟨old, hold, hk⟩
    · rw [hbook hk]
    · rw [hold, shown?_of_tiered hold hk b']
  · refine ⟨b', hst'.holds, .inr ?_⟩
    rw [hst'.records]
    cases hk : t.kind with
    | flat =>
      rw [hbook hk]
      exact shown?_saved ht st.records FlatBook.rate_saved
    | tiered =>
      have hkc : t.settled.canon.kind = .tiered := by
        obtain ⟨m, e, r | ts⟩ := t
        · cases hk
        · rfl
      exact shown?_of_tiered (shown?_saved ht st.records (b := b.saved t) FlatBook.rate_saved)
        hkc b'

end Store

namespace Registry

variable {r : Registry} {t : Tariff}

theorem resolve_of_canon (h : r.get? t.model = some t.canon) (input output : UInt64) :
    r.resolve t.model input output =
      (Registry.mk [t] none).resolve t.model input output := by
  rw [resolve, resolve, h, get?_singleton]
  simp only [t.enabled_canon, t.charge_canon]

theorem resolve_settled (h : t.rate.ReadsBack) (loadedAt : Option String)
    (input output : UInt64) :
    (Registry.mk [t.settled] loadedAt).resolve t.model input output =
      (Registry.mk [t] loadedAt).resolve t.model input output := by
  have hget : (Registry.mk [t.settled] loadedAt).get? t.model = some t.settled :=
    get?_singleton t.settled loadedAt
  rw [resolve, resolve, hget, get?_singleton]
  change (if t.enabled then _ else _) = if t.enabled then _ else _
  rw [Tariff.charge_settled h]

end Registry

namespace Service

variable {s : Service Faulty} {b : FlatBook} {t : Tariff}

theorem saving_of_save (h : s.remote.store.Holds b) (t : Tariff) (now : String) :
    s.remote.store.Saving b t (s.save Faulty.backend now t).2.remote.store :=
  (step_save h now t).interrupted h

/-- A save followed by loading: how loading ends, and the registry after it. -/
def saveAndLoad (s : Service Faulty) (t : Tariff) (now now' : String) :
    Except RemoteError ℕ × Registry :=
  (((s.save Faulty.backend now t).2.refresh Faulty.backend now').1,
    ((s.save Faulty.backend now t).2.refresh Faulty.backend now').2.registry)

theorem ok_of_saveAndLoad {now : String} (h : (s.save Faulty.backend now t).2.remote.store.Holds b)
    (hs : (s.save Faulty.backend now t).2.remote.script = []) (now' : String) :
    ∃ n, (s.saveAndLoad t now now').1 = .ok n := by
  dsimp only [saveAndLoad]
  exact ok_of_refresh h hs now'

theorem tariffs_of_saveAndLoad {now now' : String} {n : ℕ}
    (h : (s.save Faulty.backend now t).2.remote.store.Holds b)
    (hok : (s.saveAndLoad t now now').1 = .ok n) :
    (s.saveAndLoad t now now').2.tariffs =
      (s.save Faulty.backend now t).2.remote.store.listing b := by
  dsimp only [saveAndLoad] at hok ⊢
  exact tariffs_of_refresh h.book hok

end Service

/-- Whatever the counts, the model of the tariff is billed as the store had it, or else as the
tariff itself says. -/
def Registry.BillsOldOrNew (r : Registry) (st : Store) (t : Tariff) (now : String) : Prop :=
  (∀ input output, r.resolve t.model input output =
    (st.loaded now).resolve t.model input output) ∨
  ∀ input output, r.resolve t.model input output =
    (Registry.mk [t] none).resolve t.model input output

theorem Registry.BillsOldOrNew.of_settled {r : Registry} {st : Store} {t : Tariff} {now : String}
    (h : r.BillsOldOrNew st t.settled now) (hback : t.rate.ReadsBack) :
    r.BillsOldOrNew st t now :=
  h.imp_right fun hnew input output =>
    (hnew input output).trans (resolve_settled hback none input output)

namespace Service

variable {s : Service Faulty} {b : FlatBook} {t : Tariff}

/-- A save that involves a tiered tariff is safe: wherever it is cut short, once the store is loaded
again the model is billed as before or as the tariff to be saved says, its flat rate being what the
tables give; that is the rate itself if its numbers read back. -/
theorem billsOldOrNew_of_tiered (h : s.remote.store.Holds b)
    (hown : TierRecord.OwnNames s.remote.store.records) (ht : t.check = .ok ()) {now : String}
    (htiered : t.kind = .tiered ∨ ∃ old,
      (s.remote.store.loaded now).get? t.model = some old ∧ old.kind = .tiered)
    {now' : String} {n : ℕ} (hok : (s.saveAndLoad t now now').1 = .ok n) :
    (s.saveAndLoad t now now').2.BillsOldOrNew s.remote.store t.settled now ∧
      (t.rate.ReadsBack →
        (s.saveAndLoad t now now').2.BillsOldOrNew s.remote.store t now) := by
  have hbefore := Registry.get?_of_listing hown (h.loaded now)
  have hsaving := saving_of_save h t now
  rw [hbefore] at htiered
  obtain ⟨b', hb', hshown⟩ := hsaving.shown? ht htiered
  have hafter := Registry.get?_of_listing (hsaving.ownNames hown) (tariffs_of_saveAndLoad hb' hok)
  have hsettled : (s.saveAndLoad t now now').2.BillsOldOrNew s.remote.store t.settled now := by
    rcases hshown with hshown | hshown
    · refine .inl fun input output => Registry.resolve_congr ?_ input output
      exact (hafter _).trans (hshown.trans (hbefore _).symm)
    · refine .inr fun input output => Registry.resolve_of_canon ?_ input output
      exact (hafter _).trans hshown
  exact ⟨hsettled, hsettled.of_settled⟩

/-- A first save whose record has landed though the call failed. -/
theorem billsOldOrNew_of_landed_record :
    let t : Tariff := ⟨"m", true, .tiered [{ modelRatio := 2.0, completionRatio := 1.0 }]⟩
    let s : Service Faulty := ⟨{}, {}, [.served, .failed .transport fun _ => true]⟩
    (s.remote.store.Holds {} ∧ TierRecord.OwnNames s.remote.store.records ∧ t.check = .ok () ∧
      t.kind = .tiered ∧ t.rate.ReadsBack) ∧
      ∃ n, (s.saveAndLoad t "" "").1 = .ok n ∧
        (s.saveAndLoad t "" "").2.BillsOldOrNew s.remote.store t "" := by
  have ht : (⟨"m", true, .tiered [{ modelRatio := 2.0, completionRatio := 1.0 }]⟩ :
    Tariff).check = .ok () := by rfl
  intro t s
  have h : s.remote.store.Holds {} := ⟨List.nodup_nil, rfl⟩
  have hown : TierRecord.OwnNames s.remote.store.records := fun _ he => absurd he List.not_mem_nil
  have hsaved : (s.save Faulty.backend "" t).2.remote =
      ⟨⟨[], (∅ : Table TierRecord).insert "m"
        ⟨"m", [{ modelRatio := 2.0, completionRatio := 1.0 }], true⟩⟩, []⟩ := by
    rw [remote_save, Session.save_eq, ht]
    rfl
  obtain ⟨n, hok⟩ := ok_of_saveAndLoad (b := {})
    (by rw [hsaved]; exact ⟨List.nodup_nil, rfl⟩) (by rw [hsaved]) ""
  have ht : t.check = .ok () := ht
  have hkind : t.kind = .tiered := rfl
  have hback : t.rate.ReadsBack := FlatRate.readsBack_empty
  exact ⟨⟨h, hown, ht, hkind, hback⟩, n, hok,
    (billsOldOrNew_of_tiered h hown ht (.inl hkind) hok).2 hback⟩

/-- The last call of a save fails when the price has landed and the record is gone. The price is
read as another float from the text it was written as. -/
theorem interrupted_price_misread :
    let record : TierRecord := ⟨"m", [{ modelRatio := 2.0, completionRatio := 1.0 }], true⟩
    let s : Service Faulty := ⟨{}, ⟨[], (∅ : Table TierRecord).insert "m" record⟩,
      List.replicate 5 .served ++ [.failed .transport fun _ => false]⟩
    let t : Tariff := .flat "m" { price := some 94.52706955539223 }
    (s.remote.store.Holds {} ∧ TierRecord.OwnNames s.remote.store.records ∧ t.check = .ok () ∧
      ∃ old, (s.remote.store.loaded "").get? "m" = some old ∧ old.kind = .tiered) ∧
      (∃ n, (s.saveAndLoad t "" "").1 = .ok n) ∧
      (∀ input output, (s.saveAndLoad t "" "").2.resolve "m" input output =
        .ok (.perCall 94.52706955539225)) ∧
      ¬(s.saveAndLoad t "" "").2.BillsOldOrNew s.remote.store t "" := by
  have ht : (Tariff.flat "m" { price := some 94.52706955539223 }).check = .ok () := by rfl
  intro record s t
  have h : s.remote.store.Holds {} := ⟨List.nodup_nil, rfl⟩
  have hown : TierRecord.OwnNames s.remote.store.records := TierRecord.ownNames_empty.insert record
  have hold : (s.remote.store.loaded "").get? t.model = some ⟨"m", true, .tiered record.tiers⟩ := by
    decide +kernel
  have hok : (s.saveAndLoad t "" "").1.toOption = some 1 := by decide +kernel
  have hafter : (s.saveAndLoad t "" "").2.get? "m" =
      some (.flat "m" { price := some 94.52706955539225 }) := by decide +kernel
  have hbill := Registry.resolve_of_price hafter
  refine ⟨⟨h, hown, ht, _, hold, rfl⟩, ⟨1, eq_ok_of_toOption hok⟩, hbill, ?_⟩
  rintro (hsame | hnew)
  · have hcharge := (hbill 0 0).symm.trans (hsame 0 0)
    rw [Registry.resolve, hold] at hcharge
    cases hcharge
  · have hcharge := (hbill 0 0).symm.trans (hnew 0 0)
    exact absurd (Charge.perCall.inj (Except.ok.inj hcharge)) (by decide +kernel)

end Service

end TokenTariff
