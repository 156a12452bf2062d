import Mathlib
import TokenTariff.Proofs.Catalog.Shown
import TokenTariff.Proofs.Remote.Holding
import TokenTariff.Registry.Change

/-!
# What changes do to the store

Saving a tariff sets the record of its model and what the tables say about it; deleting one clears
the record or the tables. Tables that are written are read again with every number as its text is
read, those of other models too. Each session is followed through all its calls, so that for every
call that may fail it is known what the store holds then. A save that is cut short has kept the
order in which it writes: a record is there before the tables are touched, and the tables are
complete before a record goes.
-/

namespace TokenTariff

open Session

namespace Tariff

/-- What the tables say about the model of a saved tariff. -/
def rate (t : Tariff) : FlatRate :=
  match t.plan with
  | .flat r => r.plain
  | .tiered _ => {}

/-- The tariff as it is shown once it is saved: without what its price makes idle. -/
def canon (t : Tariff) : Tariff :=
  match t.plan with
  | .flat r => { t with plan := .flat r.plain }
  | .tiered _ => t

variable {t : Tariff}

theorem isSet_of_check {r : FlatRate} (h : t.check = .ok ()) (hp : t.plan = .flat r) :
    r.isSet = true ∧ r.Finite ∧ t.enabled = true := by
  unfold check at h
  rw [hp] at h
  split at h
  · cases h
  · dsimp only at h
    split at h
    · rename_i he
      exact ⟨FlatRate.isSet_of_check h, FlatRate.finite_of_check h, he⟩
    · cases h

theorem tiers_of_check {ts : List Tier} (h : t.check = .ok ()) (hp : t.plan = .tiered ts) :
    ts.isEmpty = false := by
  unfold check at h
  rw [hp] at h
  split at h
  · cases h
  · dsimp only at h
    split at h
    · cases h
    · rename_i hts
      simpa using hts

theorem finite_rate (h : t.check = .ok ()) : t.rate.Finite := by
  unfold rate
  split
  · rename_i r hp
    exact (isSet_of_check h hp).2.1.plain
  · intro i x hx
    cases i <;> cases hx

theorem charge_canon (t : Tariff) (input output : UInt64) :
    t.canon.charge input output = t.charge input output := by
  obtain ⟨m, e, ⟨_ | p, x, c⟩ | ts⟩ := t <;> rfl

theorem enabled_canon (t : Tariff) : t.canon.enabled = t.enabled := by
  obtain ⟨m, e, r | ts⟩ := t <;> rfl

theorem rate_settled (t : Tariff) : t.settled.rate = t.rate.reread := by
  obtain ⟨m, e, r | ts⟩ := t
  · exact r.plain_reread.symm
  · rfl

theorem settled_canon (t : Tariff) : t.canon.settled = t.settled.canon := by
  obtain ⟨m, e, r | ts⟩ := t
  · exact congrArg (fun r => (⟨m, e, .flat r⟩ : Tariff)) r.plain_reread
  · rfl

/-- A tariff is shown as it was saved when the numbers that are stored of it read back. -/
theorem canon_settled (h : t.rate.ReadsBack) : t.settled.canon = t.canon := by
  rw [← settled_canon]
  refine settled_of_readsBack fun r hr => ?_
  obtain ⟨m, e, r' | ts⟩ := t
  · cases hr
    exact h
  · cases hr

theorem charge_settled (h : t.rate.ReadsBack) (input output : UInt64) :
    t.settled.charge input output = t.charge input output := by
  rw [← charge_canon, canon_settled h, charge_canon]

end Tariff

namespace FlatBook

variable (b : FlatBook) (t : Tariff)

/-- A save writes the tables for a flat tariff, and for a tiered one if they mention its model. -/
def Written : Prop := t.kind = .flat ∨ b.mentions t.model = true

instance : Decidable (b.Written t) := inferInstanceAs (Decidable (_ ∨ _))

def saved : FlatBook := if b.Written t then (b.revise t.model t.rate).reread else b

variable {b t}

theorem saved_of_written (h : b.Written t) : b.saved t = (b.revise t.model t.rate).reread :=
  if_pos h

theorem saved_of_flat (h : t.kind = .flat) : b.saved t = (b.revise t.model t.rate).reread :=
  saved_of_written (.inl h)

/-- What is not written already says of the model what the save would have it say. -/
theorem revise_of_not_written (h : ¬b.Written t) : b.revise t.model t.rate = b := by
  rw [Written, not_or, Bool.not_eq_true] at h
  obtain ⟨m, e, r | ts⟩ := t
  · exact absurd rfl h.1
  · exact erase_of_not_mentions h.2

theorem rate_saved : (b.saved t).rate t.model = t.settled.rate := by
  rw [t.rate_settled, saved]
  split
  · rw [rate_reread, rate_revise, if_pos rfl]
  · rename_i h
    have hrate : (b.revise t.model t.rate).rate t.model = t.rate := by rw [rate_revise, if_pos rfl]
    rw [revise_of_not_written h] at hrate
    obtain ⟨m, e, r | ts⟩ := t
    · exact absurd (.inl rfl) h
    · exact hrate

theorem rate_saved_of_ne {model : String} (h : t.model ≠ model) :
    (b.saved t).rate model =
      if b.Written t then (b.rate model).reread else b.rate model := by
  rw [saved]
  split
  · rw [rate_reread, rate_revise, if_neg h]
  · rfl

theorem contains_saved_of_ne {model : String} (h : t.model ≠ model) :
    (b.saved t).contains model = b.contains model := by
  rw [contains_eq_isSet, rate_saved_of_ne h, contains_eq_isSet]
  split
  · exact FlatRate.isSet_reread _
  · rfl

theorem ReadsBack.saved (h : b.ReadsBack) (ht : t.rate.ReadsBack) :
    b.saved t = b.revise t.model t.rate := by
  by_cases hw : b.Written t
  · rw [saved_of_written hw, (h.revise ht t.model).reread_eq]
  · rw [FlatBook.saved, if_neg hw, revise_of_not_written hw]

theorem mixed_saved (b : FlatBook) (t : Tariff) :
    b.Mixed (b.revise t.model t.rate).reread (b.saved t) := by
  rw [saved]
  split
  · exact .right _ _
  · exact .left _ _

end FlatBook

/-- After a save the model shows the tariff that was saved. -/
theorem shown?_saved {t : Tariff} (h : t.check = .ok ()) (rs : Table TierRecord) {b : FlatBook}
    (hb : b.rate t.model = t.settled.rate) :
    shown? (rs.put t.model (TierRecord.ofTariff? t)) b t.model = some t.settled.canon := by
  rw [t.rate_settled] at hb
  obtain ⟨m, e, plan⟩ := t
  rw [shown?, Table.get?_put, if_pos rfl, FlatBook.tariff?, FlatBook.contains_eq_isSet, hb]
  cases plan with
  | flat r =>
    obtain ⟨hset, -, he⟩ := Tariff.isSet_of_check h rfl
    obtain rfl : e = true := he
    change (if r.plain.reread.isSet = true then _ else none) = _
    rw [FlatRate.isSet_reread, r.isSet_plain, if_pos hset]
    exact congrArg (fun r => some (Tariff.flat m r)) r.plain_reread
  | tiered ts =>
    have hts := Tariff.tiers_of_check h rfl
    simp [TierRecord.ofTariff?, TierRecord.tariff?_eq, hts, Tariff.settled, Plan.settled,
      Tariff.canon]

theorem shown?_of_ne {rs rs' : Table TierRecord} {b b' : FlatBook} {model : String}
    (hr : rs'.get? model = rs.get? model) (hb : b'.rate model = b.rate model) :
    shown? rs' b' model = shown? rs b model := by
  rw [shown?, shown?, FlatBook.tariff?, FlatBook.tariff?, FlatBook.contains_eq_isSet,
    FlatBook.contains_eq_isSet, hr, hb]

/-- Another model shows after a save what it showed, read from its texts if they were written. -/
theorem shown?_saved_of_ne {t : Tariff} (rs : Table TierRecord) (b : FlatBook) {model : String}
    (hne : t.model ≠ model) :
    shown? (rs.put t.model (TierRecord.ofTariff? t)) (b.saved t) model =
      if b.Written t then (shown? rs b model).map Tariff.settled else shown? rs b model := by
  have hrecord : (rs.put t.model (TierRecord.ofTariff? t)).get? model = rs.get? model := by
    rw [Table.get?_put, if_neg hne]
  rw [FlatBook.saved]
  split
  · rw [shown?_reread]
    refine congrArg (Option.map Tariff.settled) (shown?_of_ne hrecord ?_)
    rw [FlatBook.rate_revise, if_neg hne]
  · exact shown?_of_ne hrecord rfl

/-! ### Loading -/

namespace Store

def listing (st : Store) (b : FlatBook) : List Tariff := catalog (TierRecord.tariffs st.records) b

end Store

namespace Session

variable {E : RemoteError → Prop} {st : Store} {b : FlatBook}

theorem ends_readBook {Q : Except ServiceError FlatBook → Store → Prop} (h : st.Holds b)
    (hok : Q (.ok b) st) (hno : ∀ e, E e → Q (.error (.remote e)) st) :
    readBook.Ends E .remote Q st :=
  Ends.bind (ends_listSettings (ends_ofExcept (by rw [h.book]; exact hok)) hno)

theorem ends_load {Q : Except RemoteError (List Tariff) → Store → Prop}
    (h : FlatBook.ofSettings st.settings = .ok b) (hok : Q (.ok (st.listing b)) st)
    (hno : ∀ e, E e → Q (.error e) st) :
    load.Ends E id Q st := by
  refine Ends.bind (ends_listRecords (Ends.bind (ends_listSettings (Ends.bind ?_) hno)) hno)
  apply ends_ofExcept
  rw [h]
  exact hok

theorem ends_reload {Q : Except ServiceError (List Tariff) → Store → Prop} (h : st.Holds b)
    (hok : Q (.ok (st.listing b)) st) (hno : ∀ e, E e → Q (.error (.remote e)) st) :
    reload.Ends E .remote Q st := Ends.mapError ServiceError.remote (ends_load h.book hok hno)

/-! ### Saving -/

end Session

namespace Store

variable (st : Store) (b : FlatBook) (t : Tariff)

/-- The tariff has been saved where the store was `st` with the book `b`. -/
def Saved (st' : Store) : Prop :=
  st.Becomes (st.records.put t.model (TierRecord.ofTariff? t)) (b.saved t) st'

/-- A save has been cut short, perhaps before it began or after its end. -/
def Saving (st' : Store) : Prop :=
  ∃ b', b.Mixed (b.revise t.model t.rate).reread b' ∧
    ((st.Becomes st.records b' st' ∧ (t.kind = .tiered → b' = b)) ∨
      (st.Becomes (st.records.put t.model (TierRecord.ofTariff? t)) b' st' ∧
        (t.kind = .flat → b' = b.saved t)))

variable {st b t}

theorem Saved.saving {st' : Store} (h : st.Saved b t st') : st.Saving b t st' :=
  ⟨_, b.mixed_saved t, .inr ⟨h, fun _ => rfl⟩⟩

theorem Holds.saving (h : st.Holds b) : st.Saving b t st :=
  ⟨_, .left _ _, .inl ⟨h.unchanged, fun _ => rfl⟩⟩

theorem Saving.ownNames (h : st.Saving b t st') (hown : TierRecord.OwnNames st.records) :
    TierRecord.OwnNames st'.records := by
  obtain ⟨b', -, ⟨hst', -⟩ | ⟨hst', -⟩⟩ := h
  · rw [hst'.records]
    exact hown
  · rw [hst'.records]
    obtain ⟨m, e, r | ts⟩ := t
    · exact hown.erase m
    · exact hown.insert ⟨m, ts, e⟩

end Store

namespace Session

variable {E : RemoteError → Prop} {st : Store} {b : FlatBook} {t : Tariff}

def write (t : Tariff) (b : FlatBook) : Session ServiceError Unit :=
  match TierRecord.ofTariff? t with
  | some record => saveTiered record b
  | none => saveFlat t b

theorem save_eq (t : Tariff) :
    save t = (do
      ofExcept malformed t.check
      let b ← readBook
      write t b
      reload) := by
  unfold save write
  congr 1
  funext _
  congr 1
  funext b
  cases TierRecord.ofTariff? t <;> rfl

/-- How a session that writes ends: it has saved the tariff, or a call failed on the way. -/
def Writes (E : RemoteError → Prop) (st : Store) (b : FlatBook) (t : Tariff) {α : Type} :
    Except ServiceError α → Store → Prop
  | .ok _, st' => st.Saved b t st'
  | .error e, st' => (∃ e', E e' ∧ e = .remote e') ∧ st.Saving b t st'

theorem ends_saveTiered {ts : List Tier} (h : st.Holds b) (hp : t.plan = .tiered ts) :
    (saveTiered ⟨t.model, ts, t.enabled⟩ b).Ends E .remote (Writes E st b t) st := by
  obtain ⟨m, enabled, plan⟩ := t
  obtain rfl : plan = .tiered ts := hp
  have hnew := h.unchanged.upsertRecord ⟨m, ts, enabled⟩
  refine Ends.bind (ends_ask rfl ?_ (fun e he => ⟨⟨e, he, rfl⟩, h.saving⟩) fun e he =>
    ⟨⟨e, he, rfl⟩, b, .left _ _, .inr ⟨hnew, fun hk => nomatch hk⟩⟩)
  change (ite _ _ _ : Session ServiceError Unit).Ends _ _ _ (st.upsertRecord ⟨m, ts, enabled⟩)
  split
  · rename_i hmentions
    have hbook : b.saved ⟨m, enabled, .tiered ts⟩ = (b.erase m).reread :=
      FlatBook.saved_of_written (.inr hmentions)
    refine ends_putSettings hnew.holds (h.finite.erase m) (fun st' hst' => ?_)
      fun e b' st' he hmix hst' =>
        ⟨⟨e, he, rfl⟩, b', hmix, .inr ⟨hnew.trans hst', fun hk => nomatch hk⟩⟩
    change st.Becomes _ (b.saved ⟨m, enabled, .tiered ts⟩) st'
    rw [hbook]
    exact hnew.trans hst'
  · rename_i hmentions
    have hbook : b.saved ⟨m, enabled, .tiered ts⟩ = b :=
      if_neg (not_or.2 ⟨PlanKind.noConfusion, hmentions⟩)
    apply ends_pure
    change st.Becomes _ (b.saved ⟨m, enabled, .tiered ts⟩) _
    rw [hbook]
    exact hnew

/-- What a flat save does once the tables are written: it deletes the record of the model. -/
def clear (model : String) : Session ServiceError Unit := do
  let records ← ask .listRecords
  if records.contains model then ask (.deleteRecord model)

theorem ends_clear {rs : Table TierRecord} {st₁ : Store} (h : st.Becomes rs b st₁)
    (model : String) :
    (clear model).Ends E .remote (fun r st' =>
      match r with
      | .ok _ => st.Becomes (rs.erase model) b st'
      | .error e => (∃ e', E e' ∧ e = .remote e') ∧
          (st.Becomes rs b st' ∨ st.Becomes (rs.erase model) b st')) st₁ := by
  refine Ends.bind (ends_listRecords ?_ fun e he => ⟨⟨e, he, rfl⟩, .inl h⟩)
  have hdeleted := h.deleteRecord model
  change (ite _ _ _ : Session ServiceError Unit).Ends _ _ _ st₁
  split
  · exact ends_ask rfl hdeleted (fun e he => ⟨⟨e, he, rfl⟩, .inl h⟩) fun e he =>
      ⟨⟨e, he, rfl⟩, .inr hdeleted⟩
  · rename_i hcontains
    rw [h.records, Bool.not_eq_true] at hcontains
    apply ends_pure
    rw [Table.erase_of_not_contains hcontains]
    exact h

/-- A flat tariff is written to the tables, and then the record of its model is cleared. -/
theorem write_flat {r : FlatRate} (hp : t.plan = .flat r) (hset : r.isSet = true) (b : FlatBook) :
    write t b = (do
      ask (.putSettings (b.revise t.model t.rate).toSettings)
      clear t.model) := by
  have hrec : TierRecord.ofTariff? t = none := by rw [TierRecord.ofTariff?, hp]
  have hrate : t.rate = r.plain := by rw [Tariff.rate, hp]
  rw [write, hrec]
  dsimp only [saveFlat]
  rw [FlatBook.enter_eq b hp hset, hrate]
  rfl

theorem ends_write_flat {r : FlatRate} (h : st.Holds b) (ht : t.check = .ok ())
    (hp : t.plan = .flat r) : (write t b).Ends E .remote (Writes E st b t) st := by
  have hb' := h.finite.revise (Tariff.finite_rate ht) t.model
  have hrec : TierRecord.ofTariff? t = none := by rw [TierRecord.ofTariff?, hp]
  have hkind : t.kind = .flat := by rw [Tariff.kind, hp]
  have hmixed {st' : Store} {b' : FlatBook} (hmix : b.Mixed (b.revise t.model t.rate).reread b')
      (hst' : st.Becomes st.records b' st') : st.Saving b t st' := by
    refine ⟨b', hmix, .inl ⟨hst', fun hk => ?_⟩⟩
    rw [hkind] at hk
    cases hk
  have hsaved {st' : Store}
      (hst' : st.Becomes (st.records.erase t.model) (b.revise t.model t.rate).reread st') :
      st.Saved b t st' := by
    rw [Store.Saved, hrec, FlatBook.saved_of_flat hkind]
    exact hst'
  rw [write_flat hp (Tariff.isSet_of_check ht hp).1]
  refine Ends.bind (ends_putSettings h hb' (fun st₁ hst₁ => ?_) fun e b' st' he hmix hst' =>
    ⟨⟨e, he, rfl⟩, hmixed hmix hst'⟩)
  apply (ends_clear hst₁ t.model).mono
  intro res st' hres
  cases res with
  | ok u => exact hsaved hres
  | error e => exact ⟨hres.1, hres.2.elim (hmixed (.right _ _)) fun hst' => (hsaved hst').saving⟩

theorem ends_write (h : st.Holds b) (ht : t.check = .ok ()) :
    (write t b).Ends E .remote (Writes E st b t) st := by
  cases hp : t.plan with
  | flat r => exact ends_write_flat h ht hp
  | tiered ts =>
    unfold write TierRecord.ofTariff?
    rw [hp]
    exact ends_saveTiered h hp

/-- A save that the check refuses does nothing. One that it lets pass either saves the tariff and
loads what the store then makes up, or is cut short by a call that fails. -/
theorem ends_save (h : st.Holds b) (t : Tariff) :
    (save t).Ends E .remote (fun r st' =>
      match r with
      | .ok ts => t.check = .ok () ∧ st.Saved b t st' ∧
          ts = st'.listing (b.saved t)
      | .error e => (∃ c, t.check = .error c ∧ e = malformed c ∧ st' = st) ∨
          (t.check = .ok () ∧ (∃ e', E e' ∧ e = .remote e') ∧ st.Saving b t st')) st := by
  rw [save_eq]
  refine Ends.bind (ends_ofExcept ?_)
  cases ht : t.check with
  | error c => exact .inl ⟨c, rfl, rfl, rfl⟩
  | ok u =>
    refine Ends.bind (ends_readBook h ?_ fun e he => .inr ⟨rfl, ⟨e, he, rfl⟩, h.saving⟩)
    refine Ends.bind ((ends_write h ht).mono fun r st' hr => ?_)
    cases r with
    | error e => exact .inr ⟨rfl, hr⟩
    | ok u =>
      exact ends_reload hr.holds ⟨rfl, hr, rfl⟩ fun e he => .inr ⟨rfl, ⟨e, he, rfl⟩, hr.saving⟩

end Session

/-! ### Deleting -/

namespace Store

variable (st : Store) (b : FlatBook) (model : String)

/-- A tariff of this kind has been deleted where the store was `st` with the book `b`. -/
def Deleted (kind : PlanKind) (st' : Store) : Prop :=
  match kind with
  | .tiered =>
    st.records.contains model = true ∧ st.Becomes (st.records.erase model) b st'
  | .flat =>
    st.records.contains model = false ∧ b.contains model = true ∧
      st.Becomes st.records (b.erase model).reread st'

/-- A deletion has been cut short, perhaps before it began or after its end. -/
def Deleting (st' : Store) : Prop :=
  ∃ rs b', (rs = st.records ∨ rs = st.records.erase model) ∧ b.Mixed (b.erase model).reread b' ∧
    (st.records.contains model = true → b' = b) ∧ st.Becomes rs b' st'

variable {st b model}

theorem Holds.deleting (h : st.Holds b) : st.Deleting b model st :=
  ⟨_, b, .inl rfl, .left _ _, fun _ => rfl, h.unchanged⟩

theorem Deleted.deleting {kind : PlanKind} {st' : Store} (h : st.Deleted b model kind st') :
    st.Deleting b model st' := by
  cases kind with
  | tiered => exact ⟨_, b, .inr rfl, .left _ _, fun _ => rfl, h.2⟩
  | flat =>
    refine ⟨_, _, .inl rfl, .right _ _, fun hc => ?_, h.2.2⟩
    rw [h.1] at hc
    cases hc

theorem Deleting.ownNames (h : st.Deleting b model st') (hown : TierRecord.OwnNames st.records) :
    TierRecord.OwnNames st'.records := by
  obtain ⟨rs, b', rfl | rfl, -, -, hst'⟩ := h
  · rw [hst'.records]
    exact hown
  · rw [hst'.records]
    exact hown.erase model

def bookWithout (b : FlatBook) (model : String) : PlanKind → FlatBook
  | .tiered => b
  | .flat => (b.erase model).reread

/-- After a deletion of either kind the model has no record. -/
theorem Deleted.becomes {kind : PlanKind} {st' : Store} (h : st.Deleted b model kind st') :
    st.Becomes (st.records.erase model) (bookWithout b model kind) st' := by
  cases kind with
  | tiered => exact h.2
  | flat =>
    rw [Table.erase_of_not_contains h.1]
    exact h.2.2

end Store

namespace Session

open Store

variable {E : RemoteError → Prop} {st : Store} {b : FlatBook} {model : String}

/-- How a deletion ends: with the kind of the tariff deleted, because there is none, or because a
call failed on the way. -/
theorem ends_remove (h : st.Holds b) (model : String) :
    (remove model).Ends E .remote (fun r st' =>
      match r with
      | .ok kind => st.Deleted b model kind st'
      | .error e =>
        (st.records.contains model = false ∧ b.contains model = false ∧ e = .notFound model ∧
          st' = st) ∨ ((∃ e', E e' ∧ e = .remote e') ∧ st.Deleting b model st')) st := by
  refine Ends.bind (ends_listRecords ?_ fun e he => .inr ⟨⟨e, he, rfl⟩, h.deleting⟩)
  change (ite _ _ _ : Session ServiceError PlanKind).Ends _ _ _ _
  split
  · rename_i hrec
    have hdel : st.Deleted b model .tiered (st.deleteRecord model) :=
      ⟨hrec, h.unchanged.deleteRecord model⟩
    exact Ends.bind (ends_ask rfl (ends_pure hdel)
      (fun e he => .inr ⟨⟨e, he, rfl⟩, h.deleting⟩) fun e he =>
        .inr ⟨⟨e, he, rfl⟩, hdel.deleting⟩)
  · rename_i hrec
    rw [Bool.not_eq_true] at hrec
    refine Ends.bind (ends_readBook h ?_ fun e he => .inr ⟨⟨e, he, rfl⟩, h.deleting⟩)
    change (ite _ _ _ : Session ServiceError PlanKind).Ends _ _ _ _
    split
    · rename_i hbook
      refine Ends.bind (ends_putSettings h (h.finite.erase model)
        (fun st' hst' => ends_pure ⟨hrec, hbook, hst'⟩) fun e b' st' he hmix hst' => ?_)
      refine .inr ⟨⟨e, he, rfl⟩, _, b', .inl rfl, hmix, fun hc => ?_, hst'⟩
      rw [hrec] at hc
      cases hc
    · rename_i hbook
      exact .inl ⟨hrec, by simpa using hbook, rfl, rfl⟩

theorem ends_delete (h : st.Holds b) (model : String) :
    (delete model).Ends E .remote (fun r st' =>
      match r with
      | .ok (kind, ts) => st.Deleted b model kind st' ∧ ts = st'.listing (bookWithout b model kind)
      | .error e =>
        (st.records.contains model = false ∧ b.contains model = false ∧ e = .notFound model ∧
          st' = st) ∨ ((∃ e', E e' ∧ e = .remote e') ∧ st.Deleting b model st')) st := by
  refine Ends.bind ((ends_remove h model).mono fun r st' hr => ?_)
  cases r with
  | error e => exact hr
  | ok kind =>
    have hr : st.Deleted b model kind st' := hr
    exact Ends.bind (ends_reload hr.becomes.holds (ends_pure ⟨hr, rfl⟩) fun e he =>
      .inr ⟨⟨e, he, rfl⟩, hr.deleting⟩)

end Session

end TokenTariff
