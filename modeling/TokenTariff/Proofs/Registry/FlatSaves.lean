import Mathlib
import TokenTariff.Proofs.Registry.CrashSafety

/-!
# Interrupted saves of flat tariffs

A flat tariff is spread over three tables that are written independently, and nothing holds the
writes together. When a save over a flat tariff is cut short, each of the three fields may be the
old one or the new one as its text is read, and every mixture of them occurs. Whether all mixtures
bill as before or as requested depends on the two rates alone.
-/

namespace TokenTariff

open FlatBook

namespace FlatRate

def bill (r : FlatRate) (model : String) : Except ServiceError Charge :=
  match r.price, r.modelRatio with
  | some p, _ => .ok (.perCall p)
  | none, some x => .ok (.byRatio (some x) r.completionRatio)
  | none, none => .error (.notFound model)

/-- The rate with the new fields where they have landed and the old ones elsewhere. -/
def mix (old new : FlatRate) (landed : Part → Bool) : FlatRate where
  price := if landed .price then new.price else old.price
  modelRatio := if landed .ratio then new.modelRatio else old.modelRatio
  completionRatio := if landed .completion then new.completionRatio else old.completionRatio

theorem field_mix (old new : FlatRate) (landed : Part → Bool) (i : Part) :
    (old.mix new landed).field i = if landed i then new.field i else old.field i := by
  cases i <;> rfl

/-- No mixture of the rates bills differently from both: both have a price, or the new one only
lacks a price, or neither has a price and one ratio stays. -/
def Separable (old new : FlatRate) : Prop :=
  (old.price.isSome ∧ new.price.isSome) ∨
    (new.price = none ∧ old.modelRatio = new.modelRatio ∧
      old.completionRatio = new.completionRatio) ∨
    (old.price = none ∧ new.price = none ∧
      (old.modelRatio = new.modelRatio ∨ old.completionRatio = new.completionRatio))

theorem bill_mix_of_separable {old new : FlatRate} (h : old.Separable new)
    (landed : Part → Bool) (model : String) :
    (old.mix new landed).bill model = old.bill model ∨
      (old.mix new landed).bill model = new.bill model := by
  obtain ⟨p, x, c⟩ := old
  obtain ⟨p', x', c'⟩ := new
  rcases h with ⟨hp, hp'⟩ | ⟨hp', hx, hc⟩ | ⟨hp, hp', hxc⟩
  · obtain ⟨p, rfl⟩ := Option.isSome_iff_exists.1 hp
    obtain ⟨p', rfl⟩ := Option.isSome_iff_exists.1 hp'
    cases hl : landed .price <;> simp [mix, bill, hl]
  · obtain rfl : p' = none := hp'
    obtain rfl : x = x' := hx
    obtain rfl : c = c' := hc
    cases hl : landed .price <;> simp [mix, hl]
  · obtain rfl : p = none := hp
    obtain rfl : p' = none := hp'
    rcases hxc with hx | hc
    · obtain rfl : x = x' := hx
      cases hl : landed .completion <;> simp [mix, hl]
    · obtain rfl : c = c' := hc
      cases hl : landed .ratio <;> simp [mix, hl]

theorem separable_of_bill_mix {old new : FlatRate} (hold : old.isSet = true)
    (hnew : new.isSet = true) (hplain : new.plain = new) (model : String)
    (h : ∀ landed, (old.mix new landed).bill model = old.bill model ∨
      (old.mix new landed).bill model = new.bill model) : old.Separable new := by
  have hprice := h (· = .price)
  have hratio := h (· = .ratio)
  obtain ⟨p, x, c⟩ := old
  obtain ⟨p', x', c'⟩ := new
  cases p with
  | none =>
    obtain ⟨a, rfl⟩ : ∃ a, x = some a := Option.isSome_iff_exists.1 hold
    cases p' with
    | none =>
      obtain ⟨a', rfl⟩ : ∃ a', x' = some a' := Option.isSome_iff_exists.1 hnew
      refine .inr (.inr ⟨rfl, rfl, ?_⟩)
      simpa [mix, bill, eq_comm] using hratio
    | some p' =>
      -- with the model ratio erased and the price not there, nothing is billed
      simp only [plain, FlatRate.mk.injEq, true_and] at hplain
      obtain ⟨rfl, rfl⟩ := hplain
      simp [mix, bill] at hratio
  | some p =>
    cases p' with
    | some p' => exact .inl ⟨rfl, rfl⟩
    | none =>
      obtain ⟨a', rfl⟩ : ∃ a', x' = some a' := Option.isSome_iff_exists.1 hnew
      refine .inr (.inl ⟨rfl, ?_⟩)
      cases x with
      | none => simp [mix, bill] at hprice
      | some a => simpa [mix, bill] using hprice

end FlatRate

namespace Registry

variable {r : Registry} {b : FlatBook} {t : Tariff}

theorem resolve_of_tariff? {model : String} (h : r.get? model = b.tariff? model)
    (input output : UInt64) : r.resolve model input output = (b.rate model).bill model := by
  rw [resolve, h, tariff?, contains_eq_isSet]
  generalize b.rate model = rate
  obtain ⟨_ | p, _ | x, c⟩ := rate <;> rfl

theorem resolve_singleton {rate : FlatRate} (hp : t.plan = .flat rate) (hset : rate.isSet = true)
    (he : t.enabled = true) (input output : UInt64) :
    (Registry.mk [t] none).resolve t.model input output = t.rate.bill t.model := by
  obtain ⟨m, e, plan⟩ := t
  obtain rfl : plan = .flat rate := hp
  obtain rfl : e = true := he
  rw [resolve, get?_singleton ⟨m, true, .flat rate⟩]
  obtain ⟨_ | p, _ | x, c⟩ := rate <;> first | rfl | cases hset

theorem resolve_settled_singleton {rate : FlatRate} (hp : t.plan = .flat rate)
    (ht : t.check = .ok ()) (input output : UInt64) :
    (Registry.mk [t.settled] none).resolve t.model input output = t.settled.rate.bill t.model := by
  obtain ⟨hset, -, he⟩ := Tariff.isSet_of_check ht hp
  have hplan : t.settled.plan = .flat rate.reread := congrArg Plan.settled hp
  exact resolve_singleton (t := t.settled) hplan (rate.isSet_reread.trans hset) he input output

end Registry

namespace Store

variable {st st' : Store} {b : FlatBook} {t : Tariff} {r : FlatRate}

/-- No record stands under the name of the model or is of that model. -/
def Unrecorded (st : Store) (model : String) : Prop :=
  ∀ e ∈ st.records.entries, e.1 ≠ model ∧ e.2.model ≠ model

theorem Unrecorded.get? {model : String} (hrec : st.Unrecorded model) {registry : Registry}
    (h : registry.tariffs = st.listing b) : registry.get? model = b.tariff? model := by
  rw [Registry.get?, h]
  exact find?_catalog_of_ne (fun e he => (hrec e he).2) b

/-- A flat tariff whose save was cut short: some fields have landed. -/
theorem Saving.mix (h : st.Saving b t st') (hp : t.plan = .flat r)
    (hrec : st.Unrecorded t.model) :
    ∃ b' landed, st'.Holds b' ∧ st'.Unrecorded t.model ∧
      b'.rate t.model = (b.rate t.model).mix t.settled.rate landed := by
  have hnone : TierRecord.ofTariff? t = none := by rw [TierRecord.ofTariff?, hp]
  have hk : t.kind = .flat := by rw [Tariff.kind, hp]
  have key {b' : FlatBook} (hmix : b.Mixed (b.revise t.model t.rate).reread b') :
      ∃ landed, b'.rate t.model = (b.rate t.model).mix t.settled.rate landed := by
    classical
    rw [t.rate_settled]
    refine ⟨fun i => decide ((b'.rate t.model).field i = t.rate.reread.field i),
      FlatRate.ext_field fun i => ?_⟩
    rw [FlatRate.field_mix]
    by_cases hi : (b'.rate t.model).field i = t.rate.reread.field i
    · simp [hi]
    · simpa [hi] using (hmix.field i).resolve_right hi
  obtain ⟨b', hmix, ⟨hst', -⟩ | ⟨hst', -⟩⟩ := h
  · obtain ⟨landed, hlanded⟩ := key hmix
    refine ⟨b', landed, hst'.holds, fun e he => hrec e ?_, hlanded⟩
    rwa [hst'.records] at he
  · obtain ⟨landed, hlanded⟩ := key hmix
    refine ⟨b', landed, hst'.holds, fun e he => hrec e ?_, hlanded⟩
    rw [hst'.records, hnone] at he
    exact Table.mem_erase_entries he

end Store

namespace Session

/-- Reading the book takes one call and leaves the store alone. -/
theorem run_readBook {st : Store} {b : FlatBook} (h : st.Holds b) (script : List Fate) :
    readBook.run Faulty.backend .remote ⟨st, script⟩ =
      (match (⟨st, script⟩ : Faulty).next? with
        | none => .ok b
        | some e => .error (.remote e), ⟨st, script.tail⟩) := by
  have hlist {as : List Access} (has : as.Subperm [Access.listSettings]) : st.applyAll as = st :=
    (applyAll_subperm_singleton has st).elim id id
  change (Session.call .listSettings fun settings =>
    ofExcept malformed (ofSettings settings)).run _ _ _ = _
  cases hnext : (⟨st, script⟩ : Faulty).next? with
  | none =>
    obtain ⟨as, has, hrun⟩ := run_call_served ServiceError.remote .listSettings
      (fun settings => ofExcept malformed (ofSettings settings)) hnext
    rw [hrun]
    dsimp only [Call.result]
    rw [hlist has.subperm, h.book]
    rfl
  | some e =>
    obtain ⟨as, has, hrun⟩ := run_call_failed ServiceError.remote .listSettings
      (fun settings => ofExcept malformed (ofSettings settings)) hnext
    rw [hrun]
    dsimp only
    rw [hlist has]

/-- The calls of a save of a flat tariff. -/
theorem save_flat {t : Tariff} {r : FlatRate} (hp : t.plan = .flat r) (ht : t.check = .ok ()) :
    save t = (do
      let b ← readBook
      ask (.putSettings (b.revise t.model t.rate).toSettings)
      clear t.model
      reload) := by
  rw [save_eq, ht]
  change (readBook >>= fun b => write t b >>= fun _ => reload) = _
  congr 1
  funext b
  rw [write_flat hp (Tariff.isSet_of_check ht hp).1]
  rfl

/-- After the writes of the tables only the record of the model may still change. -/
theorem ends_clear_reload {st st₁ : Store} {b' : FlatBook}
    (h : st.Becomes st.records b' st₁) (model : String) :
    (clear model >>= fun _ => reload).Ends (fun _ => True) .remote (fun _ st' =>
      ∃ rs, (rs = st.records ∨ rs = st.records.erase model) ∧ st.Becomes rs b' st') st₁ := by
  refine Ends.bind ((ends_clear h model).mono fun res st' hres => ?_)
  cases res with
  | ok u =>
    have hres : st.Becomes (st.records.erase model) b' st' := hres
    exact ends_reload hres.holds ⟨_, .inr rfl, hres⟩ fun e he => ⟨_, .inr rfl, hres⟩
  | error e =>
    rcases hres.2 with hst' | hst'
    · exact ⟨_, .inl rfl, hst'⟩
    · exact ⟨_, .inr rfl, hst'⟩

end Session

/-! ### Cutting a save short between its writes -/

def inLanded (landed : Part → Bool) : Access → Bool
  | .putSetting s => [Part.price, .ratio, .completion].any fun i => landed i && s.key == i.key
  | _ => false

theorem inLanded_write (landed : Part → Bool) (b : FlatBook) (i : Part) :
    inLanded landed (Store.write b i) = landed i := by
  have hkey (j : Part) : (i.key == j.key) = decide (i = j) := by
    simp only [beq_eq_decide, Part.key_injective.eq_iff]
  change ([Part.price, .ratio, .completion].any fun j => landed j && i.key == j.key) = landed i
  simp only [hkey]
  cases i <;> simp

/-- The store when the writes of some tables, and only those, have landed. -/
theorem Store.Holds.landed {st : Store} {b : FlatBook} (h : st.Holds b) {r : FlatRate}
    (hr : r.Finite) (model : String) (landed : Part → Bool) :
    ∃ b', st.Becomes st.records b' (st.applyAll
        ((Call.putSettings (b.revise model r).toSettings).accesses.filter (inLanded landed))) ∧
      b'.rate model = (b.rate model).mix r.reread landed := by
  have hwrites : ∀ a ∈ (Call.putSettings (b.revise model r).toSettings).accesses.filter
      (inLanded landed), ∃ i, a = Store.write (b.revise model r) i := fun a ha =>
    Store.mem_accesses_putSettings.1 (List.mem_filter.1 ha).1
  obtain ⟨b', hst', hmix⟩ := h.unchanged.applyAll (h.finite.revise hr model) hwrites
  have hmem (i : Part) : Store.write (b.revise model r) i ∈
      (Call.putSettings (b.revise model r).toSettings).accesses.filter (inLanded landed) ↔
        landed i = true := by
    rw [List.mem_filter, inLanded_write]
    exact and_iff_right (Store.mem_accesses_putSettings.2 ⟨i, rfl⟩)
  refine ⟨b', hst', ?_⟩
  apply FlatRate.ext_field
  intro i
  rw [field_rate, FlatRate.field_mix]
  cases hi : landed i with
  | true =>
    rw [(hmix i).1 ((hmem i).2 hi), table_reread, Table.get?_map, table_revise, Table.get?_put,
      if_pos rfl]
    exact (FlatRate.field_reread r i).symm
  | false =>
    have hnot := mt (hmem i).1 (by rw [hi]; exact Bool.false_ne_true)
    rw [(hmix i).2 hnot, ← field_rate]
    rfl

/-- The settings are read, and of the writes only those of some tables take effect. -/
def cutShort (landed : Part → Bool) : List Fate :=
  [.served, .failed .transport (inLanded landed)]

namespace Service

variable {st : Store} {b : FlatBook} {t : Tariff} {r : FlatRate}

/-- A save whose first call is served has read the book and goes on to write. -/
theorem remote_save_of_read {s : Service Faulty} (h : s.remote.store.Holds b)
    (ht : t.check = .ok ()) (hread : s.remote.next? = none) (now : String) :
    (s.save Faulty.backend now t).2.remote =
      ((Session.write t b >>= fun _ => Session.reload).run Faulty.backend ServiceError.remote
        ⟨s.remote.store, s.remote.script.tail⟩).2 := by
  rw [remote_save, Session.save_eq, ht]
  change ((Session.readBook >>= fun b => Session.write t b >>= fun _ => Session.reload).run
    Faulty.backend .remote s.remote).2 = _
  rw [Session.run_bind, Session.run_readBook h, hread]

/-- A save that is cut short between its writes. -/
theorem remote_save_cutShort (h : st.Holds b) (hp : t.plan = .flat r) (ht : t.check = .ok ())
    (registry : Registry) (now : String) (landed : Part → Bool) :
    ((⟨registry, ⟨st, cutShort landed⟩⟩ : Service Faulty).save Faulty.backend now t).2.remote =
      ⟨st.applyAll ((Call.putSettings (b.revise t.model t.rate).toSettings).accesses.filter
        (inLanded landed)), []⟩ := by
  rw [remote_save_of_read h ht rfl, Session.write_flat hp (Tariff.isSet_of_check ht hp).1]
  rfl

variable {s : Service Faulty} {now now' : String} {n : ℕ}

theorem exists_mix (h : s.remote.store.Holds b) (hp : t.plan = .flat r)
    (hrec : s.remote.store.Unrecorded t.model) (hok : (s.saveAndLoad t now now').1 = .ok n) :
    ∃ landed, ∀ input output, (s.saveAndLoad t now now').2.resolve t.model input output =
      ((b.rate t.model).mix t.settled.rate landed).bill t.model := by
  obtain ⟨b', landed, hb', hrec', hrate⟩ := (saving_of_save h t now).mix hp hrec
  refine ⟨landed, fun input output => ?_⟩
  rw [← hrate]
  exact Registry.resolve_of_tariff? (hrec'.get? (tariffs_of_saveAndLoad hb' hok)) input output

/-- Every mixture occurs. -/
theorem resolve_cutShort (h : st.Holds b) (hp : t.plan = .flat r) (ht : t.check = .ok ())
    (hrec : st.Unrecorded t.model) (registry : Registry) (now now' : String)
    (landed : Part → Bool) :
    let s : Service Faulty := ⟨registry, ⟨st, cutShort landed⟩⟩
    (∃ n, (s.saveAndLoad t now now').1 = .ok n) ∧
      ∀ input output, (s.saveAndLoad t now now').2.resolve t.model input output =
        ((b.rate t.model).mix t.settled.rate landed).bill t.model := by
  have hremote := remote_save_cutShort h hp ht registry now landed
  obtain ⟨b', hst', hrate⟩ := h.landed (Tariff.finite_rate ht) t.model landed
  intro s
  have hholds : (s.save Faulty.backend now t).2.remote.store.Holds b' := by
    rw [hremote]
    exact hst'.holds
  have hrec' : (s.save Faulty.backend now t).2.remote.store.Unrecorded t.model := by
    rw [hremote]
    exact fun e he => hrec e (hst'.records ▸ he)
  obtain ⟨n, hok⟩ := ok_of_saveAndLoad hholds (by rw [hremote]) now'
  refine ⟨⟨n, hok⟩, fun input output => ?_⟩
  rw [t.rate_settled, ← hrate]
  exact Registry.resolve_of_tariff? (hrec'.get? (tariffs_of_saveAndLoad hholds hok)) input output

/-- When the writes of the tables do not fail, the tables say what they said or what was asked for,
whichever other call fails. -/
theorem becomes_of_served (h : s.remote.store.Holds b) (hp : t.plan = .flat r)
    (ht : t.check = .ok ()) (hput : ∀ f, s.remote.script[1]? = some f → f.error = none)
    (now : String) :
    ∃ rs b', (rs = s.remote.store.records ∨ rs = s.remote.store.records.erase t.model) ∧
      (b' = b ∨ b' = (b.revise t.model t.rate).reread) ∧
      s.remote.store.Becomes rs b' (s.save Faulty.backend now t).2.remote.store := by
  obtain ⟨registry, ⟨st, script⟩⟩ := s
  rw [remote_save, Session.save_flat hp ht, Session.run_bind, Session.run_readBook h]
  dsimp only at h hput ⊢
  cases (⟨st, script⟩ : Faulty).next? with
  | some e => exact ⟨_, b, .inl rfl, .inl rfl, h.unchanged⟩
  | none =>
    have hsecond : (⟨st, script.tail⟩ : Faulty).next? = none := by
      obtain _ | ⟨f, _ | ⟨g, script⟩⟩ := script
      · rfl
      · rfl
      · exact hput g rfl
    obtain ⟨as, has, hrun⟩ := Session.run_call_served ServiceError.remote
      (.putSettings (b.revise t.model t.rate).toSettings)
      (fun _ => Session.clear t.model >>= fun _ => Session.reload) hsecond
    have hst₁ := h.unchanged.written (h.finite.revise (Tariff.finite_rate ht) t.model) has
    obtain ⟨rs, hrs, hst'⟩ := ((Session.ends_clear_reload hst₁ t.model).run
      (s := ⟨st.applyAll as, script.tail.tail⟩) fun _ _ _ _ => trivial).1
    exact ⟨rs, _, hrs, .inr rfl, congrArg (·.2.store) hrun ▸ hst'⟩

theorem resolve_loaded (h : st.Holds b) (hrec : st.Unrecorded t.model) (now : String)
    (input output : UInt64) :
    (st.loaded now).resolve t.model input output = (b.rate t.model).bill t.model :=
  Registry.resolve_of_tariff? (hrec.get? (h.loaded now)) input output

theorem billsOldOrNew_of_bill (h : s.remote.store.Holds b) (hp : t.plan = .flat r)
    (ht : t.check = .ok ()) (hrec : s.remote.store.Unrecorded t.model) {rate : FlatRate}
    {registry : Registry}
    (hr : ∀ input output, registry.resolve t.model input output = rate.bill t.model)
    (hrate : rate.bill t.model = (b.rate t.model).bill t.model ∨
      rate.bill t.model = t.settled.rate.bill t.model) :
    registry.BillsOldOrNew s.remote.store t.settled now := by
  refine hrate.imp (fun hold input output => ?_) fun hnew input output => ?_
  · exact (hr input output).trans (hold.trans (resolve_loaded h hrec now input output).symm)
  · exact (hr input output).trans
      (hnew.trans (Registry.resolve_settled_singleton hp ht input output).symm)

theorem billsOldOrNew_of_served (h : s.remote.store.Holds b) (hp : t.plan = .flat r)
    (ht : t.check = .ok ()) (hrec : s.remote.store.Unrecorded t.model)
    (hput : ∀ f, s.remote.script[1]? = some f → f.error = none)
    (hok : (s.saveAndLoad t now now').1 = .ok n) :
    (s.saveAndLoad t now now').2.BillsOldOrNew s.remote.store t.settled now := by
  obtain ⟨rs, b', hrs, hb', hst'⟩ := becomes_of_served h hp ht hput now
  have hrec' : (s.save Faulty.backend now t).2.remote.store.Unrecorded t.model := fun e he => by
    apply hrec e
    replace he : e ∈ rs.entries := hst'.records ▸ he
    rcases hrs with rfl | rfl
    · exact he
    · exact Table.mem_erase_entries he
  refine billsOldOrNew_of_bill h hp ht hrec (fun input output => Registry.resolve_of_tariff?
    (hrec'.get? (tariffs_of_saveAndLoad hst'.holds hok)) input output) ?_
  rcases hb' with rfl | rfl
  · exact .inl rfl
  · rw [rate_reread, rate_revise, if_pos rfl, t.rate_settled]
    exact .inr rfl

/-- A save over a flat tariff, cut short anywhere, once the store is loaded again: the model is
billed by a mixture of the old rate and the new one as its texts are read, and every mixture occurs.
It is billed as before or as requested unless a write of a table fails, and with writes that may
fail this is certain exactly when the two rates are separable. When its numbers read back, the
tariff is requested just as it is. -/
theorem resolve_of_flat_save (h : st.Holds b) (hset : b.contains t.model = true)
    (hrec : st.Unrecorded t.model) (hp : t.plan = .flat r) (ht : t.check = .ok ()) :
    (∀ s : Service Faulty, s.remote.store = st → ∀ now now' n,
      (s.saveAndLoad t now now').1 = .ok n →
        (∃ landed, ∀ input output, (s.saveAndLoad t now now').2.resolve t.model input output =
          ((b.rate t.model).mix t.settled.rate landed).bill t.model) ∧
        ((∀ f, s.remote.script[1]? = some f → f.error = none) →
          (s.saveAndLoad t now now').2.BillsOldOrNew st t.settled now)) ∧
    (∀ landed, ∃ s : Service Faulty, s.remote.store = st ∧ ∀ now now',
      (∃ n, (s.saveAndLoad t now now').1 = .ok n) ∧ ∀ input output,
        (s.saveAndLoad t now now').2.resolve t.model input output =
          ((b.rate t.model).mix t.settled.rate landed).bill t.model) ∧
    ((∀ s : Service Faulty, s.remote.store = st → ∀ now now' n,
      (s.saveAndLoad t now now').1 = .ok n →
        (s.saveAndLoad t now now').2.BillsOldOrNew st t.settled now) ↔
      (b.rate t.model).Separable t.settled.rate) ∧
    (t.rate.ReadsBack → t.settled.rate = t.rate ∧ ∀ registry : Registry, ∀ now,
      registry.BillsOldOrNew st t.settled now → registry.BillsOldOrNew st t now) := by
  have hcut := resolve_cutShort h hp ht hrec {}
  refine ⟨?_, fun landed => ⟨⟨{}, ⟨st, cutShort landed⟩⟩, rfl, fun now now' =>
    hcut now now' landed⟩, ⟨fun hsafe => ?_, ?_⟩, fun hback =>
    ⟨t.rate_settled.trans hback.reread_eq, fun registry now hbills => hbills.of_settled hback⟩⟩
  · rintro s rfl now now' n hok
    exact ⟨exists_mix h hp hrec hok, fun hput => billsOldOrNew_of_served h hp ht hrec hput hok⟩
  · obtain ⟨hr, -, -⟩ := Tariff.isSet_of_check ht hp
    have hrate : t.settled.rate = r.reread.plain := by
      rw [Tariff.rate, Tariff.settled, hp]
      rfl
    refine FlatRate.separable_of_bill_mix hset ?_ ?_ t.model fun landed => ?_
    · rw [hrate, r.reread.isSet_plain, r.isSet_reread, hr]
    · rw [hrate]
      obtain ⟨_ | p, x, c⟩ := r <;> rfl
    · obtain ⟨⟨n, hok⟩, hmix⟩ := hcut "" "" landed
      rw [← hmix 0 0]
      refine (hsafe _ rfl _ _ n hok).imp (fun hold => ?_) fun hnew => ?_
      · exact (hold 0 0).trans (resolve_loaded h hrec "" 0 0)
      · exact (hnew 0 0).trans (Registry.resolve_settled_singleton hp ht 0 0)
  · rintro hsep s rfl now now' n hok
    obtain ⟨landed, hmix⟩ := exists_mix h hp hrec hok
    exact billsOldOrNew_of_bill h hp ht hrec hmix
      (FlatRate.bill_mix_of_separable hsep landed t.model)

/-- From one price to another the model keeps a price. -/
theorem billsOldOrNew_of_price_to_price :
    let b : FlatBook := ({} : FlatBook).revise "m" { price := some 1.5 }
    let st : Store := ⟨b.toSettings, ∅⟩
    let t : Tariff := .flat "m" { price := some 2.0 }
    (st.Holds b ∧ b.contains "m" = true ∧ st.Unrecorded "m" ∧ t.check = .ok () ∧
      t.rate.ReadsBack) ∧
      ∀ s : Service Faulty, s.remote.store = st → ∀ now now' n,
        (s.saveAndLoad t now now').1 = .ok n →
          (s.saveAndLoad t now now').2.BillsOldOrNew st t now := by
  have ht : (Tariff.flat "m" { price := some 2.0 }).check = .ok () := by rfl
  intro b st t
  have hback : b.ReadsBack := fun i => by cases i <;> decide +kernel
  have hrate : t.rate.ReadsBack := by decide +kernel
  have h : st.Holds b := Store.holds_of_readsBack hback ∅
  have hrec : st.Unrecorded "m" := fun _ he => absurd he List.not_mem_nil
  obtain ⟨-, -, hsafe, hsame⟩ := resolve_of_flat_save (t := t) h rfl hrec rfl ht
  exact ⟨⟨h, rfl, hrec, ht, hrate⟩, fun s hs now now' n hok =>
    (hsame hrate).2 _ now (hsafe.2 (.inl ⟨rfl, rfl⟩) s hs now now' n hok)⟩

/-- From a price to a ratio, when of the writes only the one of the prices lands, the model is in no
table. To another price, when all writes land, it may be billed by a third one: that price is read
as another float from the text it is written as. -/
theorem neither_old_nor_new_of_price :
    let b : FlatBook := ({} : FlatBook).revise "m" { price := some 1.5 }
    let toRatio : Tariff := .flat "m" { modelRatio := some 2.0 }
    let toPrice : Tariff := .flat "m" { price := some 94.52706955539223 }
    let s (landed : Part → Bool) : Service Faulty := ⟨{}, ⟨b.toSettings, ∅⟩, cutShort landed⟩
    let half := (s (· = .price)).saveAndLoad toRatio "" ""
    let whole := (s fun _ => true).saveAndLoad toPrice "" ""
    (Store.Holds ⟨b.toSettings, ∅⟩ b ∧ b.contains "m" = true ∧
      Store.Unrecorded ⟨b.toSettings, ∅⟩ "m" ∧ toRatio.check = .ok () ∧ toPrice.check = .ok ()) ∧
      ((∃ n, half.1 = .ok n) ∧
        (∀ input output, half.2.resolve "m" input output = .error (.notFound "m")) ∧
        ¬half.2.BillsOldOrNew ⟨b.toSettings, ∅⟩ toRatio "") ∧
      (∃ n, whole.1 = .ok n) ∧
        (∀ input output,
          whole.2.resolve "m" input output = .ok (.perCall 94.52706955539225)) ∧
        ¬whole.2.BillsOldOrNew ⟨b.toSettings, ∅⟩ toPrice "" := by
  have ht : (Tariff.flat "m" { modelRatio := some 2.0 }).check = .ok () := by rfl
  have ht' : (Tariff.flat "m" { price := some 94.52706955539223 }).check = .ok () := by rfl
  intro b toRatio toPrice s half whole
  have hback : b.ReadsBack := fun i => by cases i <;> decide +kernel
  have h : Store.Holds ⟨b.toSettings, ∅⟩ b := Store.holds_of_readsBack hback ∅
  have hrec : Store.Unrecorded ⟨b.toSettings, ∅⟩ "m" := fun _ he => absurd he List.not_mem_nil
  obtain ⟨hhalf, hgone⟩ := resolve_cutShort h (t := toRatio) rfl ht hrec {} "" "" (· = .price)
  obtain ⟨hwhole, hmix⟩ := resolve_cutShort h (t := toPrice) rfl ht' hrec {} "" "" fun _ => true
  have hreread : toPrice.settled.rate = { price := some 94.52706955539225 } := by decide +kernel
  have hthird (input output : UInt64) :
      whole.2.resolve "m" input output = .ok (.perCall 94.52706955539225) := by
    refine (hmix input output).trans ?_
    rw [hreread]
    rfl
  have hold := resolve_loaded h (t := toRatio) hrec "" 0 0
  refine ⟨⟨h, rfl, hrec, ht, ht'⟩, ⟨hhalf, hgone, ?_⟩, hwhole, hthird, ?_⟩
  · rintro (hsame | hnew)
    · exact nomatch (hgone 0 0).symm.trans ((hsame 0 0).trans hold)
    · exact nomatch (hgone 0 0).symm.trans (hnew 0 0)
  · rintro (hsame | hnew)
    · have hcharge := (hthird 0 0).symm.trans ((hsame 0 0).trans hold)
      exact absurd (Charge.perCall.inj (Except.ok.inj hcharge)) (by decide +kernel)
    · have hcharge := (hthird 0 0).symm.trans (hnew 0 0)
      exact absurd (Charge.perCall.inj (Except.ok.inj hcharge)) (by decide +kernel)

end Service

end TokenTariff
