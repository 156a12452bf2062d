import Mathlib
import TokenTariff.Proofs.Catalog.Readable
import TokenTariff.Proofs.Registry.Operations
import TokenTariff.Proofs.Remote.Journal

/-!
# Tables that cannot be read

Whoever writes a table has read all tables before, so a setting that is no table stops every write
of settings, whichever of the tables it stands for and whatever else is in the store. A save reads
first and so does nothing at all. A deletion may still delete a record, which needs no table, but
the loading at its end fails.
-/

namespace TokenTariff

open FlatBook Json

/-- Some setting stands at the key of a table and is no table. -/
def Store.Unreadable (st : Store) : Prop :=
  ∃ s ∈ st.settings, (∃ i : Part, s.key = i.key) ∧ ¬ IsTableText s.value

theorem Store.Unreadable.error {st : Store} (h : st.Unreadable) :
    ∃ c, FlatBook.ofSettings st.settings = .error c := by
  cases hb : FlatBook.ofSettings st.settings with
  | error c => exact ⟨c, rfl⟩
  | ok b =>
    obtain ⟨s, hs, hkey, htext⟩ := h
    exact absurd ((ofSettings_ok_iff _).1 ⟨b, hb⟩ s hs hkey) htext

theorem Store.Unreadable.of_settings {st st' : Store} (h : st.Unreadable)
    (hst : st'.settings = st.settings) : st'.Unreadable := by
  unfold Unreadable
  rw [hst]
  exact h

namespace Access

def IsRead (a : Access) : Prop := a.kind = .listSettings ∨ a.kind = .listRecords

def SparesSettings (a : Access) : Prop := a.kind ≠ .putSetting

theorem IsRead.sparesSettings {a : Access} (h : a.IsRead) : a.SparesSettings := by
  rcases h with h | h <;> simp [SparesSettings, h]

end Access

namespace Session

variable {E : RemoteError → Prop} {st : Store} {A : Access → Prop}

/-! ### How the sessions end -/

theorem ends_readBook_unreadable (h : st.Unreadable) :
    readBook.Ends E .remote (Fails (· = st)) st := by
  obtain ⟨c, hc⟩ := h.error
  refine Ends.bind (ends_listSettings (ends_ofExcept ?_) fun _ _ => rfl)
  rw [hc]
  rfl

theorem ends_load_unreadable (h : st.Unreadable) : load.Ends E id (Fails (· = st)) st := by
  obtain ⟨c, hc⟩ := h.error
  refine Ends.bind (ends_listRecords (Ends.bind (ends_listSettings
    (Ends.bind_fails (ends_ofExcept ?_)) fun _ _ => rfl)) fun _ _ => rfl)
  rw [hc]
  rfl

theorem ends_reload_unreadable (h : st.Unreadable) :
    reload.Ends E .remote (Fails (· = st)) st :=
  (ends_load_unreadable h).mapError_fails ServiceError.remote

theorem ends_save_unreadable (h : st.Unreadable) (t : Tariff) :
    (save t).Ends E .remote (Fails (· = st)) st := by
  rw [save_eq]
  refine Ends.bind (ends_ofExcept ?_)
  cases t.check with
  | error c => rfl
  | ok u => exact (ends_readBook_unreadable h).bind_fails

/-- At most a record is removed. -/
theorem ends_remove_unreadable (h : st.Unreadable) (model : String) :
    (remove model).Ends E .remote (fun _ st' => st'.settings = st.settings) st := by
  refine Ends.bind (ends_listRecords ?_ fun _ _ => rfl)
  change (ite _ _ _ : Session ServiceError PlanKind).Ends _ _ _ _
  split
  · exact Ends.bind (ends_ask rfl rfl (fun _ _ => rfl) fun _ _ => rfl)
  · refine Ends.bind ((ends_readBook_unreadable h).mono fun r st' hr => ?_)
    cases r with
    | ok b => exact hr.elim
    | error e => exact congrArg Store.settings hr

theorem ends_delete_unreadable (h : st.Unreadable) (model : String) :
    (delete model).Ends E .remote (Fails (·.settings = st.settings)) st := by
  refine Ends.bind ((ends_remove_unreadable h model).mono fun r st' hr => ?_)
  cases r with
  | error e => exact hr
  | ok kind =>
    refine ((ends_reload_unreadable (h.of_settings hr)).mono fun r st'' hst => ?_).bind_fails
    cases r with
    | ok ts => exact hst.elim
    | error e => exact (congrArg Store.settings hst).trans hr

/-! ### What the sessions ask for -/

theorem asks_readBook (st : Store) : readBook.Asks Access.IsRead st :=
  asks_call rfl (.inl rfl) (asks_ofExcept _ _)

theorem asks_load (st : Store) : load.Asks Access.IsRead st :=
  asks_call rfl (.inr rfl) (asks_call rfl (.inl rfl)
    ((asks_ofExcept _ _).bind_all fun _ _ => trivial))

theorem asks_save (h : st.Unreadable) (t : Tariff) : (save t).Asks Access.IsRead st := by
  rw [save_eq]
  cases t.check with
  | error c => trivial
  | ok u => exact (asks_readBook st).bind_fails (E := fun _ => True) (ends_readBook_unreadable h)

theorem asks_remove (h : st.Unreadable) (model : String) :
    (remove model).Asks Access.SparesSettings st := by
  have hread : ∀ a, Access.IsRead a → a.SparesSettings := fun _ => Access.IsRead.sparesSettings
  refine asks_call rfl (hread _ (.inr rfl)) ?_
  split
  · exact asks_call (a := .deleteRecord model) rfl nofun trivial
  · exact ((asks_readBook st).mono hread).bind_fails (E := fun _ => True)
      (ends_readBook_unreadable h)

theorem asks_reload (st : Store) : reload.Asks Access.IsRead st := (asks_load st).mapError _

theorem asks_delete (h : st.Unreadable) (model : String) :
    (delete model).Asks Access.SparesSettings st := by
  refine (asks_remove h model).bind_all fun kind st => ?_
  exact ((asks_reload st).mono fun _ => Access.IsRead.sparesSettings).bind_all fun _ _ => trivial

end Session

namespace Service

variable {s : Service (Noted Faulty)}

/-- A session that fails leaves the registry alone and the journal with what it has asked for. -/
theorem finish_fails {ε α : Type} {p : Session ε α} {failed : RemoteError → ε}
    {P : Store → Prop} {A : Access → Prop}
    (hend : p.Ends (fun _ => True) failed (Session.Fails P) s.remote.state.store)
    (hasks : p.Asks A s.remote.state.store) (now : String) (tariffs : α → List Tariff) :
    let out := s.finish now tariffs (p.run Faulty.backend.noting failed s.remote)
    (∃ e, out.1 = .error e) ∧ out.2.registry = s.registry ∧ P out.2.remote.state.store ∧
      s.remote.Gains A out.2.remote := by
  obtain ⟨hresult, hstate⟩ := Session.run_noting Faulty.backend failed p s.remote
  have hfails := (hend.run fun _ _ _ _ => trivial).1
  have hjournal := hasks.run failed
  rw [← hresult, ← hstate] at hfails
  generalize p.run Faulty.backend.noting failed s.remote = outcome at hfails hjournal ⊢
  obtain ⟨e | a, remote⟩ := outcome
  · exact ⟨⟨e, rfl⟩, rfl, hfails, hjournal⟩
  · exact hfails.elim

theorem save_unreadable (h : s.remote.state.store.Unreadable) (now : String) (t : Tariff) :
    let out := s.save Faulty.backend.noting now t
    (∃ e, out.1 = .error e) ∧ out.2.registry = s.registry ∧
      out.2.remote.state.store = s.remote.state.store ∧
      s.remote.Gains Access.IsRead out.2.remote := by
  obtain ⟨⟨e, he⟩, hregistry, hstore, hgains⟩ := finish_fails
    (Session.ends_save_unreadable h t) (Session.asks_save h t) now id
  exact ⟨⟨e, congrArg (Except.map _) he⟩, hregistry, hstore, hgains⟩

theorem perform_unreadable (h : s.remote.state.store.Unreadable) (now : String)
    (op : Operation) :
    let out := s.perform Faulty.backend.noting now op
    out.1.isOk = false ∧ out.2.registry = s.registry ∧
      out.2.remote.state.store.settings = s.remote.state.store.settings ∧
      s.remote.Gains Access.SparesSettings out.2.remote := by
  have hread : ∀ a, Access.IsRead a → a.SparesSettings := fun _ => Access.IsRead.sparesSettings
  cases op with
  | refresh =>
    obtain ⟨⟨e, he⟩, hregistry, hstore, hgains⟩ := finish_fails
      (Session.ends_load_unreadable h) (Session.asks_load _) now id
    exact ⟨congrArg (fun r => (Except.map List.length r).isOk) he, hregistry,
      congrArg Store.settings hstore, hgains.mono hread⟩
  | save t =>
    obtain ⟨⟨e, he⟩, hregistry, hstore, hgains⟩ := save_unreadable h now t
    exact ⟨congrArg Except.isOk he, hregistry, congrArg Store.settings hstore, hgains.mono hread⟩
  | delete model =>
    obtain ⟨⟨e, he⟩, hregistry, hstore, hgains⟩ := finish_fails
      (Session.ends_delete_unreadable h model) (Session.asks_delete h model) now (·.2)
    exact ⟨congrArg (fun r => (Except.map Prod.fst r).isOk) he, hregistry, hstore, hgains⟩

/-- A run over a store with a table that cannot be read: nothing succeeds, no setting is put, not
even tried to be put, and the registry stays. A save, now or at any later time, only reads. -/
theorem performAll_unreadable (h : s.remote.state.store.Unreadable)
    (ops : List (String × Operation)) :
    let (replies, s') := s.performAll Faulty.backend.noting ops
    (∀ reply ∈ replies, reply.isOk = false) ∧ s'.registry = s.registry ∧
      s'.remote.state.store.settings = s.remote.state.store.settings ∧
      s.remote.Gains (·.kind ≠ .putSetting) s'.remote ∧
      ∀ now t, let (result, s'') := s'.save Faulty.backend.noting now t
        (∃ e, result = .error e) ∧ s''.remote.state.store = s'.remote.state.store ∧
          s'.remote.Gains (fun a => a.kind = .listSettings ∨ a.kind = .listRecords) s''.remote := by
  induction ops generalizing s with
  | nil =>
    refine ⟨List.forall_mem_nil _, rfl, rfl, .refl _ _, fun now t => ?_⟩
    obtain ⟨hfails, -, hstore, hgains⟩ := save_unreadable h now t
    exact ⟨hfails, hstore, hgains⟩
  | cons op ops ih =>
    obtain ⟨now, op⟩ := op
    obtain ⟨hfails, hregistry, hsettings, hgains⟩ := perform_unreadable h now op
    obtain ⟨hfails', hregistry', hsettings', hgains', hsave⟩ := ih (h.of_settings hsettings)
    exact ⟨List.forall_mem_cons.2 ⟨hfails, hfails'⟩, hregistry'.trans hregistry,
      hsettings'.trans hsettings, hgains.trans hgains', hsave⟩

/-- The ratios are no JSON. A deletion takes the record of the model and fails, and then a save of
the same model is refused before it writes. -/
theorem performAll_over_broken_ratios :
    let st : Store :=
      ⟨[⟨"ModelPrice", ""⟩, ⟨"ModelRatio", "oops"⟩],
        (∅ : Table TierRecord).insert "m" ⟨"m", [], true⟩⟩
    let s : Service (Noted Faulty) := ⟨{}, ⟨⟨st, []⟩, []⟩⟩
    let (replies, s') := s.performAll Faulty.backend.noting
      [("", .delete "m"), ("", .save (.flat "m" { price := some 1.5 }))]
    st.Unreadable ∧ (∀ reply ∈ replies, reply.isOk = false) ∧
      s'.remote.state.store.settings = st.settings ∧
      s'.remote.state.store.records.contains "m" = false ∧
      s.remote.Gains (·.kind ≠ .putSetting) s'.remote := by
  intro st s
  have h : st.Unreadable := by
    refine ⟨⟨"ModelRatio", "oops"⟩, by simp [st], ⟨.ratio, rfl⟩, ?_⟩
    have hdoc : Doc.ofText "oops" = (.garbled .noValue .noValue, false) := by rfl
    rintro (hblank | ⟨ns, hns⟩)
    · exact absurd hblank (by decide)
    · rw [hdoc] at hns
      cases hns
  obtain ⟨hfails, -, hsettings, hgains, -⟩ := performAll_unreadable (s := s) h
    [("", .delete "m"), ("", .save (.flat "m" { price := some 1.5 }))]
  exact ⟨h, hfails, hsettings, by rfl, hgains⟩

end Service

end TokenTariff
