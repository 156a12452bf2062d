import Mathlib
import TokenTariff.Proofs.Registry.Unreadable
import TokenTariff.Remote.Client

/-!
# Why operations fail

An operation fails because one of its calls does, because the model to be deleted is not there, or
because a table of the store cannot be read. Tables are read before a change and in the loading at
its end. What an operation writes in between can be read, so only the store that it finds decides.
-/

namespace TokenTariff

open FlatBook

/-! ### Errors of calls -/

namespace RemoteError

/-- The error is one of a call to the store, not one of the data that came back. -/
def OfCall (e : RemoteError) : Prop := ∀ p, e ≠ .pricing p

variable {e : RemoteError}

theorem ofCall_of_open {α : Type} {r : Json.Reader α} {a : Received} (h : a.open r = .error e) :
    e.OfCall := by
  unfold Received.open at h
  split at h
  · split at h <;> cases h <;> nofun
  · split at h <;> cases h
    nofun

variable {σ : Type} {c : Client} {n : Network σ} {s : σ}

theorem ofCall_of_send {α : Type} {r : Json.Reader α} {method : Web.Method} {url : Net.Url}
    {body : Option Json.Value} (h : (c.send n r method url body s).1 = .error e) : e.OfCall := by
  unfold Client.send at h
  dsimp only at h
  split at h
  · split at h
    · cases h
      nofun
    · exact ofCall_of_open h
  · cases h
    nofun

theorem error_of_map {α β : Type} {x : Except RemoteError α} {f : α → β}
    (h : x.map f = .error e) : x = .error e := by
  cases x with
  | error e' => exact congrArg Except.error (Except.error.inj h)
  | ok a => cases h

theorem ofCall_of_change {method : Web.Method} {url : Net.Url} {body : Option Json.Value}
    (h : (c.change n method url body s).1 = .error e) : e.OfCall :=
  ofCall_of_send (error_of_map h)

theorem ofCall_of_putAll {settings : List Setting} (h : (c.putAll n settings s).1 = .error e) :
    e.OfCall := by
  induction settings generalizing s with
  | nil => cases h
  | cons setting rest ih =>
    rw [Client.putAll] at h
    split at h
    · exact ih h
    · rename_i heq
      cases h
      exact ofCall_of_change (congrArg Prod.fst heq)

/-- The calls of a client fail with errors of calls only. -/
theorem ofCall_of_answer {β : Type} (call : Call β) (h : (c.answer n call s).1 = .error e) :
    e.OfCall := by
  cases call with
  | listSettings => exact ofCall_of_send (error_of_map h)
  | listRecords => exact ofCall_of_send (error_of_map h)
  | putSettings settings => exact ofCall_of_putAll h
  | upsertRecord record => exact ofCall_of_change h
  | deleteRecord model => exact ofCall_of_change h

end RemoteError

/-! ### Tables that can be read -/

namespace Store

def Readable (st : Store) : Prop := ∃ b, FlatBook.ofSettings st.settings = .ok b

variable {st : Store} {b : FlatBook}

theorem unreadable_iff : st.Unreadable ↔ ¬ st.Readable := by
  rw [Readable, ofSettings_ok_iff, Unreadable]
  push Not
  rfl

theorem Readable.ne_error (h : st.Readable) (c : Malformed) :
    FlatBook.ofSettings st.settings ≠ .error c := by
  obtain ⟨b, hb⟩ := h
  rw [hb]
  nofun

theorem readable_putSetting (h : st.Readable) (i : Part) {t : Table Float}
    (ht : ∀ e ∈ t.entries, e.2.isFinite = true) : (st.putSetting (setting i t)).Readable := by
  have htext : IsTableText (setting i t).value :=
    (readTable_iff i.key _).1 ⟨_, readTable_writeTable i.key ht⟩
  have hold := (ofSettings_ok_iff _).1 h
  refine (ofSettings_ok_iff _).2 fun s hs hkey => ?_
  rcases Setting.mem_putIn hs with rfl | hs
  · exact htext
  · exact hold s hs hkey

theorem readable_applyAll (h : st.Readable) (hb : b.Finite) {as : List Access}
    (has : as.Perm (Call.putSettings b.toSettings).accesses) : (st.applyAll as).Readable := by
  have hwrites : ∀ a ∈ as, ∃ i, a = write b i := fun a ha =>
    mem_accesses_putSettings.1 (has.subset ha)
  clear has
  induction as generalizing st with
  | nil => exact h
  | cons a as ih =>
    obtain ⟨⟨i, rfl⟩, hrest⟩ := List.forall_mem_cons.1 hwrites
    exact ih (readable_putSetting h i (hb i)) hrest

end Store

/-! ### How sessions fail -/

namespace Session

variable {E : RemoteError → Prop} {st : Store} {b : FlatBook} {t : Tariff}

/-- Why an operation over the store fails: a call does, the settings are no book, which is met
before a change or in a loading, or there is nothing to delete. -/
inductive Cause (E : RemoteError → Prop) (st : Store) (op : Operation) : ServiceError → Prop where
  | call {e : RemoteError} (he : E e) : Cause E st op (.remote e)
  | reading {c : Malformed} (hc : FlatBook.ofSettings st.settings = .error c) :
    Cause E st op (malformed c)
  | loading {c : Malformed} (hc : FlatBook.ofSettings st.settings = .error c) :
    Cause E st op (.remote (.pricing (.malformed c)))
  | absent {model : String} {b : FlatBook} (hop : op = .delete model)
    (hb : FlatBook.ofSettings st.settings = .ok b) (hrecord : st.records.contains model = false)
    (hbook : b.contains model = false) : Cause E st op (.notFound model)

/-- A success tells that the tables could be read, and a failure has a cause. -/
def Accounts (E : RemoteError → Prop) (st : Store) (op : Operation) {α : Type} :
    Except ServiceError α → Prop
  | .ok _ => st.Readable
  | .error e => Cause E st op e

/-- Only a call can fail, and otherwise the tables can be read in the end. -/
def Keeps (E : RemoteError → Prop) {α : Type} : Except ServiceError α → Store → Prop
  | .ok _, st' => st'.Readable
  | .error e, _ => ∃ e', E e' ∧ e = .remote e'

theorem Keeps.accounts {α : Type} {r : Except ServiceError α} {st' : Store} (h : Keeps E r st')
    (hst : st.Readable) (op : Operation) : Accounts E st op r := by
  cases r with
  | ok a => exact hst
  | error e =>
    obtain ⟨e, he, rfl⟩ := h
    exact .call he

/-! What is written can be read. -/

theorem ends_putSettings_keeps (h : st.Readable) (hb : b.Finite) :
    (ask (.putSettings b.toSettings)).Ends E .remote (Keeps E) st :=
  ⟨fun _ has => Store.readable_applyAll h hb has, fun e _ he _ => ⟨e, he, rfl⟩⟩

theorem ends_clear_keeps (h : st.Readable) (model : String) :
    (clear model).Ends E .remote (Keeps E) st := by
  refine Ends.bind (ends_listRecords ?_ fun e he => ⟨e, he, rfl⟩)
  change (ite _ _ _ : Session ServiceError Unit).Ends _ _ _ st
  split
  · exact ends_ask rfl h (fun e he => ⟨e, he, rfl⟩) fun e he => ⟨e, he, rfl⟩
  · exact ends_pure h

theorem ends_write_keeps (h : FlatBook.ofSettings st.settings = .ok b) (ht : t.check = .ok ()) :
    (write t b).Ends E .remote (Keeps E) st := by
  have hb : b.Finite := finite_of_ofSettings h
  cases hp : t.plan with
  | flat r =>
    rw [write_flat hp (Tariff.isSet_of_check ht hp).1]
    refine Ends.bind ((ends_putSettings_keeps ⟨b, h⟩
      (hb.revise (Tariff.finite_rate ht) t.model)).mono fun r st' hr => ?_)
    cases r with
    | ok u => exact ends_clear_keeps hr t.model
    | error e => exact hr
  | tiered ts =>
    unfold write TierRecord.ofTariff?
    rw [hp]
    refine Ends.bind (ends_ask rfl ?_ (fun e he => ⟨e, he, rfl⟩) fun e he => ⟨e, he, rfl⟩)
    change (ite _ _ _ : Session ServiceError Unit).Ends _ _ _ _
    split
    · exact ends_putSettings_keeps ⟨b, h⟩ (hb.erase t.model)
    · exact ends_pure ⟨b, h⟩

theorem ends_reload_keeps (h : st.Readable) : reload.Ends E .remote (Keeps E) st := by
  obtain ⟨b, hb⟩ := h
  exact Ends.mapError ServiceError.remote (ends_load hb ⟨b, hb⟩ fun e he => ⟨e, he, rfl⟩)

/-! The sessions. -/

theorem ends_readBook_accounts {Q : Except ServiceError FlatBook → Store → Prop}
    (hok : ∀ b, FlatBook.ofSettings st.settings = .ok b → Q (.ok b) st)
    (hno : ∀ e, Cause E st op e → Q (.error e) st) : readBook.Ends E .remote Q st := by
  refine Ends.bind (ends_listSettings (ends_ofExcept ?_) fun e he => hno _ (.call he))
  cases hb : FlatBook.ofSettings st.settings with
  | ok b => exact hok b hb
  | error c => exact hno _ (.reading hb)

/-- Loading a store with the same settings. -/
theorem ends_reload_accounts {st' : Store} (h : st'.settings = st.settings) (op : Operation) :
    reload.Ends E .remote (fun r _ => Accounts E st op r) st' := by
  refine Ends.mapError ServiceError.remote ?_
  refine Ends.bind (ends_listRecords (Ends.bind (ends_listSettings (Ends.bind
    (ends_ofExcept ?_)) fun e he => .call he)) fun e he => .call he)
  rw [h]
  cases hb : FlatBook.ofSettings st.settings with
  | ok b => exact ends_pure ⟨b, hb⟩
  | error c => exact .loading hb

theorem ends_save_accounts (ht : t.check = .ok ()) :
    (save t).Ends E .remote (fun r _ => Accounts E st (.save t) r) st := by
  rw [save_eq, ht]
  refine Ends.bind (ends_pure (Ends.bind (ends_readBook_accounts (fun b hb => ?_) fun e he => he)))
  refine Ends.bind ((ends_write_keeps hb ht).mono fun r st' hr => ?_)
  cases r with
  | error e => exact hr.accounts ⟨b, hb⟩ _
  | ok u => exact (ends_reload_keeps hr).mono fun r _ hr => hr.accounts ⟨b, hb⟩ _

/-- A deletion that goes on has left the settings alone or put ones that can be read. -/
theorem ends_remove_accounts (st : Store) (model : String) :
    (remove model).Ends E .remote (fun r st' =>
      match r with
      | .ok _ => st'.settings = st.settings ∨ st.Readable ∧ st'.Readable
      | .error e => Cause E st (.delete model) e) st := by
  refine Ends.bind (ends_listRecords ?_ fun e he => .call he)
  change (ite _ _ _ : Session ServiceError PlanKind).Ends _ _ _ _
  split
  · exact Ends.bind (ends_ask rfl (ends_pure (.inl rfl)) (fun e he => .call he)
      fun e he => .call he)
  · rename_i hrecord
    rw [Bool.not_eq_true] at hrecord
    refine Ends.bind (ends_readBook_accounts (fun b hb => ?_) fun e he => he)
    change (ite _ _ _ : Session ServiceError PlanKind).Ends _ _ _ _
    split
    · refine Ends.bind ((ends_putSettings_keeps ⟨b, hb⟩
        ((finite_of_ofSettings hb).erase model)).mono fun r st' hr => ?_)
      cases r with
      | ok u => exact ends_pure (.inr ⟨⟨b, hb⟩, hr⟩)
      | error e =>
        obtain ⟨e, he, rfl⟩ := hr
        exact .call he
    · rename_i hbook
      exact .absent rfl hb hrecord (by simpa using hbook)

theorem ends_delete_accounts (st : Store) (model : String) :
    (delete model).Ends E .remote (fun r _ => Accounts E st (.delete model) r) st := by
  refine Ends.bind ((ends_remove_accounts st model).mono fun r st' hr => ?_)
  cases r with
  | error e => exact hr
  | ok kind =>
    have hreload : reload.Ends E .remote (fun r _ => Accounts E st (.delete model) r) st' := by
      rcases hr with hsettings | ⟨hst, hst'⟩
      · exact ends_reload_accounts hsettings _
      · exact (ends_reload_keeps hst').mono fun r _ hr => hr.accounts hst _
    refine Ends.bind (hreload.mono fun r _ hr => ?_)
    cases r with
    | ok ts => exact hr
    | error e => exact hr

end Session

def Reply.error? : Reply → Option ServiceError
  | refreshed (.error e) => some (.remote e)
  | saved (.error e) => some e
  | deleted (.error e) => some e
  | refreshed (.ok _) | saved (.ok _) | deleted (.ok _) => none

namespace Service

variable {s : Service Faulty} {op : Operation}

/-- Every reply accounts for what the store was before. -/
theorem accounts_perform {E : RemoteError → Prop} (hs : s.remote.Errors E)
    (hop : ∀ t, op = .save t → t.check = .ok ()) (now : String) :
    match (s.perform Faulty.backend now op).1.error? with
    | none => s.remote.store.Readable
    | some e => Session.Cause E s.remote.store op e := by
  cases op with
  | refresh =>
    have hends : Session.reload.Ends E .remote
        (fun r _ => Session.Accounts E s.remote.store .refresh r) s.remote.store :=
      Session.ends_reload_accounts rfl .refresh
    have hend := (hends.run hs).1
    have hreload : Session.reload.run Faulty.backend ServiceError.remote s.remote = _ :=
      Session.run_mapError Faulty.backend id ServiceError.remote Session.load s.remote
    rw [hreload] at hend
    rw [perform_refresh]
    rcases hrun : Session.load.run Faulty.backend id s.remote with ⟨e | ts, remote⟩ <;>
      rw [hrun] at hend <;> exact hend
  | save t =>
    have hend := ((Session.ends_save_accounts (hop t rfl)).run hs).1
    rw [perform_save]
    rcases hrun : (Session.save t).run Faulty.backend ServiceError.remote s.remote with
      ⟨e | ts, remote⟩ <;> rw [hrun] at hend <;> exact hend
  | delete model =>
    have hend := ((Session.ends_delete_accounts s.remote.store model).run hs).1
    rw [perform_delete]
    rcases hrun : (Session.delete model).run Faulty.backend ServiceError.remote s.remote with
      ⟨e | ⟨kind, ts⟩, remote⟩ <;> rw [hrun] at hend <;> exact hend

end Service

end TokenTariff
