import Mathlib
import TokenTariff.Proofs.Registry.Operations
import TokenTariff.Proofs.Remote.Traces

/-!
# No change is lost silently

Over a store on the web, an operation that succeeds has exchanged exactly what its session asks for.
What it changes follows from what it has read: the record or the tables of the new tariff are
written, the other place is cleared if the model was found there, and the store has granted every
one of these changes.
-/

namespace TokenTariff

variable {c : Client} {o : Arrival} {log : List Exchange}

/-! ### Operations by their exchanges -/

namespace Client

variable (c o)

def Reloaded (log : List Exchange) : Prop :=
  ∃ records settings e e', log = [e, e'] ∧ c.ToldRecords records e ∧ c.ToldSettings settings e'

def ToldBook (b : FlatBook) (e : Exchange) : Prop :=
  ∃ settings, c.ToldSettings settings e ∧ FlatBook.ofSettings settings = .ok b

/-- What an operation has exchanged that did all it had to do. -/
inductive Completed : Operation → List Exchange → Prop
  | refresh {reads : List Exchange} : c.Reloaded reads → Completed .refresh reads
  | saveTiered {t : Tariff} {r : TierRecord} {b : FlatBook} {book : Exchange}
      {changes reads : List Exchange} (hr : TierRecord.ofTariff? t = some r)
      (hbook : c.ToldBook b book)
      (hchanges : List.Forall₂ c.Granted
        (.upsertRecord r ::
          if t.model ∈ b.prices.names ∨ t.model ∈ b.ratios.names ∨ t.model ∈ b.completions.names
          then o.puts (b.erase t.model) else []) changes)
      (hreads : c.Reloaded reads) : Completed (.save t) (book :: (changes ++ reads))
  | saveFlat {t : Tariff} {b b' : FlatBook} {records : Table TierRecord} {book found : Exchange}
      {puts deletes reads : List Exchange} (hr : TierRecord.ofTariff? t = none)
      (hbook : c.ToldBook b book) (henter : b.enter t = .ok b')
      (hputs : List.Forall₂ c.Granted (o.puts b') puts) (hfound : c.ToldRecords records found)
      (hdeletes : List.Forall₂ c.Granted
        (if records.contains t.model then [.deleteRecord t.model] else []) deletes)
      (hreads : c.Reloaded reads) :
      Completed (.save t) (book :: (puts ++ found :: (deletes ++ reads)))
  | deleteTiered {model : String} {records : Table TierRecord} {found change : Exchange}
      {reads : List Exchange} (hfound : c.ToldRecords records found)
      (hrecord : records.contains model = true) (hchange : c.Granted (.deleteRecord model) change)
      (hreads : c.Reloaded reads) : Completed (.delete model) (found :: change :: reads)
  | deleteFlat {model : String} {b : FlatBook} {records : Table TierRecord} {found book : Exchange}
      {puts reads : List Exchange} (hfound : c.ToldRecords records found)
      (hrecord : records.contains model = false) (hbook : c.ToldBook b book)
      (hmodel : model ∈ b.prices.names ∨ model ∈ b.ratios.names)
      (hputs : List.Forall₂ c.Granted (o.puts (b.erase model)) puts)
      (hreads : c.Reloaded reads) : Completed (.delete model) (found :: book :: (puts ++ reads))

end Client

theorem TierRecord.model_of_ofTariff? {t : Tariff} {r : TierRecord}
    (hr : TierRecord.ofTariff? t = some r) : r.model = t.model := by
  unfold TierRecord.ofTariff? at hr
  split at hr
  · rw [← Option.some.inj hr]
  · cases hr

namespace FlatBook

variable {b : FlatBook} {model : String}

theorem contains_iff_mem_names :
    b.contains model = true ↔ model ∈ b.prices.names ∨ model ∈ b.ratios.names := by
  rw [contains, Bool.or_eq_true, Table.mem_names, Table.mem_names]

theorem mentions_iff_mem_names : b.mentions model = true ↔
    model ∈ b.prices.names ∨ model ∈ b.ratios.names ∨ model ∈ b.completions.names := by
  rw [mentions, Bool.or_eq_true, contains_iff_mem_names, Table.mem_names b.completions, or_assoc]

end FlatBook

/-! ### Exchanges of the sessions -/

namespace Session

theorem exchanged_listSettings {ε : Type} {settings : List Setting} :
    (ask .listSettings : Session ε _).Exchanged c o log settings ↔
      ∃ e, log = [e] ∧ c.ToldSettings settings e := exchanged_ask

theorem exchanged_listRecords {ε : Type} {records : Table TierRecord} :
    (ask .listRecords : Session ε _).Exchanged c o log records ↔
      ∃ e, log = [e] ∧ c.ToldRecords records e := exchanged_ask

theorem exchanged_putSettings {ε : Type} {b : FlatBook} {u : Unit} :
    (ask (.putSettings b.toSettings) : Session ε _).Exchanged c o log u ↔
      List.Forall₂ c.Granted (o.puts b) log := exchanged_ask

theorem exchanged_readBook {b : FlatBook} :
    readBook.Exchanged c o log b ↔ ∃ e, log = [e] ∧ c.ToldBook b e := by
  rw [readBook, exchanged_bind]
  constructor
  · rintro ⟨settings, l, l', rfl, hsettings, hbook⟩
    obtain ⟨e, rfl, he⟩ := exchanged_listSettings.1 hsettings
    obtain ⟨rfl, hb⟩ := exchanged_ofExcept.1 hbook
    exact ⟨e, rfl, settings, he, hb⟩
  · rintro ⟨e, rfl, settings, he, hbook⟩
    exact ⟨settings, [e], [], rfl, exchanged_listSettings.2 ⟨e, rfl, he⟩,
      exchanged_ofExcept.2 ⟨rfl, hbook⟩⟩

theorem reloaded_of_load {ts : List Tariff} (h : load.Exchanged c o log ts) : c.Reloaded log := by
  obtain ⟨records, _, _, rfl, hrecords, hrest⟩ := exchanged_bind.1 h
  obtain ⟨settings, _, _, rfl, hsettings, hend⟩ := exchanged_bind.1 hrest
  obtain ⟨b, _, _, rfl, hbook, hts⟩ := exchanged_bind.1 hend
  obtain ⟨rfl, -⟩ := exchanged_ofExcept.1 hbook
  obtain ⟨rfl, -⟩ := exchanged_pure.1 hts
  obtain ⟨e, rfl, he⟩ := exchanged_listRecords.1 hrecords
  obtain ⟨e', rfl, he'⟩ := exchanged_listSettings.1 hsettings
  exact ⟨records, settings, e, e', rfl, he, he'⟩

theorem reloaded_of_reload {ts : List Tariff} (h : reload.Exchanged c o log ts) : c.Reloaded log :=
  reloaded_of_load (exchanged_mapError.1 h)

/-- A change that is made if something holds. -/
theorem granted_of_if {p : Prop} [Decidable p] {call : Call Unit} {as : List Access} {u : Unit}
    (hcall : (ask call : Session ServiceError Unit).Exchanged c o log u →
      List.Forall₂ c.Granted as log)
    (h : (if p then ask call else pure () : Session ServiceError Unit).Exchanged c o log u) :
    List.Forall₂ c.Granted (if p then as else []) log := by
  split_ifs at h ⊢
  · exact hcall h
  · obtain ⟨rfl, -⟩ := exchanged_pure.1 h
    exact .nil

theorem granted_of_saveTiered {r : TierRecord} {b : FlatBook} {u : Unit}
    (h : (saveTiered r b).Exchanged c o log u) :
    List.Forall₂ c.Granted
      (.upsertRecord r :: if b.mentions r.model then o.puts (b.erase r.model) else []) log := by
  obtain ⟨_, _, _, rfl, hrecord, hputs⟩ := exchanged_bind.1 h
  exact List.rel_append (exchanged_ask.1 hrecord) (granted_of_if exchanged_putSettings.1 hputs)

theorem exists_of_saveFlat {t : Tariff} {b : FlatBook} {u : Unit}
    (h : (saveFlat t b).Exchanged c o log u) :
    ∃ b' records puts found deletes, log = puts ++ found :: deletes ∧ b.enter t = .ok b' ∧
      List.Forall₂ c.Granted (o.puts b') puts ∧ c.ToldRecords records found ∧
      List.Forall₂ c.Granted
        (if records.contains t.model then [.deleteRecord t.model] else []) deletes := by
  obtain ⟨b', _, _, rfl, henter, hrest⟩ := exchanged_bind.1 h
  obtain ⟨rfl, hb'⟩ := exchanged_ofExcept.1 henter
  obtain ⟨_, puts, _, rfl, hputs, hchecked⟩ := exchanged_bind.1 hrest
  obtain ⟨records, _, deletes, rfl, hrecords, hdeletes⟩ := exchanged_bind.1 hchecked
  obtain ⟨found, rfl, hfound⟩ := exchanged_listRecords.1 hrecords
  exact ⟨b', records, puts, found, deletes, rfl, hb', exchanged_putSettings.1 hputs, hfound,
    granted_of_if exchanged_ask.1 hdeletes⟩

theorem completed_of_save {t : Tariff} {ts : List Tariff} (h : (save t).Exchanged c o log ts) :
    c.Completed o (.save t) log := by
  rw [save_eq] at h
  obtain ⟨_, _, _, rfl, hcheck, hrest⟩ := exchanged_bind.1 h
  obtain ⟨rfl, -⟩ := exchanged_ofExcept.1 hcheck
  obtain ⟨b, _, _, rfl, hread, hwritten⟩ := exchanged_bind.1 hrest
  obtain ⟨book, rfl, hbook⟩ := exchanged_readBook.1 hread
  obtain ⟨_, changes, reads, rfl, hwrite, hreload⟩ := exchanged_bind.1 hwritten
  have hreads := reloaded_of_reload hreload
  change c.Completed o (.save t) (book :: (changes ++ reads))
  unfold write at hwrite
  split at hwrite
  · rename_i r hr
    have hchanges := granted_of_saveTiered hwrite
    rw [TierRecord.model_of_ofTariff? hr] at hchanges
    simp only [FlatBook.mentions_iff_mem_names] at hchanges
    exact .saveTiered hr hbook hchanges hreads
  · rename_i hr
    obtain ⟨b', records, puts, found, deletes, rfl, henter, hputs, hfound, hdeletes⟩ :=
      exists_of_saveFlat hwrite
    rw [List.append_assoc, List.cons_append]
    exact .saveFlat hr hbook henter hputs hfound hdeletes hreads

theorem completed_of_delete {model : String} {kind : PlanKind} {ts : List Tariff}
    (h : (delete model).Exchanged c o log (kind, ts)) : c.Completed o (.delete model) log := by
  obtain ⟨_, changes, _, rfl, hremove, hrest⟩ := exchanged_bind.1 h
  obtain ⟨_, reads, _, rfl, hreload, hend⟩ := exchanged_bind.1 hrest
  obtain ⟨rfl, -⟩ := exchanged_pure.1 hend
  have hreads := reloaded_of_reload hreload
  obtain ⟨records, _, _, rfl, hrecords, hchosen⟩ := exchanged_bind.1 hremove
  obtain ⟨found, rfl, hfound⟩ := exchanged_listRecords.1 hrecords
  rw [List.append_nil]
  split_ifs at hchosen with hrecord
  · obtain ⟨_, _, _, rfl, hask, hkind⟩ := exchanged_bind.1 hchosen
    obtain ⟨rfl, -⟩ := exchanged_pure.1 hkind
    obtain ⟨change, rest, hchange, hnil, rfl⟩ := List.forall₂_cons_left_iff.1 (exchanged_ask.1 hask)
    obtain rfl := List.forall₂_nil_left_iff.1 hnil
    exact .deleteTiered hfound hrecord hchange hreads
  · obtain ⟨b, _, _, rfl, hread, hcleared⟩ := exchanged_bind.1 hchosen
    obtain ⟨book, rfl, hbook⟩ := exchanged_readBook.1 hread
    split_ifs at hcleared with hmodel
    · obtain ⟨_, puts, _, rfl, hputs, hkind⟩ := exchanged_bind.1 hcleared
      obtain ⟨rfl, -⟩ := exchanged_pure.1 hkind
      rw [List.append_nil]
      exact .deleteFlat hfound (Bool.eq_false_iff.2 hrecord) hbook
        (FlatBook.contains_iff_mem_names.1 hmodel)
        (exchanged_putSettings.1 hputs) hreads
    · exact hcleared.elim

end Session

/-! ### Changes that are granted -/

/-- The exchange asks for something, or it changes something and was granted. -/
def Exchange.Settled (e : Exchange) : Prop :=
  e.1.method ≠ .get → ∃ reply, e.2 = some reply ∧ reply.Grants

namespace Client

theorem Granted.settled {a : Access} {e : Exchange} (h : c.Granted a e) : e.Settled := fun _ => h.2

theorem settled_of_forall₂ {as : List Access} {es : List Exchange}
    (h : List.Forall₂ c.Granted as es) : ∀ e ∈ es, e.Settled := by
  induction h with
  | nil => exact List.forall_mem_nil _
  | cons he _ ih => exact List.forall_mem_cons.2 ⟨he.settled, ih⟩

theorem ToldSettings.settled {settings : List Setting} {e : Exchange}
    (h : c.ToldSettings settings e) : e.Settled := fun hget => absurd (congrArg (·.method) h.1) hget

theorem ToldRecords.settled {records : Table TierRecord} {e : Exchange}
    (h : c.ToldRecords records e) : e.Settled := fun hget => absurd (congrArg (·.method) h.1) hget

theorem ToldBook.settled {b : FlatBook} {e : Exchange} (h : c.ToldBook b e) : e.Settled := by
  obtain ⟨settings, hsettings, -⟩ := h
  exact hsettings.settled

theorem Reloaded.settled (h : c.Reloaded log) : ∀ e ∈ log, e.Settled := by
  obtain ⟨records, settings, e, e', rfl, he, he'⟩ := h
  exact List.forall_mem_cons.2 ⟨he.settled, List.forall_mem_singleton.2 he'.settled⟩

/-- An operation that did all it had to do was granted every change. -/
theorem Completed.settled {op : Operation} (h : c.Completed o op log) : ∀ e ∈ log, e.Settled := by
  cases h with
  | refresh hreads => exact hreads.settled
  | saveTiered hr hbook hchanges hreads =>
    rw [List.forall_mem_cons, List.forall_mem_append]
    exact ⟨hbook.settled, settled_of_forall₂ hchanges, hreads.settled⟩
  | saveFlat hr hbook henter hputs hfound hdeletes hreads =>
    rw [List.forall_mem_cons, List.forall_mem_append, List.forall_mem_cons, List.forall_mem_append]
    exact ⟨hbook.settled, settled_of_forall₂ hputs, hfound.settled, settled_of_forall₂ hdeletes,
      hreads.settled⟩
  | deleteTiered hfound hrecord hchange hreads =>
    rw [List.forall_mem_cons, List.forall_mem_cons]
    exact ⟨hfound.settled, hchange.settled, hreads.settled⟩
  | deleteFlat hfound hrecord hbook hmodel hputs hreads =>
    rw [List.forall_mem_cons, List.forall_mem_cons, List.forall_mem_append]
    exact ⟨hfound.settled, hbook.settled, settled_of_forall₂ hputs, hreads.settled⟩

end Client

/-! ### Operations of the service -/

/-- The network whose answers follow a script; after its end nothing comes back. -/
def Network.scripted : Network (List String) where
  exchange
    | _, [] => (none, [])
    | _, text :: rest => (some ⟨200, Utf8.encode text.toList⟩, rest)

namespace Service

variable {σ : Type} {n : Network σ} {now : String} {op : Operation}

/-- If a log changes nothing in the answers to calls, it changes nothing in a reply. -/
theorem reply_of_plain {b : Backend σ} {b' : Backend (Logged σ)}
    (hb : ∀ {β : Type} (call : Call β) (s : Logged σ),
      Logged.plain (b'.answer call s) = b.answer call s.state)
    (now : String) (s : Service (Logged σ)) (op : Operation) :
    (s.perform b' now op).1 =
      ((⟨s.registry, s.remote.state⟩ : Service σ).perform b now op).1 := by
  cases op with
  | refresh =>
    rw [perform_refresh, perform_refresh, ← Session.plain_run id hb]
    rcases Session.load.run b' id s.remote with ⟨e | ts, remote⟩ <;> rfl
  | save t =>
    rw [perform_save, perform_save, ← Session.plain_run ServiceError.remote hb]
    rcases (Session.save t).run b' ServiceError.remote s.remote with ⟨e | ts, remote⟩ <;> rfl
  | delete model =>
    rw [perform_delete, perform_delete, ← Session.plain_run ServiceError.remote hb]
    rcases (Session.delete model).run b' ServiceError.remote s.remote with
      ⟨e | ⟨kind, ts⟩, remote⟩ <;> rfl

/-- What an operation has exchanged, over a network that notes it. -/
theorem completed_of_perform {s : Service (Logged σ)}
    (h : (s.perform (c.backendBy n.logging o) now op).1.isOk = true) :
    ∃ new, (s.perform (c.backendBy n.logging o) now op).2.remote.log = s.remote.log ++ new ∧
      c.Completed o op new := by
  cases op with
  | refresh =>
    rw [perform_refresh] at h ⊢
    rcases hrun : Session.load.run (c.backendBy n.logging o) id s.remote with ⟨e | ts, remote⟩ <;>
      rw [hrun] at h
    · cases h
    · obtain ⟨new, hlog, hnew⟩ := Session.exchanged_of_run hrun
      exact ⟨new, hlog, .refresh (Session.reloaded_of_load hnew)⟩
  | save t =>
    rw [perform_save] at h ⊢
    rcases hrun : (Session.save t).run (c.backendBy n.logging o) ServiceError.remote s.remote with
      ⟨e | ts, remote⟩ <;> rw [hrun] at h
    · cases h
    · obtain ⟨new, hlog, hnew⟩ := Session.exchanged_of_run hrun
      exact ⟨new, hlog, Session.completed_of_save hnew⟩
  | delete model =>
    rw [perform_delete] at h ⊢
    rcases hrun : (Session.delete model).run (c.backendBy n.logging o) ServiceError.remote
      s.remote with ⟨e | ⟨kind, ts⟩, remote⟩ <;> rw [hrun] at h
    · cases h
    · obtain ⟨new, hlog, hnew⟩ := Session.exchanged_of_run hrun
      exact ⟨new, hlog, Session.completed_of_delete hnew⟩

variable (c o n now)

def exchanges (s : Service σ) (op : Operation) : List Exchange :=
  ((⟨s.registry, ⟨s.remote, []⟩⟩ : Service (Logged σ)).perform (c.backendBy n.logging o) now
    op).2.remote.log

/-- Over every network, an operation that succeeds has exchanged what its session asks for and
nothing else, and each change among that was answered by an envelope of success. -/
theorem completed_of_success (s : Service σ) (op : Operation)
    (h : (s.perform (c.backendBy n o) now op).1.isOk = true) :
    c.Completed o op (s.exchanges c o n now op) ∧
      ∀ e ∈ s.exchanges c o n now op, e.1.method ≠ .get →
        ∃ reply, e.2 = some reply ∧ reply.Grants := by
  have hplain {β : Type} (call : Call β) (s : Logged σ) :
      Logged.plain ((c.backendBy n.logging o).answer call s) =
        (c.backendBy n o).answer call s.state :=
    c.plain_answer n (o.arrange call) s
  have hreply := reply_of_plain hplain now ⟨s.registry, ⟨s.remote, []⟩⟩ op
  rw [← hreply] at h
  obtain ⟨new, hlog, hnew⟩ := completed_of_perform h
  rw [exchanges, hlog, List.nil_append]
  exact ⟨hnew, hnew.settled⟩

/-- A flat tariff is saved over a record of its model, and a tiered one over an entry of a table.
The tables come in reverse order, or as they are sent. -/
theorem completed_over_other_plan :
    let base : Net.Url := { scheme := "http", path := .segments ["gateway".toList, []] }
    let c : Client := ⟨base, none, none, rfl⟩
    let o : Arrival := ⟨List.reverse, List.reverse_perm⟩
    let flat : Tariff := ⟨"m", true, .flat { price := some 1 }⟩
    let tiered : Tariff := ⟨"m", true, .tiered [{ modelRatio := 1, completionRatio := 2 }]⟩
    let done := "\x7b\"success\":true\x7d"
    let settings := "\x7b\"success\":true,\"data\":[]\x7d"
    let entry := "[true,\"\",[[\"ModelPrice\",\"\x7b\\\"m\\\":1\x7d\"]]]"
    let records := "[true,\"\",\x7b\"m\":[\"m\"]\x7d]"
    let s : Service (List String) :=
      ⟨{}, [settings, done, done, done, records, done, done, done]⟩
    let s' : Service (List String) := ⟨{}, [entry, done, done, done, done, records, settings]⟩
    ((s.perform (c.backendBy .scripted o) "noon" (.save flat)).1.isOk = true ∧
      c.Completed o (.save flat) (s.exchanges c o .scripted "noon" (.save flat)) ∧
      (s.exchanges c o .scripted "noon" (.save flat)).map (·.1.method) =
        [.get, .put, .put, .put, .get, .delete, .get, .get]) ∧
    (s'.perform (c.backend .scripted) "noon" (.save tiered)).1.isOk = true ∧
      c.Completed .asSent (.save tiered) (s'.exchanges c .asSent .scripted "noon" (.save tiered)) ∧
      (s'.exchanges c .asSent .scripted "noon" (.save tiered)).map (·.1.method) =
        [.get, .post, .put, .put, .put, .get, .get] := by
  intro base c o flat tiered done settings entry records s s'
  have hflat : (s.perform (c.backendBy .scripted o) "noon" (.save flat)).1.isOk = true := by
    dsimp only [s, flat, c, o, base, settings, done, records]
    decide +kernel
  have htiered : (s'.perform (c.backendBy .scripted .asSent) "noon" (.save tiered)).1.isOk =
      true := by
    dsimp only [s', tiered, c, base, entry, done, records, settings]
    decide +kernel
  refine ⟨⟨hflat, (completed_of_success _ _ .scripted "noon" _ _ hflat).1, ?_⟩, ?_,
    (completed_of_success _ _ .scripted "noon" _ _ htiered).1, ?_⟩
  · dsimp only [s, flat, c, o, base, settings, done, records]
    decide +kernel
  · rwa [← Client.backendBy_asSent]
  · dsimp only [s', tiered, c, base, entry, done, records, settings]
    decide +kernel

end Service

end TokenTariff
