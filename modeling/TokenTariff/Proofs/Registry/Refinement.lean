import Mathlib
import TokenTariff.Proofs.Catalog.Contents
import TokenTariff.Proofs.Registry.Operations

/-!
# The service as a table of tariffs

Over a store in memory that refuses no call the service is a finite map from models to tariffs with
a listing of it in the registry. Two kinds of places hold that map, records and the tables of a
book; a store is clean when no model is in both. Each operation keeps a store clean and does to the
map what the ledger says, so that a run of any length answers as the ledger does. Writing the tables
has the flat rates of all models read from their texts again, which the ledger allows for; it leaves
numbers alone that read back.
-/

namespace TokenTariff

open Json

/-- The tariffs of all models, and the registry as it was loaded last. -/
structure Ledger where
  tariffs : Table Tariff := ∅
  registry : Registry := {}

namespace Ledger

def loaded (ts : Table Tariff) (now : String) : Ledger := ⟨ts, ⟨ordered ts, some now⟩⟩

/-- One operation; `again` tells how tariffs come back from the store after it. -/
def step (again : Tariff → Tariff) (now : String) (l : Ledger) : Operation → Reply × Ledger
  | .refresh => (.refreshed (.ok (ordered l.tariffs).length), loaded l.tariffs now)
  | .save t =>
    match t.check with
    | .error c => (.saved (.error (Session.malformed c)), l)
    | .ok () => (.saved (.ok (again t).canon),
        loaded ((l.tariffs.map again).insert t.model (again t).canon) now)
  | .delete model =>
    match l.tariffs.get? model with
    | none => (.deleted (.error (.notFound model)), l)
    | some old => (.deleted (.ok old.kind), loaded ((l.tariffs.map again).erase model) now)

/-- A run after each operation of which tariffs come back as they were. -/
def stepAll (l : Ledger) : List (String × Operation) → List Reply × Ledger
  | [] => ([], l)
  | (now, op) :: ops =>
    let (reply, l) := l.step id now op
    let (replies, l) := l.stepAll ops
    (reply :: replies, l)

end Ledger

/-- What writing the places of a kind does to tariffs: flat rates are read from their texts again. -/
def PlanKind.rewritten : PlanKind → Tariff → Tariff
  | .flat => Tariff.settled
  | .tiered => id

theorem PlanKind.rewritten_eq (kind : PlanKind) :
    kind.rewritten = id ∨ kind.rewritten = Tariff.settled := by
  cases kind with
  | flat => exact .inr rfl
  | tiered => exact .inl rfl

namespace Ledger

/-- How tariffs come back after an operation that is not refused. A tiered tariff that is saved may
still find its model in the tables. -/
def Again (l : Ledger) : Operation → (Tariff → Tariff) → Prop
  | .refresh, again => again = id
  | .save t, again => again = Tariff.settled ∨ again = t.kind.rewritten
  | .delete model, again => ∀ old, l.tariffs.get? model = some old → again = old.kind.rewritten

/-- A run after each operation of which the tables may have been written. -/
inductive Runs : Ledger → List (String × Operation) → List Reply → Ledger → Prop
  | nil (l : Ledger) : Runs l [] [] l
  | cons {l l' : Ledger} {again : Tariff → Tariff} {now : String} {op : Operation}
      {ops : List (String × Operation)} {replies : List Reply} :
      l.Again op again → Runs (l.step again now op).2 ops replies l' →
      Runs l ((now, op) :: ops) ((l.step again now op).1 :: replies) l'

end Ledger

/-- The numbers that an operation puts into the tables read back. -/
def Operation.ReadsBack : Operation → Prop
  | .save t => t.check = .ok () → t.rate.ReadsBack
  | _ => True

namespace Ledger

/-- Writing the tables once more changes no tariff. -/
def Fixed (l : Ledger) : Prop := l.tariffs.map Tariff.settled = l.tariffs

variable {l l' : Ledger} {now : String} {op : Operation}

theorem Fixed.step_eq (h : l.Fixed) (hop : op.ReadsBack) {again : Tariff → Tariff}
    (hagain : l.Again op again) : l.step again now op = l.step id now op := by
  have hmap : l.tariffs.map Tariff.settled = l.tariffs.map id := h.trans (Table.map_id _).symm
  cases op with
  | refresh => rfl
  | save t =>
    obtain rfl | rfl : again = id ∨ again = Tariff.settled :=
      hagain.elim .inr fun heq => heq ▸ t.kind.rewritten_eq
    · rfl
    rw [step, step]
    cases ht : t.check with
    | error c => rfl
    | ok =>
      rw [hmap, Tariff.canon_settled (hop ht)]
      rfl
  | delete model =>
    rw [step, step]
    cases hget : l.tariffs.get? model with
    | none => rfl
    | some old =>
      obtain rfl := hagain old hget
      obtain heq | heq := old.kind.rewritten_eq <;> rw [heq]
      rw [hmap]

theorem Fixed.step (h : l.Fixed) (hop : op.ReadsBack) : (l.step id now op).2.Fixed := by
  have hput {model : String} {v : Option Tariff} (hv : v.map Tariff.settled = v) :
      ((l.tariffs.map id).put model v).map Tariff.settled = (l.tariffs.map id).put model v := by
    rw [Table.map_put, hv, Table.map_id, h]
  cases op with
  | refresh => exact h
  | save t =>
    rw [Ledger.step]
    cases ht : t.check with
    | error c => exact h
    | ok =>
      refine hput (v := some t.canon) ?_
      rw [Option.map_some, Tariff.settled_canon, Tariff.canon_settled (hop ht)]
  | delete model =>
    rw [Ledger.step]
    cases l.tariffs.get? model with
    | none => exact h
    | some old => exact hput (v := none) rfl

/-- When all numbers read back there is just one run. -/
theorem Runs.eq_stepAll {ops : List (String × Operation)} {replies : List Reply}
    (hruns : l.Runs ops replies l') (h : l.Fixed) (hops : ∀ e ∈ ops, e.2.ReadsBack) :
    (replies, l') = l.stepAll ops := by
  induction hruns with
  | nil => rfl
  | cons hagain hrest ih =>
    obtain ⟨hop, hops⟩ := List.forall_mem_cons.1 hops
    dsimp only at hop
    rw [h.step_eq hop hagain] at ih ⊢
    have htail := ih (h.step hop) hops
    rw [stepAll]
    dsimp only
    rw [← htail]

end Ledger

namespace Store

/-- The store holds a book, every record stands under its own model and has a tier, and no model
with a record has a flat tariff in the book. -/
structure Clean (st : Store) (b : FlatBook) : Prop where
  holds : st.Holds b
  ownNames : TierRecord.OwnNames st.records
  tiers : ∀ model r, st.records.get? model = some r → r.tiers.isEmpty = false
  apart : ∀ model, st.records.contains model = true → b.contains model = false

variable {st st' : Store} {b : FlatBook} {t : Tariff} {model : String}

/-- The record of a clean store is what its model shows. -/
theorem Clean.shown?_of_contains (h : st.Clean b) (hc : st.records.contains model = true) :
    ∃ old, shown? st.records b model = some old ∧ old.kind = .tiered := by
  obtain ⟨r, hr⟩ := Option.isSome_iff_exists.1 hc
  have ht : r.tariff? = some ⟨r.model, r.enabled, .tiered r.tiers⟩ := by
    rw [TierRecord.tariff?_eq, h.tiers model r hr, if_neg Bool.false_ne_true]
  refine ⟨_, ?_, TierRecord.kind_of_tariff? ht⟩
  rw [shown?, hr, Option.bind_some, ht]
  rfl

theorem shown?_of_not_contains {rs : Table TierRecord} (hc : rs.contains model = false) :
    shown? rs b model = b.tariff? model := by
  have hnone : rs.get? model = none := by simpa [Table.contains] using hc
  rw [shown?, hnone]
  rfl

/-- The record of one model is set and its entries in the book are changed. -/
theorem Clean.changed {v : Option TierRecord} {b' : FlatBook} (h : st.Clean b)
    (hst' : st.Becomes (st.records.put model v) b' st')
    (hcontains : ∀ m, model ≠ m → b'.contains m = b.contains m)
    (hv : ∀ r, v = some r → r.model = model ∧ r.tiers.isEmpty = false ∧
      b'.contains model = false) : st'.Clean b' := by
  have hget (m : String) : st'.records.get? m =
      if model = m then v else st.records.get? m := by
    rw [hst'.records, Table.get?_put]
  refine ⟨hst'.holds, fun e he => ?_, fun m r hr => ?_, fun m hc => ?_⟩
  · rw [Table.mem_entries, hget] at he
    split at he
    · rename_i hm
      rw [(hv _ he).1, hm]
    · exact h.ownNames e ((st.records.mem_entries e.1 e.2).2 he)
  · rw [hget] at hr
    split at hr
    · exact (hv r hr).2.1
    · exact h.tiers m r hr
  · rw [Table.contains, hget] at hc
    split at hc
    · rename_i hm
      obtain ⟨r, hr⟩ := Option.isSome_iff_exists.1 hc
      rw [← hm, (hv r hr).2.2]
    · rename_i hm
      rw [hcontains m hm, h.apart m hc]

theorem Clean.saved (h : st.Clean b) (ht : t.check = .ok ()) (hst' : st.Saved b t st') :
    st'.Clean (b.saved t) := by
  refine h.changed hst' (fun m hm => FlatBook.contains_saved_of_ne hm) fun r hr => ?_
  rw [FlatBook.contains_eq_isSet, FlatBook.rate_saved]
  obtain ⟨m, e, rate | ts⟩ := t
  · cases hr
  · cases hr
    exact ⟨rfl, Tariff.tiers_of_check ht rfl, rfl⟩

theorem Saved.contents (hst' : st.Saved b t st') (ht : t.check = .ok ()) :
    ∃ again, (again = Tariff.settled ∨ again = t.kind.rewritten) ∧
      (again t).canon = t.settled.canon ∧
      contents st'.records (b.saved t) =
        ((contents st.records b).map again).insert t.model t.settled.canon := by
  have hmodel := shown?_saved ht st.records (b := b.saved t) FlatBook.rate_saved
  rw [← Becomes.records hst'] at hmodel
  have hother (m : String) (hm : t.model ≠ m) := shown?_saved_of_ne st.records b hm
  rw [← Becomes.records hst'] at hother
  by_cases hw : b.Written t
  · refine ⟨_, .inl rfl, rfl, Table.ext fun m => ?_⟩
    rw [get?_contents, Table.get?_insert, Table.get?_map, get?_contents]
    split
    · rename_i hm
      rw [← hm, hmodel]
    · rename_i hm
      rw [hother m hm, if_pos hw]
  · have hk : t.kind = .tiered := by
      cases hk : t.kind with
      | flat => exact absurd (.inl hk) hw
      | tiered => rfl
    refine ⟨id, .inr (by rw [hk]; rfl), by rw [Tariff.settled_of_tiered hk]; rfl,
      Table.ext fun m => ?_⟩
    rw [get?_contents, Table.get?_insert, Table.map_id, get?_contents]
    split
    · rename_i hm
      rw [← hm, hmodel]
    · rename_i hm
      rw [hother m hm, if_neg hw]

theorem contains_bookWithout (b : FlatBook) (model m : String) :
    (bookWithout b model .flat).contains m = if model = m then false else b.contains m := by
  rw [bookWithout, FlatBook.contains_reread, FlatBook.erase_eq_revise, FlatBook.contains_eq_isSet,
    FlatBook.rate_revise]
  split <;> rfl

theorem Clean.contains_of_deleted {kind : PlanKind} (h : st.Clean b)
    (hst' : st.Deleted b model kind st') : (bookWithout b model kind).contains model = false := by
  cases kind with
  | tiered => exact h.apart model hst'.1
  | flat => rw [contains_bookWithout, if_pos rfl]

theorem Clean.deleted {kind : PlanKind} (h : st.Clean b) (hst' : st.Deleted b model kind st') :
    st'.Clean (bookWithout b model kind) := by
  refine h.changed (v := none) hst'.becomes (fun m hm => ?_) fun r hr => by cases hr
  cases kind with
  | tiered => rfl
  | flat => rw [contains_bookWithout, if_neg hm]

theorem Deleted.contents {kind : PlanKind} (hst' : st.Deleted b model kind st') (h : st.Clean b) :
    contents st'.records (bookWithout b model kind) =
      ((contents st.records b).map kind.rewritten).erase model := by
  have hrec : st'.records.contains model = false := by
    rw [hst'.becomes.records, Table.contains, Table.get?_erase, if_pos rfl]
    rfl
  have hnone : shown? st'.records (bookWithout b model kind) model = none := by
    rw [shown?_of_not_contains hrec, FlatBook.tariff?, h.contains_of_deleted hst',
      if_neg Bool.false_ne_true]
  have hrecord (m : String) (hm : model ≠ m) : st'.records.get? m = st.records.get? m := by
    rw [hst'.becomes.records, Table.get?_erase, if_neg hm]
  cases kind with
  | tiered =>
    refine Table.ext fun m => ?_
    rw [PlanKind.rewritten, get?_contents, Table.get?_erase, Table.map_id, get?_contents]
    split
    · rename_i hm
      rw [← hm, hnone]
    · rename_i hm
      exact shown?_of_ne (hrecord m hm) rfl
  | flat =>
    refine Table.ext fun m => ?_
    rw [PlanKind.rewritten, get?_contents, Table.get?_erase, Table.get?_map, get?_contents]
    split
    · rename_i hm
      rw [← hm, hnone]
    · rename_i hm
      rw [bookWithout, shown?_reread]
      refine congrArg _ (shown?_of_ne (hrecord m hm) ?_)
      rw [FlatBook.erase_eq_revise, FlatBook.rate_revise, if_neg hm]

/-- A deletion tells the kind that the model showed. -/
theorem Clean.shown?_of_deleted {kind : PlanKind} (h : st.Clean b)
    (hst' : st.Deleted b model kind st') :
    ∃ old, (contents st.records b).get? model = some old ∧ old.kind = kind := by
  rw [get?_contents]
  cases kind with
  | tiered => exact h.shown?_of_contains hst'.1
  | flat =>
    rw [shown?_of_not_contains hst'.1]
    exact ⟨_, if_pos hst'.2.1, rfl⟩

end Store

/-! ### The service -/

/-- The ledger tells what the service holds: its store refuses nothing and is clean. -/
structure Ledger.Models (l : Ledger) (s : Service Memory) (b : FlatBook) : Prop where
  calm : s.remote.refusal = none
  clean : s.remote.store.Clean b
  tariffs : l.tariffs = contents s.remote.store.records b
  registry : l.registry = s.registry

/-- A step of the service is one of the ledger, and leaves the store alone if it is refused. -/
structure Ledger.Follows (l : Ledger) (again : Tariff → Tariff) (now : String) (op : Operation)
    (s : Service Memory) (b' : FlatBook) : Prop where
  reply : (s.perform Memory.backend now op).1 = (l.step again now op).1
  models : (l.step again now op).2.Models (s.perform Memory.backend now op).2 b'
  refused : (s.perform Memory.backend now op).1.isOk = false →
    (s.perform Memory.backend now op).2.remote.store = s.remote.store

namespace Ledger

variable {l : Ledger} {s : Service Memory} {b : FlatBook}

theorem Models.fixed (h : l.Models s b) (hb : b.ReadsBack) : l.Fixed := by
  rw [Fixed, h.tariffs, ← contents_reread, hb.reread_eq]

theorem Models.loaded {m : Memory} {ts : Table Tariff} (hm : m.refusal = none)
    (h : m.store.Clean b) (hts : contents m.store.records b = ts) (now : String) :
    (Ledger.loaded ts now).Models ⟨⟨m.store.listing b, some now⟩, m⟩ b := by
  refine ⟨hm, h, hts.symm, ?_⟩
  rw [Ledger.loaded, ← hts, Store.listing, catalog_eq_ordered h.ownNames]

theorem follows_refresh (hl : l.Models s b) (now : String) :
    l.Follows id now .refresh s b := by
  obtain ⟨hend, hcalm⟩ := (Session.ends_load (E := fun _ => False)
    (Q := fun r st' => r = .ok (s.remote.store.listing b) ∧ st' = s.remote.store)
    hl.clean.holds.book ⟨rfl, rfl⟩ fun _ he => he.elim).run_memory hl.calm
  have hperform := Service.perform_refresh Memory.backend now s
  rcases hrun : Session.load.run Memory.backend id s.remote with ⟨r, m⟩
  rw [hrun] at hend hcalm hperform
  obtain ⟨rfl, hst⟩ := hend
  dsimp only at hst hcalm hperform
  have hlisting : s.remote.store.listing b = ordered l.tariffs := by
    rw [hl.tariffs, Store.listing, catalog_eq_ordered hl.clean.ownNames]
  refine ⟨?_, ?_, fun _ => ?_⟩ <;> rw [hperform]
  · rw [hlisting]
    rfl
  · rw [← hst]
    exact Models.loaded hcalm (hst ▸ hl.clean) (by rw [hst, hl.tariffs]) now
  · exact hst

theorem exists_follows_save (hl : l.Models s b) (now : String) (t : Tariff) :
    ∃ again b', l.Again (.save t) again ∧ l.Follows again now (.save t) s b' := by
  obtain ⟨hend, hcalm⟩ :=
    (Session.ends_save (E := fun _ => False) hl.clean.holds t).run_memory hl.calm
  have hperform := Service.perform_save Memory.backend now s t
  rcases hrun : (Session.save t).run Memory.backend ServiceError.remote s.remote with
    ⟨e | ts, m⟩ <;> rw [hrun] at hend hcalm hperform
  · obtain ⟨c, hc, rfl, hst⟩ := hend.resolve_right fun hno => hno.2.1.elim fun _ he => he.1
    dsimp only at hst hcalm hperform
    refine ⟨_, b, .inl rfl, ?_, ?_, fun _ => ?_⟩ <;> rw [hperform]
    · rw [Ledger.step, hc]
    · rw [Ledger.step, hc]
      exact ⟨hcalm, hst ▸ hl.clean, hst ▸ hl.tariffs, hl.registry⟩
    · exact hst
  · obtain ⟨ht, hsaved, hts⟩ := hend
    dsimp only at hsaved hts hcalm hperform
    subst hts
    have hclean := hl.clean.saved ht hsaved
    obtain ⟨again, hagain, hcanon, hcontents⟩ := hsaved.contents ht
    refine ⟨again, b.saved t, hagain, ?_, ?_, fun hno => ?_⟩
    · have hget : (Registry.mk (m.store.listing (b.saved t)) (some now)).get? t.model =
          some t.settled.canon := by
        rw [Registry.get?_of_listing hclean.ownNames (b := b.saved t) rfl, ← get?_contents,
          hcontents, Table.get?_insert, if_pos rfl]
      rw [hperform, Ledger.step, ht, hget, hcanon]
      rfl
    · rw [hperform, Ledger.step, ht, hcanon]
      exact Models.loaded hcalm hclean (by rw [hcontents, hl.tariffs]) now
    · rw [hperform] at hno
      cases hno

theorem exists_follows_delete (hl : l.Models s b) (now model : String) :
    ∃ again b', l.Again (.delete model) again ∧ l.Follows again now (.delete model) s b' := by
  obtain ⟨hend, hcalm⟩ :=
    (Session.ends_delete (E := fun _ => False) hl.clean.holds model).run_memory hl.calm
  have hperform := Service.perform_delete Memory.backend now s model
  rcases hrun : (Session.delete model).run Memory.backend ServiceError.remote s.remote with
    ⟨e | ⟨kind, ts⟩, m⟩ <;> rw [hrun] at hend hcalm hperform
  · obtain ⟨hrec, hbook, rfl, hst⟩ := hend.resolve_right fun hno => hno.1.elim fun _ he => he.1
    dsimp only at hst hcalm hperform
    have hget : l.tariffs.get? model = none := by
      rw [hl.tariffs, get?_contents, Store.shown?_of_not_contains hrec, FlatBook.tariff?, hbook,
        if_neg Bool.false_ne_true]
    refine ⟨id, b, fun old hold => by simp [hget] at hold, ?_, ?_, fun _ => ?_⟩ <;> rw [hperform]
    · rw [Ledger.step, hget]
    · rw [Ledger.step, hget]
      exact ⟨hcalm, hst ▸ hl.clean, hst ▸ hl.tariffs, hl.registry⟩
    · exact hst
  · obtain ⟨hdeleted, hts⟩ := hend
    dsimp only at hdeleted hts hcalm hperform
    subst hts
    have hclean := hl.clean.deleted hdeleted
    have hcontents := hdeleted.contents hl.clean
    obtain ⟨old, hget, hkind⟩ := hl.clean.shown?_of_deleted hdeleted
    rw [← hl.tariffs] at hget
    refine ⟨kind.rewritten, Store.bookWithout b model kind, fun old' hold' => ?_, ?_, ?_,
      fun hno => ?_⟩
    · rw [hget] at hold'
      cases hold'
      rw [hkind]
    · rw [hperform, Ledger.step, hget, ← hkind]
    · rw [hperform, Ledger.step, hget]
      exact Models.loaded hcalm hclean (by rw [hcontents, hl.tariffs]) now
    · rw [hperform] at hno
      cases hno

theorem exists_follows (hl : l.Models s b) (now : String) (op : Operation) :
    ∃ again b', l.Again op again ∧ l.Follows again now op s b' := by
  cases op with
  | refresh => exact ⟨id, b, rfl, follows_refresh hl now⟩
  | save t => exact exists_follows_save hl now t
  | delete model => exact exists_follows_delete hl now model

theorem exists_runs (hl : l.Models s b) (ops : List (String × Operation)) :
    ∃ b' l', l.Runs ops (s.performAll Memory.backend ops).1 l' ∧
      l'.Models (s.performAll Memory.backend ops).2 b' := by
  induction ops generalizing l s b with
  | nil => exact ⟨b, l, .nil l, hl⟩
  | cons e ops ih =>
    obtain ⟨again, b₁, hagain, hfollows⟩ := exists_follows hl e.1 e.2
    obtain ⟨b', l', hruns, hmodels⟩ := ih hfollows.models
    refine ⟨b', l', ?_, hmodels⟩
    have hcons := Runs.cons hagain hruns
    rwa [← hfollows.reply] at hcons

end Ledger

/-- Over a clean store that refuses no call, any run of operations is a run of the ledger of what
the store holds: it answers as the ledger does, and the store and the registry then hold what is in
the ledger. An operation that is refused after it leaves the store alone. An operation that writes
the tables has flat rates read from their texts again; if the numbers of the tables and those that
are saved to them read back, this changes nothing. -/
theorem Service.performAll_refines {s : Service Memory} {b : FlatBook}
    (hcalm : s.remote.refusal = none) (h : s.remote.store.Clean b)
    (ops : List (String × Operation)) :
    let l : Ledger := ⟨contents s.remote.store.records b, s.registry⟩
    let replies := (s.performAll Memory.backend ops).1
    let s' := (s.performAll Memory.backend ops).2
    (∃ b' l', l.Runs ops replies l' ∧ l'.Models s' b' ∧
      (b.ReadsBack → (∀ e ∈ ops, e.2.ReadsBack) → (replies, l') = l.stepAll ops)) ∧
      ∀ now op, (s'.perform Memory.backend now op).1.isOk = false →
        (s'.perform Memory.backend now op).2.remote.store = s'.remote.store := by
  intro l replies s'
  have hl : l.Models s b := ⟨hcalm, h, rfl, rfl⟩
  obtain ⟨b', l', hruns, hmodels⟩ := Ledger.exists_runs hl ops
  refine ⟨⟨b', l', hruns, hmodels, fun hb hops => hruns.eq_stepAll (hl.fixed hb) hops⟩,
    fun now op => ?_⟩
  obtain ⟨_, _, -, hfollows⟩ := Ledger.exists_follows hmodels now op
  exact hfollows.refused

/-- A flat tariff that gives way to a tiered one, and a record that is deleted twice. -/
theorem Service.replies_of_save_delete_delete :
    let tier : Tier := { modelRatio := 2.0, completionRatio := 1.0 }
    let b : FlatBook := ({} : FlatBook).revise "a" { price := some 1.5 }
    let s : Service Memory :=
      ⟨{}, ⟨b.toSettings, (∅ : Table TierRecord).insert "m" ⟨"m", [tier], true⟩⟩, none, []⟩
    let ops : List (String × Operation) :=
      [("", .save ⟨"a", true, .tiered [tier]⟩), ("", .delete "m"), ("", .delete "m")]
    (s.remote.refusal = none ∧ s.remote.store.Clean b ∧ b.ReadsBack ∧
      ∀ e ∈ ops, e.2.ReadsBack) ∧
      (s.performAll Memory.backend ops).1 =
        [.saved (.ok ⟨"a", true, .tiered [tier]⟩), .deleted (.ok .tiered),
          .deleted (.error (.notFound "m"))] := by
  intro tier b s ops
  have hback : b.ReadsBack := fun i => by cases i <;> decide +kernel
  have hget (model : String) : s.remote.store.records.get? model =
      if "m" = model then some ⟨"m", [tier], true⟩ else none := Table.get?_insert _ _ _ _
  have hclean : s.remote.store.Clean b := by
    refine ⟨Store.holds_of_readsBack hback _,
      TierRecord.ownNames_empty.insert ⟨"m", [tier], true⟩, fun model r hr => ?_,
      fun model hc => ?_⟩
    · rw [hget] at hr
      split at hr <;> cases hr
      rfl
    · rw [Table.contains, hget] at hc
      split at hc
      · rename_i hm
        rw [← hm]
        rfl
      · cases hc
  have hops : ∀ e ∈ ops, e.2.ReadsBack :=
    List.forall_mem_cons.2 ⟨fun _ => FlatRate.readsBack_empty,
      List.forall_mem_cons.2 ⟨trivial, List.forall_mem_singleton.2 trivial⟩⟩
  obtain ⟨⟨b', l', -, -, hsame⟩, -⟩ := performAll_refines (s := s) rfl hclean ops
  refine ⟨⟨rfl, hclean, hback, hops⟩, (congrArg (·.1) (hsame hback hops)).trans ?_⟩
  subst ops s b tier
  rfl

/-- A price that is read as another float from the text it was written as. -/
theorem Service.saved_price_misread :
    let s : Service Memory := ⟨{}, {}⟩
    let t : Tariff := .flat "m" { price := some 94.52706955539223 }
    let s' := (s.performAll Memory.backend [("", .save t)]).2
    (s.remote.refusal = none ∧ s.remote.store.Clean {} ∧ Tariff.reader.Decodes t ∧
      t.check = .ok ()) ∧
      s'.registry.tariffs = [.flat "m" { price := some 94.52706955539225 }] ∧
      s'.registry.tariffs ≠ (Ledger.stepAll {} [("", .save t)]).2.registry.tariffs := by
  have ht : (Tariff.flat "m" { price := some 94.52706955539223 }).check = .ok () := by rfl
  have hdecodes : Tariff.reader.Decodes (.flat "m" { price := some 94.52706955539223 }) :=
    Reader.decodes_of_parse (s := "[\"m\",true,\"fixed\",94.527069555392230]") (by decide +kernel)
  intro s t s'
  have hclean : s.remote.store.Clean {} :=
    ⟨⟨List.nodup_nil, rfl⟩, TierRecord.ownNames_empty, nofun, nofun⟩
  exact ⟨⟨rfl, hclean, hdecodes, ht⟩, by decide +kernel, by decide +kernel⟩

end TokenTariff
