import Mathlib
import TokenTariff.Remote.Memory

/-!
# A store whose calls fail

Every call is a list of accesses to the store. A call that is served makes them all, in any order,
since the accesses of one call are made at the same time. A call that fails has made some of them,
perhaps none and perhaps all. What becomes of the calls is a script that the store follows; the
theory is about every script.

A session ends well if it does so whatever becomes of each of its calls. This is defined by
recursion on the session, and it says the same of the store in memory.
-/

namespace TokenTariff

namespace Call

def accesses : {β : Type} → Call β → List Access
  | _, .listSettings => [.listSettings]
  | _, .putSettings settings => settings.map .putSetting
  | _, .listRecords => [.listRecords]
  | _, .upsertRecord record => [.upsertRecord record]
  | _, .deleteRecord model => [.deleteRecord model]

def result : {β : Type} → Call β → Store → β
  | _, .listSettings, st => st.settings
  | _, .putSettings _, _ => ()
  | _, .listRecords, st => st.records
  | _, .upsertRecord _, _ => ()
  | _, .deleteRecord _, _ => ()

end Call

def Store.applyAll (st : Store) (as : List Access) : Store := as.foldl Store.apply st

/-- One access takes effect or does not. -/
theorem applyAll_subperm_singleton {as : List Access} {a : Access} (h : as.Subperm [a])
    (st : Store) : st.applyAll as = st ∨ st.applyAll as = st.apply a := by
  obtain ⟨l, hl, hsub⟩ := h
  rcases List.sublist_singleton.1 hsub with rfl | rfl
  · rw [List.perm_nil.1 hl.symm]
    exact .inl rfl
  · rw [List.perm_singleton.1 hl.symm]
    exact .inr rfl

/-- What becomes of a call: its error if it fails, and the accesses that take effect. -/
structure Fate where
  error : Option RemoteError
  lands : List Access → List Access
  lands_subperm (as : List Access) : (lands as).Subperm as
  lands_perm (h : error = none) (as : List Access) : (lands as).Perm as

namespace Fate

def served : Fate := ⟨none, id, fun as => .refl as, fun _ as => .refl as⟩

/-- The call fails, and of its accesses those take effect that are in `p`. -/
def failed (e : RemoteError) (p : Access → Bool) : Fate :=
  ⟨some e, List.filter p, fun as => (List.filter_sublist (p := p) (l := as)).subperm,
    fun h => nomatch h⟩

end Fate

/-- A store with a script of what becomes of the calls. The calls after its end are served. -/
structure Faulty where
  store : Store
  script : List Fate := []

namespace Faulty

def answer : {β : Type} → Call β → Faulty → Except RemoteError β × Faulty
  | _, c, ⟨st, []⟩ => (.ok (c.result st), ⟨st.applyAll c.accesses, []⟩)
  | _, c, ⟨st, f :: script⟩ =>
    (match f.error with
      | none => .ok (c.result st)
      | some e => .error e,
      ⟨st.applyAll (f.lands c.accesses), script⟩)

def backend : Backend Faulty := ⟨answer⟩

def Errors (s : Faulty) (E : RemoteError → Prop) : Prop :=
  ∀ f ∈ s.script, ∀ e, f.error = some e → E e

def next? (s : Faulty) : Option RemoteError := s.script.head?.bind (·.error)

theorem answer_served {β : Type} (c : Call β) {s : Faulty} (h : s.next? = none) :
    ∃ as, as.Perm c.accesses ∧
      answer c s = (.ok (c.result s.store), ⟨s.store.applyAll as, s.script.tail⟩) := by
  obtain ⟨st, script⟩ := s
  cases script with
  | nil => exact ⟨_, .refl _, rfl⟩
  | cons f script =>
    have hf : f.error = none := h
    exact ⟨_, f.lands_perm hf _, by simp [answer, hf]⟩

theorem answer_failed {β : Type} (c : Call β) {s : Faulty} {e : RemoteError}
    (h : s.next? = some e) :
    ∃ as, as.Subperm c.accesses ∧
      answer c s = (.error e, ⟨s.store.applyAll as, s.script.tail⟩) := by
  obtain ⟨st, script⟩ := s
  cases script with
  | nil => cases h
  | cons f script =>
    have hf : f.error = some e := h
    exact ⟨_, f.lands_subperm _, by simp [answer, hf]⟩

theorem Errors.tail {s : Faulty} {E : RemoteError → Prop} (h : s.Errors E) (st : Store) :
    (⟨st, s.script.tail⟩ : Faulty).Errors E := fun f hf => h f (List.mem_of_mem_tail hf)

theorem Errors.next {s : Faulty} {E : RemoteError → Prop} (h : s.Errors E) {e : RemoteError}
    (he : s.next? = some e) : E e := by
  obtain ⟨st, script⟩ := s
  cases script with
  | nil => cases he
  | cons f script => exact h f List.mem_cons_self e he

end Faulty

namespace Memory

theorem attempt_eq {m : Memory} (hm : m.refusal = none) (a : Access) :
    m.attempt a = (.ok (), ⟨m.store.apply a, none, a :: m.journal⟩) := by
  simp [attempt, strike, hm]

theorem attemptAll_eq {m : Memory} (hm : m.refusal = none) (ss : List Setting) :
    ∃ m', m.attemptAll ss = (.ok (), m') ∧ m'.refusal = none ∧
      m'.store = m.store.applyAll (ss.map .putSetting) := by
  induction ss generalizing m with
  | nil => exact ⟨m, rfl, hm, rfl⟩
  | cons s ss ih =>
    obtain ⟨m', heq, hnone, hst⟩ := ih (m := ⟨_, none, .putSetting s :: m.journal⟩) rfl
    exact ⟨m', by rw [attemptAll, attempt_eq hm]; exact heq, hnone, hst⟩

theorem answer_eq {β : Type} (c : Call β) {m : Memory} (hm : m.refusal = none) :
    ∃ m', answer c m = (.ok (c.result m.store), m') ∧ m'.refusal = none ∧
      m'.store = m.store.applyAll c.accesses := by
  cases c with
  | putSettings ss => exact attemptAll_eq hm ss
  | listSettings =>
    exact ⟨⟨m.store, none, .listSettings :: m.journal⟩, by rw [answer, attempt_eq hm]; rfl, rfl,
      rfl⟩
  | listRecords =>
    exact ⟨⟨m.store, none, .listRecords :: m.journal⟩, by rw [answer, attempt_eq hm]; rfl, rfl, rfl⟩
  | upsertRecord r => exact ⟨_, attempt_eq hm _, rfl, rfl⟩
  | deleteRecord model => exact ⟨_, attempt_eq hm _, rfl, rfl⟩

end Memory

namespace Session

variable {ε ε' α β : Type} {E : RemoteError → Prop} {failed : RemoteError → ε} {st : Store}

/-- The session ends in `Q` whatever becomes of its calls, when calls fail with errors in `E`. -/
def Ends (E : RemoteError → Prop) (failed : RemoteError → ε) (Q : Except ε α → Store → Prop) :
    Session ε α → Store → Prop
  | .done a, st => Q (.ok a) st
  | .fail e, st => Q (.error e) st
  | .call c next, st =>
    (∀ as, as.Perm c.accesses → Ends E failed Q (next (c.result st)) (st.applyAll as)) ∧
      ∀ e as, E e → as.Subperm c.accesses → Q (.error (failed e)) (st.applyAll as)

theorem run_call_served {β : Type} (failed : RemoteError → ε) (c : Call β)
    (next : β → Session ε α) {s : Faulty}
    (h : s.next? = none) :
    ∃ as, as.Perm c.accesses ∧ (Session.call c next).run Faulty.backend failed s =
      (next (c.result s.store)).run Faulty.backend failed
        ⟨s.store.applyAll as, s.script.tail⟩ := by
  obtain ⟨as, has, heq⟩ := Faulty.answer_served c h
  exact ⟨as, has, by simp only [Session.run, Faulty.backend, heq]⟩

theorem run_call_failed {β : Type} (failed : RemoteError → ε) (c : Call β)
    (next : β → Session ε α) {s : Faulty}
    {e : RemoteError} (h : s.next? = some e) :
    ∃ as, as.Subperm c.accesses ∧ (Session.call c next).run Faulty.backend failed s =
      (.error (failed e), ⟨s.store.applyAll as, s.script.tail⟩) := by
  obtain ⟨as, has, heq⟩ := Faulty.answer_failed c h
  exact ⟨as, has, by simp only [Session.run, Faulty.backend, heq]⟩

theorem Ends.run {Q : Except ε α → Store → Prop} {p : Session ε α} {s : Faulty}
    (h : p.Ends E failed Q s.store) (hs : s.Errors E) :
    Q (p.run Faulty.backend failed s).1 (p.run Faulty.backend failed s).2.store ∧
      (p.run Faulty.backend failed s).2.Errors E := by
  induction p generalizing s with
  | done a => exact ⟨h, hs⟩
  | fail e => exact ⟨h, hs⟩
  | call c next ih =>
    cases hnext : s.next? with
    | none =>
      obtain ⟨as, has, hrun⟩ := run_call_served failed c next hnext
      rw [hrun]
      exact ih _ (h.1 as has) (hs.tail _)
    | some e =>
      obtain ⟨as, has, hrun⟩ := run_call_failed failed c next hnext
      rw [hrun]
      exact ⟨h.2 e as (hs.next hnext) has, hs.tail _⟩

/-- A run on the store in memory while no refusal is to come. -/
theorem Ends.run_memory {Q : Except ε α → Store → Prop} {p : Session ε α} {m : Memory}
    (h : p.Ends E failed Q m.store) (hm : m.refusal = none) :
    Q (p.run Memory.backend failed m).1 (p.run Memory.backend failed m).2.store ∧
      (p.run Memory.backend failed m).2.refusal = none := by
  induction p generalizing m with
  | done a => exact ⟨h, hm⟩
  | fail e => exact ⟨h, hm⟩
  | call c next ih =>
    obtain ⟨m', heq, hnone, hst⟩ := Memory.answer_eq c hm
    have hnext : (Session.call c next).run Memory.backend failed m =
        (next (c.result m.store)).run Memory.backend failed m' := by
      simp only [Session.run, Memory.backend, heq]
    rw [hnext]
    exact ih _ (hst ▸ h.1 _ (.refl _)) hnone

/-! ### Rules for sessions -/

theorem Ends.mono {Q R : Except ε α → Store → Prop} {p : Session ε α} (h : p.Ends E failed Q st)
    (hQ : ∀ r st, Q r st → R r st) : p.Ends E failed R st := by
  induction p generalizing st with
  | done a => exact hQ _ _ h
  | fail e => exact hQ _ _ h
  | call c next ih =>
    exact ⟨fun as has => ih _ (h.1 as has), fun e as he has => hQ _ _ (h.2 e as he has)⟩

/-- A session goes on from where its first part ends well. -/
theorem Ends.bind {Q : Except ε β → Store → Prop} {p : Session ε α} {f : α → Session ε β}
    (h : p.Ends E failed
      (fun r st => match r with
        | .ok a => (f a).Ends E failed Q st
        | .error e => Q (.error e) st) st) : (p >>= f).Ends E failed Q st := by
  change (p.bind f).Ends E failed Q st
  induction p generalizing st with
  | done a => exact h
  | fail e => exact h
  | call c next ih => exact ⟨fun as has => ih _ (h.1 as has), h.2⟩

theorem Ends.mapError {Q : Except ε' α → Store → Prop} {p : Session ε α} (f : ε → ε')
    (h : p.Ends E failed (fun r st => Q (r.mapError f) st) st) :
    (p.mapError f).Ends E (f ∘ failed) Q st := by
  induction p generalizing st with
  | done a => exact h
  | fail e => exact h
  | call c next ih => exact ⟨fun as has => ih _ (h.1 as has), h.2⟩

theorem ends_ofExcept {Q : Except ε α → Store → Prop} {f : ε' → ε} {x : Except ε' α}
    (h : Q (x.mapError f) st) : (ofExcept f x).Ends E failed Q st := by
  cases x <;> exact h

theorem ends_pure {Q : Except ε α → Store → Prop} {a : α} (h : Q (.ok a) st) :
    (pure a : Session ε α).Ends E failed Q st := h

/-- A call of one access, which may take effect though the call fails. -/
theorem ends_ask {Q : Except ε α → Store → Prop} {c : Call α} {a : Access} (hc : c.accesses = [a])
    (hok : Q (.ok (c.result st)) (st.apply a)) (hno : ∀ e, E e → Q (.error (failed e)) st)
    (hyes : ∀ e, E e → Q (.error (failed e)) (st.apply a)) : (ask c).Ends E failed Q st := by
  constructor
  · intro as has
    rw [hc] at has
    rw [List.perm_singleton.1 has]
    exact hok
  · intro e as he has
    rw [hc] at has
    rcases applyAll_subperm_singleton has st with heq | heq <;> rw [heq]
    · exact hno e he
    · exact hyes e he

theorem ends_listSettings {Q : Except ε (List Setting) → Store → Prop}
    (hok : Q (.ok st.settings) st) (hno : ∀ e, E e → Q (.error (failed e)) st) :
    (ask .listSettings).Ends E failed Q st := ends_ask rfl hok hno hno

theorem ends_listRecords {Q : Except ε (Table TierRecord) → Store → Prop}
    (hok : Q (.ok st.records) st) (hno : ∀ e, E e → Q (.error (failed e)) st) :
    (ask .listRecords).Ends E failed Q st := ends_ask rfl hok hno hno

end Session

end TokenTariff
