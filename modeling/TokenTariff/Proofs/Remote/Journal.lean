import Mathlib
import TokenTariff.Proofs.Remote.Faulty

/-!
# What a session asks for

A journal notes the accesses of every call, whatever becomes of it, and changes nothing else. So an
access that is missing in the journal has not even been tried. Which accesses a session can ask for
depends on what it is answered; this is defined by recursion on the session along the answers of a
store, and then holds for the journal of every run, whichever of the calls fail.
-/

namespace TokenTariff

/-- A state with the journal of what was asked of it, the last access first. -/
structure Noted (σ : Type) where
  state : σ
  journal : List Access := []

/-- All that the journal has gained since `n` is in `A`. -/
def Noted.Gains {σ : Type} (n : Noted σ) (A : Access → Prop) (n' : Noted σ) : Prop :=
  ∃ asked, n'.journal = asked ++ n.journal ∧ ∀ a ∈ asked, A a

namespace Noted

variable {σ : Type} {A A' : Access → Prop} {n n' n'' : Noted σ}

theorem Gains.refl (A : Access → Prop) (n : Noted σ) : n.Gains A n :=
  ⟨[], rfl, List.forall_mem_nil _⟩

theorem Gains.trans (h : n.Gains A n') (h' : n'.Gains A n'') : n.Gains A n'' := by
  obtain ⟨asked, hjournal, hasked⟩ := h
  obtain ⟨asked', hjournal', hasked'⟩ := h'
  refine ⟨asked' ++ asked, ?_, List.forall_mem_append.2 ⟨hasked', hasked⟩⟩
  rw [hjournal', hjournal, List.append_assoc]

theorem Gains.mono (h : n.Gains A n') (hA : ∀ a, A a → A' a) : n.Gains A' n' := by
  obtain ⟨asked, hjournal, hasked⟩ := h
  exact ⟨asked, hjournal, fun a ha => hA a (hasked a ha)⟩

end Noted

def Backend.noting {σ : Type} (b : Backend σ) : Backend (Noted σ) where
  answer c n :=
    let (r, s) := b.answer c n.state
    (r, ⟨s, c.accesses.reverse ++ n.journal⟩)

namespace Session

variable {σ ε α β : Type} {E : RemoteError → Prop} {failed : RemoteError → ε} {st : Store}
  {A : Access → Prop}

/-- A run with a journal is the run without it. -/
theorem run_noting (b : Backend σ) (failed : RemoteError → ε) (p : Session ε α) (n : Noted σ) :
    (p.run b.noting failed n).1 = (p.run b failed n.state).1 ∧
      (p.run b.noting failed n).2.state = (p.run b failed n.state).2 := by
  induction p generalizing n with
  | done a => exact ⟨rfl, rfl⟩
  | fail e => exact ⟨rfl, rfl⟩
  | call c next ih =>
    rcases hanswer : b.answer c n.state with ⟨e | x, s⟩ <;>
      simp only [Session.run, Backend.noting, hanswer]
    · exact ⟨trivial, trivial⟩
    · exact ih x ⟨s, c.accesses.reverse ++ n.journal⟩

/-- Every access that the session asks for is in `A`, as long as the store answers. -/
def Asks (A : Access → Prop) : Session ε α → Store → Prop
  | .done _, _ => True
  | .fail _, _ => True
  | .call c next, st =>
    (∀ a ∈ c.accesses, A a) ∧
      ∀ as, as.Perm c.accesses → Asks A (next (c.result st)) (st.applyAll as)

theorem Asks.run {p : Session ε α} {n : Noted Faulty} (h : p.Asks A n.state.store)
    (failed : RemoteError → ε) : n.Gains A (p.run Faulty.backend.noting failed n).2 := by
  induction p generalizing n with
  | done a => exact .refl A n
  | fail e => exact .refl A n
  | call c next ih =>
    have hcall : ∀ a ∈ c.accesses.reverse, A a := fun a ha => h.1 a (List.mem_reverse.1 ha)
    cases hnext : n.state.next? with
    | none =>
      obtain ⟨as, has, hanswer⟩ := Faulty.answer_served c hnext
      have hnoted : n.Gains A ⟨⟨n.state.store.applyAll as, n.state.script.tail⟩,
          c.accesses.reverse ++ n.journal⟩ := ⟨_, rfl, hcall⟩
      simp only [Session.run, Backend.noting, Faulty.backend, hanswer]
      exact hnoted.trans (ih (c.result n.state.store) (h.2 as has))
    | some e =>
      obtain ⟨as, has, hanswer⟩ := Faulty.answer_failed c hnext
      refine ⟨c.accesses.reverse, ?_, hcall⟩
      simp only [Session.run, Backend.noting, Faulty.backend, hanswer]

/-! ### Rules for what is asked -/

/-- What follows is asked for only where the first part has a result. -/
theorem Asks.bind {p : Session ε α} {f : α → Session ε β} (h : p.Asks A st)
    (hf : p.Ends E failed
      (fun r st => match r with
        | .ok a => (f a).Asks A st
        | .error _ => True) st) : (p >>= f).Asks A st := by
  change (p.bind f).Asks A st
  induction p generalizing st with
  | done a => exact hf
  | fail e => trivial
  | call c next ih => exact ⟨h.1, fun as has => ih _ (h.2 as has) (hf.1 as has)⟩

theorem Asks.bind_all {p : Session ε α} {f : α → Session ε β} (h : p.Asks A st)
    (hf : ∀ a st, (f a).Asks A st) : (p >>= f).Asks A st := by
  change (p.bind f).Asks A st
  induction p generalizing st with
  | done a => exact hf a st
  | fail e => trivial
  | call c next ih => exact ⟨h.1, fun as has => ih _ (h.2 as has)⟩

theorem Asks.mapError {ε' : Type} {p : Session ε α} (h : p.Asks A st) (f : ε → ε') :
    (p.mapError f).Asks A st := by
  induction p generalizing st with
  | done a => trivial
  | fail e => trivial
  | call c next ih => exact ⟨h.1, fun as has => ih _ (h.2 as has)⟩

theorem Asks.mono {A' : Access → Prop} {p : Session ε α} (h : p.Asks A st)
    (hA : ∀ a, A a → A' a) : p.Asks A' st := by
  induction p generalizing st with
  | done a => trivial
  | fail e => trivial
  | call c next ih =>
    exact ⟨fun a ha => hA a (h.1 a ha), fun as has => ih _ (h.2 as has)⟩

/-- A call of one access, and what follows its answer. -/
theorem asks_call {c : Call α} {a : Access} {f : α → Session ε β} (hc : c.accesses = [a]) (hA : A a)
    (hf : (f (c.result st)).Asks A (st.apply a)) : (ask c >>= f).Asks A st := by
  refine ⟨?_, fun as has => ?_⟩
  · rw [hc]
    exact List.forall_mem_singleton.2 hA
  · rw [hc] at has
    rw [List.perm_singleton.1 has]
    exact hf

theorem asks_ofExcept {ε' : Type} (f : ε' → ε) (x : Except ε' α) :
    (ofExcept f x).Asks A st := by
  cases x <;> trivial

/-! ### Sessions that fail -/

/-- The session has failed, and the store is one of these. -/
def Fails (P : Store → Prop) : Except ε α → Store → Prop
  | .ok _, _ => False
  | .error _, st => P st

variable {P : Store → Prop}

/-- A session that is sure to fail leaves nothing for what follows. -/
theorem Ends.bind_fails {p : Session ε α} {f : α → Session ε β}
    (h : p.Ends E failed (Fails P) st) : (p >>= f).Ends E failed (Fails P) st := by
  refine Ends.bind (h.mono fun r st' hr => ?_)
  cases r with
  | ok a => exact hr.elim
  | error e => exact hr

theorem Ends.mapError_fails {ε' : Type} {p : Session ε α} (h : p.Ends E failed (Fails P) st)
    (f : ε → ε') : (p.mapError f).Ends E (f ∘ failed) (Fails P) st := by
  refine Ends.mapError f (h.mono fun r st' hr => ?_)
  cases r <;> exact hr

theorem Asks.bind_fails {p : Session ε α} {f : α → Session ε β} (h : p.Asks A st)
    (hf : p.Ends E failed (Fails P) st) : (p >>= f).Asks A st := by
  refine h.bind (hf.mono fun r st' hr => ?_)
  cases r with
  | ok a => exact hr.elim
  | error e => trivial

end Session

end TokenTariff
