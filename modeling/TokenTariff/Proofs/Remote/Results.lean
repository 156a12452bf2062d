import Mathlib
import TokenTariff.Remote.Session

/-!
# Results of sessions

What a session returns may be known whatever its calls are answered. This is defined by recursion on
the session and holds for its runs against every backend.
-/

namespace TokenTariff.Session

variable {σ ε ε' α β : Type} {P : α → Prop} {Q : β → Prop}

/-- Whatever the answers, the session fails or its result has the property. -/
def Yields (P : α → Prop) : Session ε α → Prop
  | .done a => P a
  | .fail _ => True
  | .call _ next => ∀ x, (next x).Yields P

theorem yields_true (p : Session ε α) : p.Yields fun _ => True := by
  induction p with
  | done a => trivial
  | fail e => trivial
  | call c next ih => exact fun x => ih x

theorem Yields.bind {p : Session ε α} {f : α → Session ε β} (hp : p.Yields P)
    (h : ∀ a, P a → (f a).Yields Q) : (p >>= f).Yields Q := by
  change (p.bind f).Yields Q
  induction p with
  | done a => exact h a hp
  | fail e => trivial
  | call c next ih => exact fun x => ih x (hp x)

/-- Only the end of a session counts when it is right whatever came before. -/
theorem yields_bind (p : Session ε α) {f : α → Session ε β} (h : ∀ a, (f a).Yields Q) :
    (p >>= f).Yields Q := (yields_true p).bind fun a _ => h a

theorem Yields.mapError {p : Session ε α} (h : p.Yields P) (f : ε → ε') :
    (p.mapError f).Yields P := by
  induction p with
  | done a => exact h
  | fail e => trivial
  | call c next ih => exact fun x => ih x (h x)

theorem Yields.run {p : Session ε α} (h : p.Yields P) (b : Backend σ) (failed : RemoteError → ε)
    {s s' : σ} {a : α} (hrun : p.run b failed s = (.ok a, s')) : P a := by
  induction p generalizing s with
  | done a' =>
    cases hrun
    exact h
  | fail e => cases hrun
  | call c next ih =>
    rw [Session.run] at hrun
    split at hrun
    · exact ih _ (h _) hrun
    · cases hrun

end TokenTariff.Session
