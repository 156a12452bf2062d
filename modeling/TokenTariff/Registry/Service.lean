import TokenTariff.Registry.Basic
import TokenTariff.Registry.Change

/-!
# The service

A registry together with the store that it is loaded from. An operation that succeeds leaves the
registry as the store then is; one that fails leaves the registry alone, whatever it has written.
-/

namespace TokenTariff

structure Service (σ : Type) where
  registry : Registry := {}
  remote : σ

namespace Service

variable {σ : Type}

/-- The service after a session that returns all tariffs, loaded at the time `now`. -/
def finish {ε α : Type} (s : Service σ) (now : String) (tariffs : α → List Tariff)
    (outcome : Except ε α × σ) : Except ε α × Service σ :=
  match outcome with
  | (.ok a, remote) => (.ok a, ⟨⟨tariffs a, some now⟩, remote⟩)
  | (.error e, remote) => (.error e, { s with remote })

def refresh (b : Backend σ) (now : String) (s : Service σ) : Except RemoteError Nat × Service σ :=
  let (result, s) := s.finish now id (Session.load.run b id s.remote)
  (result.map List.length, s)

def save (b : Backend σ) (now : String) (t : Tariff) (s : Service σ) :
    Except ServiceError Tariff × Service σ :=
  let (result, s) := s.finish now id ((Session.save t).run b .remote s.remote)
  (result.map fun _ => (s.registry.get? t.model).getD t, s)

def delete (b : Backend σ) (now : String) (model : String) (s : Service σ) :
    Except ServiceError PlanKind × Service σ :=
  let (result, s) := s.finish now (·.2) ((Session.delete model).run b .remote s.remote)
  (result.map (·.1), s)

end Service

end TokenTariff
