import Mathlib
import TokenTariff.Proofs.Api.Requests
import TokenTariff.Proofs.Registry.Causes

/-!
# Statuses of failures

A call that fails makes the service a bad gateway, and a model that is not there is not found. A
table of the store that cannot be read counts as a bad request, whatever the request was: it is
found to be malformed like a tariff that is sent, and neither the reading before a change nor the
loading at its end tells the two apart.
-/

namespace TokenTariff

theorem RemoteError.OfCall.status {e : RemoteError} (h : e.OfCall) :
    (ServiceError.remote e).status = 502 := by
  cases e with
  | pricing p => exact absurd rfl (h p)
  | _ => rfl

/-- Over the web, a call that fails makes the service a bad gateway. -/
theorem Client.status_of_answer {σ β : Type} {c : Client} {n : Network σ} {call : Call β} {s : σ}
    {e : RemoteError} (h : ((c.backend n).answer call s).1 = .error e) :
    (ServiceError.remote e).status = 502 :=
  (RemoteError.ofCall_of_answer call h).status

def Reply.status (r : Reply) : ℕ := (r.error?.map ServiceError.status).getD 200

/-! ### Statuses of responses -/

namespace Api

open Json

/-- The operation that an action comes to, if what the request says of it is understood. -/
def Action.operation? (request : Web.Request) : Action → Option Operation
  | refresh => some .refresh
  | delete name => (readName name).toOption.map .delete
  | save => do
    let v ← (readBody Reader.whole request).toOption
    let t ← (readTariff v).toOption
    return .save t
  | health | convert | matching | resolve | list | detail _ | status => none

variable {σ : Type} (b : Backend σ) (now : String) {request : Web.Request} {a : Action}
  {op : Operation}

theorem ok_of_toOption {ε α : Type} {x : Except ε α} {a : α} (h : x.toOption = some a) :
    x = .ok a := by
  cases x with
  | error e => cases h
  | ok a' =>
    cases h
    rfl

theorem status_perform (h : a.operation? request = some op) (s : Service σ) :
    (a.perform b now request s).1.status = (s.perform b now op).1.status := by
  cases a with
  | refresh =>
    cases h
    rw [Action.perform, Api.refresh, Service.perform]
    rcases s.refresh b now with ⟨e | n, s'⟩ <;> rfl
  | delete name =>
    obtain ⟨model, hname, rfl⟩ := Option.map_eq_some_iff.1 h
    rw [Action.perform, Api.delete, Service.perform, ok_of_toOption hname]
    dsimp only
    rcases s.delete b now model with ⟨e | kind, s'⟩ <;> rfl
  | save =>
    obtain ⟨v, hbody, h⟩ := Option.bind_eq_some_iff.1 h
    obtain ⟨t, ht, h⟩ := Option.bind_eq_some_iff.1 h
    cases h
    rw [Action.perform, Api.save, Service.perform, ok_of_toOption hbody]
    dsimp only
    rw [ok_of_toOption ht]
    dsimp only
    rcases s.save b now t with ⟨e | t', s'⟩ <;> rfl
  | health | convert | matching | resolve | list | detail | status => cases h

theorem method_ne_options (h : asked? request = some a) : request.method ≠ .options := by
  intro hmethod
  obtain ⟨route, -, haction⟩ := Option.bind_eq_some_iff.1 h
  rw [hmethod] at haction
  cases route <;> cases haction

/-- A request is answered with the status of the operation that it asks for. -/
theorem status_handle (origins : Web.Origins) (h : asked? request = some a)
    (hop : a.operation? request = some op) (s : Service σ) :
    (handle b now origins request s).1.status = (s.perform b now op).1.status := by
  have htrim (r : Web.Response) : (trim request r).status = r.status := by
    unfold trim
    split <;> rfl
  rw [handle, dispatch_of_asked b now h (method_ne_options h), status_mark, htrim,
    status_perform b now hop]

end Api

namespace Service

variable {s : Service Faulty} {op : Operation}

/-- An operation over a store whose tables can be read is never answered as a bad request: it fails
only when one of its calls does, or when it is to delete what is not there. Over a store with a
table that cannot be read every operation fails, and unless a call fails first that counts as a bad
request. The response to a request for the operation has the status of its reply. -/
theorem status_of_failure (hs : s.remote.Errors RemoteError.OfCall)
    (hop : ∀ t, op = .save t → t.check = .ok ()) (now : String) :
    let reply := (s.perform Faulty.backend now op).1
    let callFailed (e : ServiceError) := ∃ f ∈ s.remote.script, ∃ e', f.error = some e' ∧
      e = .remote e' ∧ e.status = 502
    (¬ s.remote.store.Unreadable → ∀ e, reply.error? = some e →
      callFailed e ∨ ∃ model, op = .delete model ∧ e = .notFound model ∧ e.status = 404) ∧
    (s.remote.store.Unreadable → ∃ e, reply.error? = some e ∧
      (callFailed e ∨ ∃ c, FlatBook.ofSettings s.remote.store.settings = .error c ∧
        (e = Session.malformed c ∨ e = .remote (.pricing (.malformed c))) ∧ e.status = 400)) ∧
    ∀ origins request a, Api.asked? request = some a → a.operation? request = some op →
      (Api.handle Faulty.backend now origins request s).1.status =
        (reply.error?.map ServiceError.status).getD 200 := by
  intro reply callFailed
  have hscript : s.remote.Errors fun e => ∃ f ∈ s.remote.script, f.error = some e :=
    fun f hf e he => ⟨f, hf, he⟩
  have hcall {e : RemoteError} (he : ∃ f ∈ s.remote.script, f.error = some e) :
      callFailed (.remote e) := by
    obtain ⟨f, hf, he⟩ := he
    exact ⟨f, hf, e, he, rfl, (hs f hf e he).status⟩
  have haccounts := accounts_perform hscript hop now
  refine ⟨fun hunread e he => ?_, fun hunread => ?_, fun origins request a hasked hasks =>
    Api.status_handle Faulty.backend now origins hasked hasks s⟩
  · have hread : s.remote.store.Readable := not_not.1 fun h => hunread (Store.unreadable_iff.2 h)
    rw [he] at haccounts
    cases haccounts with
    | call hfailed => exact .inl (hcall hfailed)
    | absent hdelete _ _ _ => exact .inr ⟨_, hdelete, rfl, rfl⟩
    | reading hc | loading hc => exact absurd hc (hread.ne_error _)
  · have hread := Store.unreadable_iff.1 hunread
    cases herror : reply.error? with
    | none =>
      rw [herror] at haccounts
      exact absurd haccounts hread
    | some e =>
      rw [herror] at haccounts
      refine ⟨e, rfl, ?_⟩
      cases haccounts with
      | call hfailed => exact .inl (hcall hfailed)
      | absent _ hb _ _ => exact absurd ⟨_, hb⟩ hread
      | reading hc => exact .inr ⟨_, hc, .inl rfl, rfl⟩
      | loading hc => exact .inr ⟨_, hc, .inr rfl, rfl⟩

/-- A save whose first call fails. -/
theorem bad_gateway_of_failed_call :
    let s : Service Faulty := ⟨{}, ⟨{}, [.failed .transport fun _ => false]⟩⟩
    let t : Tariff := .flat "m" { price := some 1.5 }
    s.remote.Errors RemoteError.OfCall ∧ t.check = .ok () ∧
      ∃ e, (s.perform Faulty.backend "" (.save t)).1.error? = some e ∧ e.status = 502 := by
  have ht : (Tariff.flat "m" { price := some 1.5 }).check = .ok () := by rfl
  intro s t
  have hs : s.remote.Errors RemoteError.OfCall := by
    intro f hf e he
    obtain rfl := List.mem_singleton.1 hf
    cases he
    nofun
  have hread : ¬ s.remote.store.Unreadable := by
    rintro ⟨_, hmem, -⟩
    exact absurd hmem List.not_mem_nil
  have herror : (s.perform Faulty.backend "" (.save t)).1.error? = some (.remote .transport) := by
    rw [perform_save, Session.save_eq, ht]
    rfl
  have hop : ∀ t', Operation.save t = .save t' → t'.check = .ok () := by
    rintro _ ⟨⟩
    exact ht
  refine ⟨hs, ht, _, herror, ?_⟩
  rcases (status_of_failure hs hop "").1 hread _ herror with
    ⟨_, _, _, _, _, hstatus⟩ | ⟨_, hsave, _⟩
  · exact hstatus
  · cases hsave

/-- The ratios are no table. Loading, saving and deleting are all answered as bad requests, though
no call fails and nothing is wrong with the requests. -/
theorem bad_request_over_broken_ratios :
    let s : Service Faulty := ⟨{}, ⟨⟨[⟨"ModelRatio", "oops"⟩], ∅⟩, []⟩⟩
    let t : Tariff := .flat "m" { price := some 1.5 }
    let status (op : Operation) := (s.perform Faulty.backend "" op).1.error?.map ServiceError.status
    let request : Web.Request := { method := .post, target := ⟨"/v1/ratio/refresh".toList, []⟩ }
    t.check = .ok () ∧ status .refresh = some 400 ∧ status (.save t) = some 400 ∧
      status (.delete "m") = some 400 ∧
      ∀ origins, (Api.handle Faulty.backend "" origins request s).1.status = 400 := by
  have ht : (Tariff.flat "m" { price := some 1.5 }).check = .ok () := by rfl
  intro s t status request
  have hrefresh : status .refresh = some 400 := by rfl
  have hsave : status (.save t) = some 400 := by
    dsimp only [status]
    rw [perform_save, Session.save_eq, ht]
    rfl
  have hasked : Api.asked? request = some .refresh := by rfl
  refine ⟨ht, hrefresh, hsave, by rfl, fun origins => ?_⟩
  rw [Api.status_handle Faulty.backend "" origins hasked rfl, Reply.status]
  exact congrArg (·.getD 200) hrefresh

end Service

end TokenTariff
