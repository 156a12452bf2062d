import Mathlib
import TokenTariff.Proofs.Registry.Coherence
import TokenTariff.Proofs.Tariff.Wire

/-!
# What requests say

A request that asks for an action is answered by that action, whatever else it carries. A body that
was written as JSON is read as the value it was written from, its reals being what their texts are
read as, so a request that sends a question is understood as that question.
-/

namespace TokenTariff.Api

open Json

/-! ### Who answers -/

section

variable {σ : Type} (b : Backend σ) (now : String) (origins : Web.Origins) {request : Web.Request}
  {a : Action}

theorem dispatch_of_asked (h : asked? request = some a) (hmethod : request.method ≠ .options)
    (s : Service σ) : dispatch b now request s = a.perform b now request s := by
  obtain ⟨route, hroute, haction⟩ := Option.bind_eq_some_iff.1 h
  rw [dispatch, hroute]
  dsimp only
  rw [if_neg hmethod, haction]

/-- The action is performed and its response is sent whole. -/
theorem handle_of_asked (h : asked? request = some a)
    (hmethod : request.method = .get ∨ request.method = .post) (s : Service σ) :
    handle b now origins request s = (origins.mark request (a.perform b now request s).1,
      (a.perform b now request s).2) := by
  have hoptions : request.method ≠ .options := by
    rcases hmethod with h | h <;> rw [h] <;> decide
  have hhead : request.method ≠ .head := by
    rcases hmethod with h | h <;> rw [h] <;> decide
  rw [handle, dispatch_of_asked b now h hoptions]
  dsimp only
  rw [trim, if_neg hhead]

theorem status_mark (request : Web.Request) (r : Web.Response) :
    (origins.mark request r).status = r.status := by
  unfold Web.Origins.mark
  split <;> rfl

/-- The actions that take a body are asked for by posting it. -/
theorem method_of_asked (h : asked? request = some a)
    (ha : a = .save ∨ a = .matching ∨ a = .resolve) : request.method = .post := by
  obtain ⟨route, -, haction⟩ := Option.bind_eq_some_iff.1 h
  generalize request.method = method at haction ⊢
  rcases ha with rfl | rfl | rfl <;> cases route <;> cases method <;>
    first | rfl | cases haction

end

/-! ### Bodies -/

theorem front_write {α : Type} {depth : ℕ} {v : Value} (hv : v.Proper depth) (r : Reader α) :
    r.front v.write = r .text v.reread.toDoc := by
  rw [Reader.front, hv.ofText_write]

structure Sends (request : Web.Request) (a : Action) (v : Value) : Prop where
  asked : asked? request = some a
  json : request.declaresJson = true
  body : request.body = v.write

theorem Sends.readBody {α : Type} {request : Web.Request} {a : Action} {v : Value} {depth : ℕ}
    (h : Sends request a v) (hv : v.Proper depth) {r : Reader α} {x : α}
    (hread : r .text v.reread.toDoc = .ok x) : readBody r request = .ok x := by
  rw [Api.readBody, if_pos h.json, h.body, front_write hv, hread]
  rfl

def sending (path : String) (v : Value) : Web.Request where
  method := .post
  target := ⟨path.toList, []⟩
  headers := [("content-type", "application/json")]
  body := v.write

theorem sends_matching (v : Value) : Sends (sending "/v1/ratio/match" v) .matching v :=
  ⟨by rfl, by rfl, rfl⟩

theorem proper_countValue (depth : ℕ) (n : UInt64) : (countValue n).Proper depth :=
  proper_boundValue depth (some n)

namespace MatchQuestion

def members (q : MatchQuestion) : List (String × Value) :=
  [("input_tokens", countValue q.input), ("output_tokens", countValue q.output),
    ("rules", .list (q.tiers.map Tier.toValue))]

theorem toValue_eq (q : MatchQuestion) : q.toValue = .object q.members := by
  simp only [toValue, Value.ofMembers, Entries.insert, List.foldl, String.reduceLT, String.reduceEq,
    ↓reduceIte, members]

theorem proper_toValue (depth : ℕ) (q : MatchQuestion) : q.toValue.Proper (depth + 4) := by
  refine Value.proper_ofMembers ?_
  simp only [List.forall_mem_cons]
  exact ⟨Tier.proper_list depth q.tiers, proper_countValue _ _, proper_countValue _ _,
    List.forall_mem_nil _⟩

def reread (q : MatchQuestion) : MatchQuestion := { q with tiers := q.tiers.map Tier.reread }

theorem reread_toValue (q : MatchQuestion) : q.toValue.reread = q.reread.toValue := by
  simp only [toValue, Value.reread_ofMembers, List.map_cons, List.map_nil, Tier.reread_list]
  rfl

/-- A question about finite tiers comes back without bounds of zero. -/
theorem read_toValue {q : MatchQuestion} (h : ∀ t ∈ q.tiers, t.Finite) (src : Source) :
    reader src q.toValue.toDoc = .ok { q with tiers := q.tiers.map Tier.normal } := by
  have hreads : shape.Reads src q.members _ :=
    .cons (Shape.sets_of_read rfl (read_count q.input src)) <|
    .cons (Shape.sets_of_read rfl (read_count q.output src)) <|
    .cons (Shape.sets_of_read rfl (Tier.read_list h src)) .nil
  have hkeys : q.members.map (·.1) = ["input_tokens", "output_tokens", "rules"] := rfl
  rw [toValue_eq]
  exact hreads.reader (hkeys ▸ by decide) (hkeys ▸ by decide)

end MatchQuestion

namespace ResolveQuestion

def members (q : ResolveQuestion) : List (String × Value) :=
  [("input_tokens", countValue q.input), ("model_name", .text q.model),
    ("output_tokens", countValue q.output)]

theorem toValue_eq (q : ResolveQuestion) : q.toValue = .object q.members := by
  simp only [toValue, Value.ofMembers, Entries.insert, List.foldl, String.reduceLT, String.reduceEq,
    ↓reduceIte, members]

theorem proper_toValue (depth : ℕ) (q : ResolveQuestion) : q.toValue.Proper (depth + 2) := by
  refine Value.proper_ofMembers ?_
  simp only [List.forall_mem_cons]
  exact ⟨.text _, proper_countValue _ _, proper_countValue _ _, List.forall_mem_nil _⟩

theorem reread_toValue (q : ResolveQuestion) : q.toValue.reread = q.toValue := by
  rw [toValue_eq]
  rfl

theorem read_toValue (q : ResolveQuestion) (src : Source) :
    reader src q.toValue.toDoc = .ok q := by
  have hreads : shape.Reads src q.members _ :=
    .cons (Shape.sets_of_read rfl (read_count q.input src)) <|
    .cons (Shape.sets_of_read rfl (read_text q.model src)) <|
    .cons (Shape.sets_of_read rfl (read_count q.output src)) .nil
  have hkeys : q.members.map (·.1) = ["input_tokens", "model_name", "output_tokens"] := rfl
  rw [toValue_eq]
  exact hreads.reader (hkeys ▸ by decide) (hkeys ▸ by decide)

end ResolveQuestion

end TokenTariff.Api
