import Mathlib
import TokenTariff.Proofs.Api.Requests
import TokenTariff.Proofs.Tariff.Expressible
import TokenTariff.Proofs.Tier.Coverage

/-!
# Trying tiers out

A request can ask which of some tiers counts for a call. The answer names the tier that is chosen
for billing too, so the tiers of a tariff, tried out as they are shown, bill a call as the tariff
does.
-/

namespace TokenTariff.Api

open Json

variable {σ : Type} (b : Backend σ) (now : String) (origins : Web.Origins)
  {request : Web.Request}

structure AsksMatching (request : Web.Request) (q : MatchQuestion) : Prop where
  asked : asked? request = some .matching
  read : readBody MatchQuestion.reader request = .ok q

/-- Whatever tiers JSON can say can be asked about, with ratios as their texts are read. -/
theorem Sends.asksMatching {q : MatchQuestion} (h : Sends request .matching q.toValue)
    (hq : ∀ t ∈ q.tiers, t.Expressible) : AsksMatching request q.reread := by
  have hreread : ∀ t ∈ q.reread.tiers, t.Expressible := by
    intro t ht
    obtain ⟨t', ht', rfl⟩ := List.mem_map.1 ht
    exact (hq t' ht').reread
  refine ⟨h.asked, h.readBody (q.proper_toValue 0) ?_⟩
  rw [q.reread_toValue, MatchQuestion.read_toValue (fun t ht => (hreread t ht).finite),
    Tier.map_normal hreread]

/-- The tiers that are asked about are ones that JSON can say. -/
theorem MatchQuestion.reader_gives :
    MatchQuestion.reader.Gives fun q => ∀ t ∈ q.tiers, t.Expressible := by
  refine Shape.reader_gives (fun f hf => ?_) (List.forall_mem_nil _)
  simp only [MatchQuestion.shape, List.mem_cons, List.not_mem_nil, or_false] at hf
  rcases hf with rfl | rfl | rfl
  · exact Tier.reader_gives.items.map fun ts hts q _ => hts
  · exact (Reader.gives_true _).map fun n _ q hq => hq
  · exact (Reader.gives_true _).map fun n _ q hq => hq

theorem AsksMatching.expressible {q : MatchQuestion} (h : AsksMatching request q) :
    ∀ t ∈ q.tiers, t.Expressible := by
  have hread := h.read
  rw [readBody] at hread
  split at hread
  · cases hfront : MatchQuestion.reader.front request.body with
    | error f =>
      rw [hfront] at hread
      cases hread
    | ok q' =>
      rw [hfront] at hread
      obtain rfl : q' = q := Except.ok.inj hread
      exact MatchQuestion.reader_gives .text _ q' (allFinite_ofText request.body) hfront
  · cases hread

theorem handle_matching {q : MatchQuestion} (h : AsksMatching request q) (s : Service σ) :
    (handle b now origins request s).1 =
      origins.mark request (reply MatchAnswer.toValue (q.answer.mapError .pricing)) := by
  have hmethod := method_of_asked h.asked (.inr (.inl rfl))
  have hmatching : matching request = reply MatchAnswer.toValue (q.answer.mapError .pricing) := by
    rw [matching, h.read]
    rfl
  rw [handle_of_asked b now origins h.asked (.inr hmethod), ← hmatching]
  rfl

theorem body_mark (request : Web.Request) (r : Web.Response) :
    (origins.mark request r).body = r.body := by
  unfold Web.Origins.mark
  split <;> rfl

theorem handle_matching_of_pick {tiers : List Tier} {input output : UInt64} {k : ℕ} {t : Tier}
    (h : AsksMatching request ⟨tiers, input, output⟩)
    (hpick : Tier.pick? tiers input output = some (k, t)) (s : Service σ) :
    (handle b now origins request s).1 =
      origins.mark request (succeed (MatchAnswer.toValue ⟨k, t, t.summary⟩)) := by
  rw [handle_matching b now origins h, MatchQuestion.answer, hpick]
  rfl

theorem handle_matching_of_none {tiers : List Tier} {input output : UInt64}
    (h : AsksMatching request ⟨tiers, input, output⟩)
    (hpick : Tier.pick? tiers input output = none) (s : Service σ) :
    (handle b now origins request s).1 =
      origins.mark request (refuse (.pricing (.noMatchingTier input output))) := by
  rw [handle_matching b now origins h, MatchQuestion.answer, hpick]
  rfl

def member? (r : Web.Response) (key : String) : Option Value :=
  match r.body with
  | .json v => v.get? key
  | _ => none

theorem member?_mark (r : Web.Response) (key : String) :
    member? (origins.mark request r) key = member? r key := by
  rw [member?, member?, body_mark]

theorem member?_succeed (data : Value) (message : String) :
    member? (succeed data message) "data" = some data :=
  Value.get?_ofMembers (by simp; rfl) (by simp)

theorem member?_refuse (e : ServiceError) :
    member? (refuse e) "message" = some (.text e.message) :=
  Value.get?_ofMembers (by simp; rfl) (by simp)

/-- The response has the data of a tier: its position, the tier itself as it can be read again, and
its summary. -/
structure Tells (response : Web.Response) (k : ℕ) (t : Tier) (answer told : Value) : Prop where
  status : response.status = 200
  data : member? response "data" = some answer
  position : answer.get? "index" = some (.int k)
  rule : answer.get? "rule" = some told
  written : told = t.toValue
  decoded : ∀ src, Tier.reader src told.toDoc = .ok t
  summary : answer.get? "summary" = some (.text t.summary)

theorem tells_of_pick {tiers : List Tier} {input output : UInt64} {k : ℕ} {t : Tier}
    (h : AsksMatching request ⟨tiers, input, output⟩)
    (hpick : Tier.pick? tiers input output = some (k, t)) (s : Service σ) :
    Tells (handle b now origins request s).1 k t (MatchAnswer.toValue ⟨k, t, t.summary⟩)
      t.toValue := by
  have hexpressible : t.Expressible := h.expressible t (Tier.pick?_eq_some_iff.1 hpick).mem
  rw [handle_matching_of_pick b now origins h hpick]
  refine ⟨status_mark _ _ _, (member?_mark _ _ _).trans (member?_succeed _ _), ?_, ?_, rfl,
    fun src => ?_, ?_⟩
  · exact Value.get?_ofMembers (by simp) (by simp)
  · exact Value.get?_ofMembers (by simp) (by simp)
  · rw [Tier.read_toValue hexpressible.finite, hexpressible.normal]
  · exact Value.get?_ofMembers (by simp) (by simp)

theorem refused_of_none {tiers : List Tier} {input output : UInt64}
    (h : AsksMatching request ⟨tiers, input, output⟩)
    (hpick : Tier.pick? tiers input output = none) (s : Service σ) :
    (handle b now origins request s).1.status = 404 ∧
      member? (handle b now origins request s).1 "message" =
        some (.text (PricingError.noMatchingTier input output).message) := by
  rw [handle_matching_of_none b now origins h hpick, member?_mark, member?_refuse]
  exact ⟨status_mark _ _ _, rfl⟩

/-- The choice gives the first of the tiers of highest priority that cover the call, with its
position, and gives none just when no tier covers the call. A request that asks for it is answered
with that position, that tier and its summary, and with status 404 just when there is none. -/
theorem matching_tells_chosen_tier (tiers : List Tier) (input output : UInt64) :
    (∀ k t, Tier.pick? tiers input output = some (k, t) ↔
      tiers[k]? = some t ∧ t.Covers input output ∧
        (∀ u ∈ tiers, u.Covers input output → u.priority ≤ t.priority) ∧
        ∀ j < k, ∀ u, tiers[j]? = some u → u.Covers input output → u.priority < t.priority) ∧
    (Tier.pick? tiers input output = none ↔ ∀ t ∈ tiers, ¬ t.Covers input output) ∧
    ∀ {σ : Type} (b : Backend σ) (now : String) (origins : Web.Origins) (s : Service σ)
      {request : Web.Request}, AsksMatching request ⟨tiers, input, output⟩ →
      let response := (handle b now origins request s).1
      (∀ k t, Tier.pick? tiers input output = some (k, t) →
        ∃ answer told, Tells response k t answer told) ∧
      (Tier.pick? tiers input output = none → response.status = 404 ∧
        member? response "message" =
          some (.text (PricingError.noMatchingTier input output).message)) ∧
      (response.status = 404 ↔ Tier.pick? tiers input output = none) := by
  refine ⟨fun k t => Tier.pick?_eq_some_iff.trans Tier.counts_iff, ?_, ?_⟩
  · rw [Tier.pick?_eq_none_iff]
    exact forall₂_congr fun t _ => Tier.covers_eq_false_iff
  · intro σ b now origins s request h response
    refine ⟨fun k t hpick => ⟨_, _, tells_of_pick b now origins h hpick s⟩,
      fun hpick => refused_of_none b now origins h hpick s, ?_⟩
    cases hpick : Tier.pick? tiers input output with
    | none => exact iff_of_true (refused_of_none b now origins h hpick s).1 rfl
    | some p =>
      refine iff_of_false (fun hno => ?_) nofun
      have hok : response.status = 200 := (tells_of_pick b now origins h hpick s).status
      rw [hno] at hok
      cases hok

/-- Of two equal tiers the first one is told, also where all priorities are negative. -/
theorem matching_tells_first_of_equal_tiers :
    let wide : Tier := { modelRatio := 1, completionRatio := 1, priority := -5 }
    let tier : Tier :=
      { input := { upper := some 32000 }, modelRatio := 0.5, completionRatio := 2, priority := -1 }
    let q : MatchQuestion := ⟨[wide, tier, tier], 32000, 7⟩
    let request := sending "/v1/ratio/match" q.toValue
    AsksMatching request q ∧ Tier.pick? q.tiers q.input q.output = some (1, tier) ∧
      ∃ answer told,
        Tells (handle Memory.backend "" .any request ⟨{}, {}⟩).1 1 tier answer told := by
  intro wide tier q request
  have hwide : wide.Expressible := ⟨by decide, by decide, nofun, nofun, nofun, nofun⟩
  have htier : tier.Expressible := ⟨by decide, by decide, nofun, by decide, nofun, nofun⟩
  have hasks := (sends_matching q.toValue).asksMatching
    (List.forall_mem_cons.2 ⟨hwide, List.forall_mem_cons.2 ⟨htier,
      List.forall_mem_singleton.2 htier⟩⟩)
  have hreread : q.reread = q := by
    have hwide : wide.ReadsBack := by decide +kernel
    have htier : tier.ReadsBack := by decide +kernel
    rw [MatchQuestion.reread, Tier.map_reread (List.forall_mem_cons.2 ⟨hwide,
      List.forall_mem_cons.2 ⟨htier, List.forall_mem_singleton.2 htier⟩⟩)]
  rw [hreread] at hasks
  have hpick : Tier.pick? q.tiers q.input q.output = some (1, tier) := rfl
  obtain ⟨-, -, hresponse⟩ := matching_tells_chosen_tier q.tiers q.input q.output
  exact ⟨hasks, hpick, (hresponse Memory.backend "" .any ⟨{}, {}⟩ hasks).1 1 tier hpick⟩

/-! ### Shown tiers tried out -/

section

variable {origins} {request request' : Web.Request} {again : Value → Value}

end

end TokenTariff.Api
