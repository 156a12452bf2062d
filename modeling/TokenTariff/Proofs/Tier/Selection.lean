import Mathlib
import TokenTariff.Tier.Basic

/-!
# The tier that counts

Of the tiers that cover a call the one of highest priority counts, and of several the earliest. The
choice passes over the tiers once and keeps the best so far, so the proof goes along the list from
its front: a tier that is added at the end counts only if it beats all tiers before it.
-/

namespace TokenTariff.Tier

/-- The tier `t`, at position `k`, counts for a call. -/
structure Counts (tiers : List Tier) (input output : UInt64) (k : ℕ) (t : Tier) : Prop where
  there : tiers[k]? = some t
  covers : t.covers input output = true
  highest : ∀ u ∈ tiers, u.covers input output = true → u.priority ≤ t.priority
  earliest : ∀ j u, tiers[j]? = some u → u.covers input output = true →
    u.priority = t.priority → k ≤ j

variable {tiers : List Tier} {input output : UInt64} {k k' : ℕ} {t t' u : Tier}

theorem Counts.mem (h : Counts tiers input output k t) : t ∈ tiers :=
  List.mem_of_getElem? h.there

/-- At most one tier counts. -/
theorem Counts.unique (h : Counts tiers input output k t) (h' : Counts tiers input output k' t') :
    k = k' ∧ t = t' := by
  have hpriority : t.priority = t'.priority :=
    Int32.le_antisymm (h'.highest t h.mem h.covers) (h.highest t' h'.mem h'.covers)
  have hk : k = k' := Nat.le_antisymm (h.earliest k' t' h'.there h'.covers hpriority.symm)
    (h'.earliest k t h.there h.covers hpriority)
  subst hk
  exact ⟨rfl, Option.some.inj (h.there.symm.trans h'.there)⟩

/-! ### One more tier at the end -/

theorem getElem?_append_singleton {j : ℕ} :
    (tiers ++ [u])[j]? = some t ↔ tiers[j]? = some t ∨ j = tiers.length ∧ u = t := by
  rw [List.getElem?_append]
  split
  · rename_i hj
    exact ⟨.inl, fun h => h.resolve_right fun hlast => hj.ne hlast.1⟩
  · rename_i hj
    rw [List.getElem?_eq_none (Nat.le_of_not_lt hj)]
    simp only [List.getElem?_singleton, Option.ite_none_right_eq_some, Option.some.injEq,
      reduceCtorEq, false_or]
    refine and_congr_left fun _ => ?_
    omega

/-- A tier that counts still does when the added tier does not cover the call or has no higher
priority. -/
theorem Counts.append (h : Counts tiers input output k t)
    (hu : u.covers input output = true → u.priority ≤ t.priority) :
    Counts (tiers ++ [u]) input output k t where
  there := getElem?_append_singleton.2 (.inl h.there)
  covers := h.covers
  highest v hv hc := by
    rcases List.mem_append.1 hv with hv | hv
    · exact h.highest v hv hc
    · obtain rfl := List.mem_singleton.1 hv
      exact hu hc
  earliest j v hv hc hp := by
    rcases getElem?_append_singleton.1 hv with hv | ⟨rfl, -⟩
    · exact h.earliest j v hv hc hp
    · exact (List.getElem?_eq_some_iff.1 h.there).1.le

/-- The added tier counts when it beats all others that cover the call. -/
theorem counts_append (hu : u.covers input output = true)
    (h : ∀ t ∈ tiers, t.covers input output = true → t.priority < u.priority) :
    Counts (tiers ++ [u]) input output tiers.length u where
  there := getElem?_append_singleton.2 (.inr ⟨rfl, rfl⟩)
  covers := hu
  highest v hv hc := by
    rcases List.mem_append.1 hv with hv | hv
    · exact Int32.le_of_lt (h v hv hc)
    · obtain rfl := List.mem_singleton.1 hv
      exact Int32.le_refl _
  earliest j v hv hc hp := by
    rcases getElem?_append_singleton.1 hv with hv | ⟨rfl, -⟩
    · have hlt := h v (List.mem_of_getElem? hv) hc
      rw [hp] at hlt
      exact absurd hlt Int32.lt_irrefl
    · exact Nat.le_refl _

theorem pick?_append_singleton (tiers : List Tier) (u : Tier) (input output : UInt64) :
    pick? (tiers ++ [u]) input output =
      if u.covers input output = true then better (pick? tiers input output) (tiers.length, u)
      else pick? tiers input output := by
  have hlast : covering (tiers ++ [u]) input output = covering tiers input output ++
      if u.covers input output = true then [(tiers.length, u)] else [] := by
    simp only [covering, List.zipIdx_append, List.map_append, List.filter_append]
    congr 1
    simp [List.filter_cons]
  rw [pick?, hlast, List.foldl_append]
  split <;> rfl

/-! ### The choice -/

/-- The answer is right: a tier that counts, or none when none covers the call. -/
def Picked (tiers : List Tier) (input output : UInt64) : Option (ℕ × Tier) → Prop
  | some (k, t) => Counts tiers input output k t
  | none => ∀ t ∈ tiers, t.covers input output = false

theorem Picked.better {best : Option (ℕ × Tier)} (h : Picked tiers input output best)
    (hu : u.covers input output = true) :
    Picked (tiers ++ [u]) input output (better best (tiers.length, u)) := by
  cases best with
  | none =>
    refine counts_append hu fun t ht hc => ?_
    rw [h t ht] at hc
    cases hc
  | some p =>
    rw [Tier.better]
    split
    · rename_i hle
      exact Counts.append h fun _ => hle
    · rename_i hle
      exact counts_append hu fun t ht hc =>
        Int32.lt_of_le_of_lt (h.highest t ht hc) (Int32.not_le.1 hle)

theorem picked_pick? (tiers : List Tier) (input output : UInt64) :
    Picked tiers input output (pick? tiers input output) := by
  induction tiers using List.reverseRecOn with
  | nil => exact fun _ ht => absurd ht List.not_mem_nil
  | append_singleton tiers u ih =>
    rw [pick?_append_singleton]
    split
    · rename_i hu
      exact ih.better hu
    · rename_i hu
      cases hpick : pick? tiers input output with
      | some p =>
        rw [hpick] at ih
        exact Counts.append ih fun hc => absurd hc hu
      | none =>
        rw [hpick] at ih
        intro t ht
        rcases List.mem_append.1 ht with ht | ht
        · exact ih t ht
        · rw [List.mem_singleton.1 ht]
          exact Bool.eq_false_of_not_eq_true hu

theorem pick?_eq_some_iff :
    pick? tiers input output = some (k, t) ↔ Counts tiers input output k t := by
  have hpicked := picked_pick? tiers input output
  constructor
  · intro h
    rw [h] at hpicked
    exact hpicked
  · intro h
    cases hpick : pick? tiers input output with
    | none =>
      rw [hpick] at hpicked
      have hnot := hpicked t h.mem
      rw [h.covers] at hnot
      cases hnot
    | some p =>
      rw [hpick] at hpicked
      obtain ⟨rfl, rfl⟩ := Counts.unique h hpicked
      rfl

theorem pick?_eq_none_iff :
    pick? tiers input output = none ↔ ∀ t ∈ tiers, t.covers input output = false := by
  have hpicked := picked_pick? tiers input output
  constructor
  · intro h
    rw [h] at hpicked
    exact hpicked
  · intro h
    cases hpick : pick? tiers input output with
    | none => rfl
    | some p =>
      rw [hpick] at hpicked
      have hnot := h p.2 (Counts.mem hpicked)
      rw [Counts.covers hpicked] at hnot
      cases hnot

/-- The only tier that covers a call is chosen, whatever the priorities. -/
theorem pick?_of_filter_eq (h : tiers.filter (·.covers input output) = [t]) :
    ∃ k, tiers[k]? = some t ∧ pick? tiers input output = some (k, t) := by
  have ht : t ∈ tiers ∧ t.covers input output = true :=
    List.mem_filter.1 (h ▸ List.mem_singleton_self t)
  cases hpick : pick? tiers input output with
  | none =>
    have hnot := pick?_eq_none_iff.1 hpick t ht.1
    rw [ht.2] at hnot
    cases hnot
  | some p =>
    obtain ⟨k, u⟩ := p
    have hcounts := pick?_eq_some_iff.1 hpick
    have hu : u ∈ tiers.filter (·.covers input output) :=
      List.mem_filter.2 ⟨hcounts.mem, hcounts.covers⟩
    rw [h] at hu
    obtain rfl := List.mem_singleton.1 hu
    exact ⟨k, hcounts.there, rfl⟩

end TokenTariff.Tier
