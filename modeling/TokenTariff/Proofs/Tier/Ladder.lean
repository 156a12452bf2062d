import Mathlib
import TokenTariff.Proofs.Catalog.Shown
import TokenTariff.Proofs.Tariff.Wire
import TokenTariff.Proofs.Tier.Selection

/-!
# Ladders of tiers

Breakpoints cut the input counts into steps: up to the first one, from each to the next, and beyond
the last. Written down with a lower and an upper bound and nothing else about spans, a step holds
the counts above its lower bound up to its upper one. So every count is on one step and one only,
and it does not matter in which order the steps are given and which priorities they have.
-/

namespace TokenTariff

open Json

/-- What a tier says besides its bounds. -/
structure Terms where
  modelRatio : Number
  completionRatio : Number
  priority : Option Int32 := none

/-- A tier that is bounded by input counts at most. -/
structure Rung where
  lower : Option UInt64
  upper : Option UInt64
  terms : Terms

/-- Every breakpoint ends one rung and begins the next. -/
def ladder (lower : Option UInt64) : List (UInt64 × Terms) → Terms → List Rung
  | [], top => [⟨lower, none, top⟩]
  | (b, terms) :: rest, top => ⟨lower, some b, terms⟩ :: ladder (some b) rest top

namespace Rung

def given (name : String) (v : Option Value) : List (String × Value) := v.toList.map (name, ·)

/-- What is written for a rung: its bounds as far as it has them, the ratios, and a priority if it
has one. -/
def members (r : Rung) : List (String × Value) :=
  given "input_min" (r.lower.map fun b => .int b.toNat) ++
    given "input_max" (r.upper.map fun b => .int b.toNat) ++
    [("model_ratio", .number r.terms.modelRatio),
      ("completion_ratio", .number r.terms.completionRatio)] ++
    given "priority" (r.terms.priority.map fun p => .int p.toInt)

/-- The document is an object of these members, in whatever order. -/
def SaidBy (r : Rung) (d : Doc) : Prop :=
  ∃ ms : List (String × Value), ms.Perm r.members ∧ d = (Value.object ms).toDoc

def tier (r : Rung) : Tier where
  input := { lower := r.lower, upper := r.upper }
  modelRatio := r.terms.modelRatio.toFloat
  completionRatio := r.terms.completionRatio.toFloat
  priority := r.terms.priority.getD 0

def Between (r : Rung) (n : UInt64) : Prop :=
  (∀ b, r.lower = some b → b < n) ∧ ∀ b, r.upper = some b → n ≤ b

/-- No bound is zero, which would say that there is none. -/
def Positive (r : Rung) : Prop := r.lower ≠ some 0 ∧ r.upper ≠ some 0

variable {r : Rung} {src : Source}

/-! ### Reading a rung -/

def sets (r : Rung) : List (Tier → Tier) :=
  (r.lower.map fun b t => { t with input.lower := some b }).toList ++
    (r.upper.map fun b t => { t with input.upper := some b }).toList ++
    [fun t => { t with modelRatio := r.terms.modelRatio.toFloat },
      fun t => { t with completionRatio := r.terms.completionRatio.toFloat }] ++
    (r.terms.priority.map fun p t => { t with priority := p }).toList

def keys : List String := ["input_min", "input_max", "model_ratio", "completion_ratio", "priority"]

theorem keys_sublist (r : Rung) : (r.members.map (·.1)).Sublist keys := by
  have hgiven (name : String) (v : Option Value) :
      ((given name v).map (·.1)).Sublist [name] := by
    cases v with
    | none => exact List.nil_sublist _
    | some v => exact .refl _
  simp only [members, List.map_append]
  exact (((hgiven _ _).append (hgiven _ _)).append (.refl _)).append (hgiven _ _)

theorem forall₂_given {α : Type} {name : String} {o : Option α} {write : α → Value}
    {set : α → Tier → Tier} (h : ∀ x, o = some x → Tier.shape.Sets src (name, write x) (set x)) :
    List.Forall₂ (Tier.shape.Sets src) (given name (o.map write)) (o.map set).toList := by
  cases o with
  | none => exact .nil
  | some x => exact .cons (h x rfl) .nil

theorem read_bound {b : UInt64} (hb : b ≠ 0) (src : Source) :
    boundReader src (Value.int b.toNat).toDoc = .ok (some b) := by
  have hread := read_boundValue (some b) src
  rwa [Option.filter_some_pos (by simpa using hb)] at hread

theorem forall₂_sets (h : r.Positive) (src : Source) :
    List.Forall₂ (Tier.shape.Sets src) r.members r.sets := by
  have hmodel : Tier.shape.Sets src ("model_ratio", .number r.terms.modelRatio) _ :=
    Shape.sets_of_read (r := Reader.real) rfl rfl
  have hcompletion : Tier.shape.Sets src ("completion_ratio", .number r.terms.completionRatio) _ :=
    Shape.sets_of_read (r := Reader.real) rfl rfl
  refine List.rel_append (List.rel_append (List.rel_append
    (forall₂_given fun b hb => ?_) (forall₂_given fun b hb => ?_))
    (.cons hmodel (.cons hcompletion .nil))) (forall₂_given fun p _ => ?_)
  · have hset : Tier.shape.Sets src ("input_min", .int b.toNat) _ :=
      Shape.sets_of_read rfl (read_bound (fun h0 => h.1 (h0 ▸ hb)) src)
    exact hset
  · have hset : Tier.shape.Sets src ("input_max", .int b.toNat) _ :=
      Shape.sets_of_read rfl (read_bound (fun h0 => h.2 (h0 ▸ hb)) src)
    exact hset
  · have hset : Tier.shape.Sets src ("priority", .int p.toInt) _ :=
      Shape.sets_of_read rfl (read_priority p src)
    exact hset

/-- No two members set the same field. -/
theorem sets_comm {f g : Tier → Tier} (hf : f ∈ r.sets) (hg : g ∈ r.sets) (t : Tier) :
    f (g t) = g (f t) := by
  simp only [sets, List.mem_append, Option.mem_toList, Option.map_eq_some_iff,
    List.mem_cons, List.not_mem_nil, or_false] at hf hg
  rcases hf with ((⟨b, hb, rfl⟩ | ⟨b, hb, rfl⟩) | rfl | rfl) | ⟨p, hp, rfl⟩ <;>
    rcases hg with ((⟨b', hb', rfl⟩ | ⟨b', hb', rfl⟩) | rfl | rfl) | ⟨p', hp', rfl⟩ <;>
    first
    | rfl
    | exact Option.some.inj (hb.symm.trans hb') ▸ rfl
    | exact Option.some.inj (hp.symm.trans hp') ▸ rfl

/-- A rung without bounds of zero is read as its tier. -/
theorem read_of_saidBy (h : r.Positive) {d : Doc} (hd : r.SaidBy d) (src : Source) :
    Tier.reader src d = .ok r.tier := by
  obtain ⟨ms, hperm, rfl⟩ := hd
  have hrequired : ∀ field ∈ Tier.shape.fields, field.absence = .fault →
      field.name ∈ r.members.map (·.1) := by
    have hnames : ∀ field ∈ Tier.shape.fields, field.absence = .fault →
        field.name = "model_ratio" ∨ field.name = "completion_ratio" := by decide
    intro field hfield hfault
    rcases hnames field hfield hfault with hname | hname <;> rw [hname] <;> simp [members]
  have hread := Shape.reader_of_perm (forall₂_sets h src) hperm
    (fun f hf g hg t => sets_comm hf hg t) (r.keys_sublist.nodup (by decide)) hrequired
  refine hread.trans ?_
  obtain ⟨_ | a, _ | b, ⟨m, c, _ | p⟩⟩ := r <;> rfl

/-! ### Counts on a rung -/

theorem covers_tier_iff (r : Rung) (input output : UInt64) :
    r.tier.covers input output = true ↔ r.Between input := by
  obtain ⟨_ | a, _ | b, terms⟩ := r <;>
    simp [tier, Tier.covers, Span.contains, Span.aboveLower, Span.belowUpper, Between]

end Rung

section Ladder

variable {rungs : List (UInt64 × Terms)} {top : Terms} {lower : Option UInt64} {b n output : UInt64}

theorem positive_of_mem (hlower : lower ≠ some 0) (h : ∀ b ∈ rungs.map (·.1), 0 < b) {r : Rung}
    (hr : r ∈ ladder lower rungs top) : r.Positive := by
  induction rungs generalizing lower with
  | nil =>
    obtain rfl := List.mem_singleton.1 hr
    exact ⟨hlower, nofun⟩
  | cons e rest ih =>
    obtain ⟨b, terms⟩ := e
    obtain ⟨hb, hrest⟩ := List.forall_mem_cons.1 h
    have hb0 : some b ≠ some 0 := fun h0 => UInt64.lt_irrefl 0 (Option.some.inj h0 ▸ hb)
    rcases List.mem_cons.1 hr with rfl | hr
    · exact ⟨hlower, hb0⟩
    · exact ih hb0 hrest hr

theorem le_lower_of_mem (h : (b :: rungs.map (·.1)).Pairwise (· < ·)) {r : Rung}
    (hr : r ∈ ladder (some b) rungs top) : ∃ a, r.lower = some a ∧ b ≤ a := by
  induction rungs generalizing b with
  | nil =>
    obtain rfl := List.mem_singleton.1 hr
    exact ⟨b, rfl, UInt64.le_refl b⟩
  | cons e rest ih =>
    obtain ⟨hlt, hrest⟩ := List.pairwise_cons.1 h
    rcases List.mem_cons.1 hr with rfl | hr
    · exact ⟨b, rfl, UInt64.le_refl b⟩
    · obtain ⟨a, ha, hle⟩ := ih hrest hr
      exact ⟨a, ha, UInt64.le_trans (UInt64.le_of_lt (hlt e.1 List.mem_cons_self)) hle⟩

/-- A count above the lower bound of a ladder is on one rung. If it is not above the first
breakpoint then it is above no other, and else it is on the ladder that begins there. -/
theorem filter_ladder (hasc : (rungs.map (·.1)).Pairwise (· < ·))
    (hlower : ∀ a, lower = some a → a < n) (top : Terms) (output : UInt64) :
    ∃ r, (ladder lower rungs top).filter (fun r => r.tier.covers n output) = [r] := by
  induction rungs generalizing lower with
  | nil =>
    have hcovers : (Rung.mk lower none top).tier.covers n output = true :=
      (Rung.covers_tier_iff ..).2 ⟨hlower, nofun⟩
    refine ⟨⟨lower, none, top⟩, ?_⟩
    rw [ladder, List.filter_cons, if_pos hcovers, List.filter_nil]
  | cons e rest ih =>
    obtain ⟨b, terms⟩ := e
    rcases UInt64.le_or_lt n b with hle | hlt
    · have hcovers : (Rung.mk lower (some b) terms).tier.covers n output = true :=
        (Rung.covers_tier_iff ..).2 ⟨hlower, fun _ hb => Option.some.inj hb ▸ hle⟩
      have hrest : (ladder (some b) rest top).filter (fun r => r.tier.covers n output) = [] := by
        refine List.filter_eq_nil_iff.2 fun r hr hc => ?_
        obtain ⟨a, ha, hba⟩ := le_lower_of_mem hasc hr
        have han := ((Rung.covers_tier_iff ..).1 hc).1 a ha
        exact UInt64.lt_irrefl a (UInt64.lt_of_lt_of_le han (UInt64.le_trans hle hba))
      refine ⟨⟨lower, some b, terms⟩, ?_⟩
      rw [ladder, List.filter_cons, if_pos hcovers, hrest]
    · have hnot : ¬ (Rung.mk lower (some b) terms).tier.covers n output = true := fun hc =>
        UInt64.lt_irrefl b (UInt64.lt_of_lt_of_le hlt (((Rung.covers_tier_iff ..).1 hc).2 b rfl))
      rw [ladder, List.filter_cons, if_neg hnot]
      exact ih (List.pairwise_cons.1 hasc).2 fun a ha => Option.some.inj ha ▸ hlt

theorem mapM_of_saidBy {rs : List Rung} {docs : List Doc} (hpos : ∀ r ∈ rs, r.Positive)
    (h : List.Forall₂ Rung.SaidBy rs docs) (src : Source) :
    docs.mapM (Tier.reader src) = .ok (rs.map Rung.tier) := by
  induction h with
  | nil => rfl
  | @cons r d rs docs hd _ ih =>
    obtain ⟨hr, hrs⟩ := List.forall_mem_cons.1 hpos
    rw [List.mapM_cons, Rung.read_of_saidBy hr hd, ih hrs]
    rfl

/-- The tiers of a ladder leave no gap and do not overlap: in whatever order they are put, one of
them covers a call, that of the rung which the input count is on, so it is chosen and the call is
billed by its ratios. -/
theorem ladder_covers_once (hpos : ∀ b ∈ rungs.map (·.1), 0 < b)
    (hasc : (rungs.map (·.1)).Pairwise (· < ·)) {docs : List Doc}
    (hdocs : List.Forall₂ Rung.SaidBy (ladder none rungs top) docs) (src : Source) :
    ∃ tiers, docs.mapM (Tier.reader src) = .ok tiers ∧
      ∀ tiers' : List Tier, tiers'.Perm tiers → ∀ input output,
        ∃ r ∈ ladder none rungs top,
          r.Between input ∧ (∀ r' ∈ ladder none rungs top, r'.Between input → r' = r) ∧
          tiers'.filter (·.covers input output) = [r.tier] ∧
          (∃ k, tiers'[k]? = some r.tier ∧ Tier.pick? tiers' input output = some (k, r.tier)) ∧
          ∀ (registry : Registry) (model : String),
            registry.get? model = some ⟨model, true, .tiered tiers'⟩ →
              registry.resolve model input output =
                .ok (.byRatio (some r.terms.modelRatio.toFloat)
                  (some r.terms.completionRatio.toFloat)) := by
  have hladder : ∀ r ∈ ladder none rungs top, r.Positive := fun r hr =>
    positive_of_mem (Option.some_ne_none 0).symm hpos hr
  refine ⟨_, mapM_of_saidBy hladder hdocs src, fun tiers' hperm input output => ?_⟩
  obtain ⟨r, hr⟩ :
      ∃ r, (ladder none rungs top).filter (fun r => r.tier.covers input output) = [r] :=
    filter_ladder hasc (fun a ha => by cases ha) top output
  have hmem (r' : Rung) : r' ∈ ladder none rungs top ∧ r'.Between input ↔ r' = r := by
    have hfilter : r' ∈ [r] ↔ _ := hr ▸ List.mem_filter
    rw [← Rung.covers_tier_iff r' input output, ← hfilter, List.mem_singleton]
  have hfilter : tiers'.filter (·.covers input output) = [r.tier] := by
    have hfiltered := hperm.filter (·.covers input output)
    rw [List.filter_map] at hfiltered
    exact List.perm_singleton.1 (hfiltered.trans (hr ▸ .refl _))
  obtain ⟨hthere, hbetween⟩ := (hmem r).2 rfl
  obtain ⟨k, hk, hpick⟩ := Tier.pick?_of_filter_eq hfilter
  refine ⟨r, hthere, hbetween, fun r' hr' hb => (hmem r').1 ⟨hr', hb⟩, hfilter, ⟨k, hk, hpick⟩,
    fun registry model hget => ?_⟩
  rw [Registry.resolve, hget]
  dsimp only
  rw [if_pos rfl, Tariff.charge]
  dsimp only
  rw [hpick]
  rfl

/-- Three tiers, given from the last to the first with their members the other way round: a count on
a breakpoint is billed by the tier that ends there, though another one has a higher priority. -/
theorem ladder_at_breakpoint :
    let rungs : List (UInt64 × Terms) :=
      [(200, ⟨.real 0.625, .real 8.0, none⟩), (1000, ⟨.int 2, .int 3, some 100⟩)]
    let rs := ladder none rungs ⟨.int 4, .int 5, some (-1)⟩
    let docs := rs.map fun r => (Value.object r.members.reverse).toDoc
    (∀ b ∈ rungs.map (·.1), 0 < b) ∧ (rungs.map (·.1)).Pairwise (· < ·) ∧
      ∃ tiers, docs.mapM (Tier.reader .text) = .ok tiers ∧ ∀ output,
        (Registry.mk [⟨"m", true, .tiered tiers.reverse⟩] none).resolve "m" 200 output =
          .ok (.byRatio (some 0.625) (some 8.0)) := by
  intro rungs rs docs
  have hpos : ∀ b ∈ rungs.map (·.1), 0 < b :=
    List.forall_mem_cons.2 ⟨by decide, List.forall_mem_singleton.2 (by decide)⟩
  have hasc : (rungs.map (·.1)).Pairwise (· < ·) := List.pairwise_pair.2 (by decide)
  have hdocs : List.Forall₂ Rung.SaidBy rs docs := by
    refine List.forall₂_map_right_iff.2 (List.forall₂_same.2 fun r _ => ?_)
    exact ⟨_, r.members.reverse_perm, rfl⟩
  obtain ⟨tiers, hread, hlookup⟩ := ladder_covers_once hpos hasc hdocs .text
  refine ⟨hpos, hasc, tiers, hread, fun output => ?_⟩
  obtain ⟨r, -, -, hunique, -, -, hbill⟩ := hlookup tiers.reverse tiers.reverse_perm 200 output
  have hfirst : (Rung.mk none (some 200) ⟨.real 0.625, .real 8.0, none⟩).Between 200 :=
    ⟨nofun, fun _ hb => Option.some.inj hb ▸ UInt64.le_refl 200⟩
  obtain rfl := hunique _ List.mem_cons_self hfirst
  exact hbill _ "m" (Registry.get?_singleton _ none)

end Ladder

end TokenTariff
