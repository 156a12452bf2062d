import Mathlib
import TokenTariff.Proofs.Json.Fields
import TokenTariff.Proofs.Tariff.Expressible

/-!
# The values that are tariffs

A tariff is decoded from a JSON object just when each of its members says what the field of its name
may say, and when only the fields of one kind of tariff are used. A field may be missing, be `null`
or be something else, and every field takes that in its own way. Members of other names do not
matter.
-/

namespace TokenTariff

open Json

/-! ### What a member says -/

/-- The member is missing or `null`. -/
def IsVacant (v : Option Value) : Prop := v = none ∨ v = some .null

def SaysReal (v : Option Value) (x : Float) : Prop := ∃ n, v = some (.number n) ∧ x = n.toFloat

def SaysOptionalReal (v : Option Value) (x : Option Float) : Prop :=
  IsVacant v ∧ x = none ∨ ∃ n, v = some (.number n) ∧ x = some n.toFloat

def SaysFlag (default : Bool) (v : Option Value) (b : Bool) : Prop :=
  v = none ∧ b = default ∨ v = some (.bool b)

/-- A bound is an integer of 64 bits; zero says that there is none. -/
def SaysBound (v : Option Value) (b : Option UInt64) : Prop :=
  IsVacant v ∧ b = none ∨ ∃ i : ℤ, v = some (.number (.int i)) ∧ 0 ≤ i ∧ i < 2 ^ 64 ∧
    b = if i = 0 then none else some (UInt64.ofNat i.toNat)

def SaysPriority (v : Option Value) (p : Int32) : Prop :=
  v = none ∧ p = 0 ∨
    ∃ i : ℤ, v = some (.number (.int i)) ∧ -2 ^ 31 ≤ i ∧ i < 2 ^ 31 ∧ p = Int32.ofInt i

/-- The kind by its name, or as an object with that name and `null`. -/
def SaysKind (v : Option Value) (k : PlanKind) : Prop :=
  v = some (.text k.name) ∨ v = some (.object [(k.name, .null)])

/-- A list of values that are decoded to these tiers one by one. -/
def SaysTiers (v : Option Value) (ts : List Tier) : Prop :=
  ∃ vs, v = some (.list vs) ∧ List.Forall₂ (fun v t => Reader.ofValue Tier.reader v = .ok t) vs ts

@[mk_iff] structure Tier.SaidBy (ms : Table Value) (t : Tier) : Prop where
  inputMin : SaysBound (ms.get? "input_min") t.input.lower
  inputMax : SaysBound (ms.get? "input_max") t.input.upper
  inputMinExclusive : SaysFlag true (ms.get? "input_min_exclusive") t.input.openBelow
  inputMaxExclusive : SaysFlag false (ms.get? "input_max_exclusive") t.input.openAbove
  outputMin : SaysBound (ms.get? "output_min") t.output.lower
  outputMax : SaysBound (ms.get? "output_max") t.output.upper
  outputMinExclusive : SaysFlag true (ms.get? "output_min_exclusive") t.output.openBelow
  outputMaxExclusive : SaysFlag false (ms.get? "output_max_exclusive") t.output.openAbove
  modelRatio : SaysReal (ms.get? "model_ratio") t.modelRatio
  completionRatio : SaysReal (ms.get? "completion_ratio") t.completionRatio
  priority : SaysPriority (ms.get? "priority") t.priority

/-- The members of an object say this plan. A flat one has no tiers, a tiered one has no fields of a
flat one and at least one tier. -/
def Plan.SaidBy (ms : Table Value) : Plan → Prop
  | .flat r =>
    SaysOptionalReal (ms.get? "fixed_price") r.price ∧
    SaysOptionalReal (ms.get? "model_ratio") r.modelRatio ∧
    SaysOptionalReal (ms.get? "completion_ratio") r.completionRatio ∧
    (ms.get? "rules" = none ∨ ms.get? "rules" = some (.list []))
  | .tiered ts =>
    IsVacant (ms.get? "fixed_price") ∧ IsVacant (ms.get? "model_ratio") ∧
    IsVacant (ms.get? "completion_ratio") ∧ SaysTiers (ms.get? "rules") ts ∧ ts ≠ []

structure Tariff.SaidBy (ms : Table Value) (t : Tariff) : Prop where
  model : ms.get? "model_name" = some (.text t.model)
  enabled : SaysFlag true (ms.get? "enabled") t.enabled
  kind : SaysKind (ms.get? "mode") t.kind
  plan : t.plan.SaidBy ms

/-! ### What a reader takes -/

theorem real_iff {v : Value} {x : Float} {src : Source} :
    Reader.real src v.toDoc = .ok x ↔ SaysReal (some v) x := by
  cases v <;> simp [Value.toDoc, Reader.real, SaysReal, eq_comm]

theorem optionalReal_iff {v : Value} {x : Option Float} {src : Source} :
    Reader.optional Reader.real src v.toDoc = .ok x ↔ SaysOptionalReal (some v) x := by
  cases v <;>
    simp [Value.toDoc, Reader.optional, Reader.real, SaysOptionalReal, IsVacant, Except.map,
      eq_comm]

theorem bool_iff {v : Value} {b : Bool} {src : Source} :
    Reader.bool src v.toDoc = .ok b ↔ v = .bool b := by
  cases v <;> simp [Value.toDoc, Reader.bool]

theorem text_iff {v : Value} {s : String} {src : Source} :
    Reader.text src v.toDoc = .ok s ↔ v = .text s := by
  cases v <;> simp [Value.toDoc, Reader.text]

theorem saysBound_int {i : ℤ} {b : Option UInt64} :
    SaysBound (some (.number (.int i))) b ↔
      0 ≤ i ∧ i < 2 ^ 64 ∧ b = if i = 0 then none else some (UInt64.ofNat i.toNat) := by
  simp [SaysBound, IsVacant]

theorem filter_ofNat {i : ℤ} (h0 : 0 ≤ i) (h : i < 2 ^ 64) :
    (some (UInt64.ofNat i.toNat)).filter (· != 0) =
      if i = 0 then none else some (UInt64.ofNat i.toNat) := by
  by_cases hi : i = 0
  · subst hi
    rfl
  · have hne : UInt64.ofNat i.toNat ≠ 0 := fun hzero => by
      have hnat := congrArg UInt64.toNat hzero
      rw [UInt64.toNat_ofNat', UInt64.toNat_zero] at hnat
      omega
    rw [if_neg hi]
    exact Option.filter_some_pos (bne_iff_ne.2 hne)

theorem bound_iff {v : Value} {b : Option UInt64} {src : Source} :
    boundReader src v.toDoc = .ok b ↔ SaysBound (some v) b := by
  cases v with
  | null =>
    have hnull : boundReader src Value.null.toDoc = .ok none := rfl
    simp [hnull, SaysBound, IsVacant, eq_comm]
  | number n =>
    cases n with
    | real x =>
      have hreal : boundReader src (Value.number (.real x)).toDoc =
          .error (.wrongType (.number (.real x)) "u64") := rfl
      simp [hreal, SaysBound, IsVacant]
    | int i =>
      rw [saysBound_int]
      have hsize : (UInt64.size : ℤ) = 2 ^ 64 := rfl
      have hread : boundReader src (Value.number (.int i)).toDoc =
          ((if 0 ≤ i ∧ i < UInt64.size then Except.ok (UInt64.ofNat i.toNat)
            else .error (.wrongInteger i "u64")).map some).map fun b => b.filter (· != 0) := rfl
      rw [hread]
      by_cases hi : 0 ≤ i ∧ i < UInt64.size
      · rw [if_pos hi, and_iff_right hi.1, and_iff_right (hsize ▸ hi.2),
          ← filter_ofNat hi.1 (hsize ▸ hi.2)]
        change Except.ok ((some (UInt64.ofNat i.toNat)).filter (· != 0)) = .ok b ↔ _
        rw [Except.ok.injEq, eq_comm]
      · rw [if_neg hi]
        exact iff_of_false nofun fun hno => hi ⟨hno.1, hsize ▸ hno.2.1⟩
  | _ =>
    simp [boundReader, Reader.map, Reader.optional, Reader.count, Reader.word, Value.toDoc,
      SaysBound, IsVacant, Except.map]

theorem saysPriority_int {i : ℤ} {p : Int32} :
    SaysPriority (some (.number (.int i))) p ↔ (-2 ^ 31 ≤ i ∧ i < 2 ^ 31) ∧ p = Int32.ofInt i := by
  simp [SaysPriority, and_assoc]

theorem small_iff {v : Value} {p : Int32} {src : Source} :
    Reader.small src v.toDoc = .ok p ↔ SaysPriority (some v) p := by
  cases v with
  | number n =>
    cases n with
    | real x => simp [Reader.small, Value.toDoc, SaysPriority]
    | int i =>
      have hmin : Int32.minValue.toInt = -2 ^ 31 := by decide
      have hmax : i ≤ Int32.maxValue.toInt ↔ i < 2 ^ 31 := Int.lt_add_one_iff.symm
      rw [saysPriority_int]
      simp only [Reader.small, Value.toDoc, hmin, hmax]
      split_ifs with hi
      · rw [and_iff_right hi, Except.ok.injEq, eq_comm]
      · refine iff_of_false ?_ fun hno => hi hno.1
        intro hread
        cases hread
  | _ => simp [Reader.small, Value.toDoc, SaysPriority]

theorem name_iff {s : String} {k : PlanKind} :
    Reader.name PlanKind.names s = .ok k ↔ s = k.name := by
  by_cases hfixed : s = "fixed"
  · subst hfixed
    cases k <;> simp [Reader.name, PlanKind.names, PlanKind.name]
  by_cases htiered : s = "segmented"
  · subst htiered
    cases k <;> simp [Reader.name, PlanKind.names, PlanKind.name, List.lookup_cons]
  · have hlookup : PlanKind.names.lookup s = none := by
      simp [PlanKind.names, List.lookup_cons, beq_false_of_ne hfixed, beq_false_of_ne htiered]
    rw [Reader.name, hlookup]
    refine iff_of_false nofun ?_
    cases k
    · exact hfixed
    · exact htiered

theorem kind_iff {v : Value} {k : PlanKind} :
    PlanKind.reader .value v.toDoc = .ok k ↔ SaysKind (some v) k := by
  cases v with
  | text s =>
    have hname : PlanKind.reader .value (Value.text s).toDoc = Reader.name PlanKind.names s := rfl
    rw [hname, name_iff]
    simp [SaysKind]
  | object ms =>
    simp only [SaysKind, Option.some.injEq, reduceCtorEq, Value.object.injEq, false_or]
    rcases ms with _ | ⟨⟨s, v⟩, _ | ⟨m, ms⟩⟩
    · exact iff_of_false nofun nofun
    · have hone : PlanKind.reader .value (Value.object [(s, v)]).toDoc =
          (Reader.name PlanKind.names s >>= fun a =>
            Reader.unit .value v.toDoc >>= fun _ => .ok a) := rfl
      rw [hone]
      constructor
      · intro h
        obtain ⟨a, ha, h⟩ := exists_of_bind h
        obtain ⟨u, hunit, h⟩ := exists_of_bind h
        obtain rfl := Except.ok.inj h
        obtain rfl := name_iff.1 ha
        cases v with
        | null => rfl
        | _ => cases hunit
      · intro h
        cases h
        rw [name_iff.2 rfl]
        rfl
    · exact iff_of_false nofun nofun
  | _ => exact iff_of_false nofun (by simp [SaysKind])

theorem tiers_iff {v : Value} {ts : List Tier} :
    Reader.items Tier.reader .value v.toDoc = .ok ts ↔ SaysTiers (some v) ts := by
  cases v with
  | list vs =>
    have hitems : Reader.items Tier.reader .value (Value.list vs).toDoc =
        (Value.toDocs vs).mapM (Tier.reader .value) := by
      rw [Value.toDoc, Reader.items]
      cases (Value.toDocs vs).mapM (Tier.reader .value) <;> rfl
    rw [hitems, Value.toDocs_eq, mapM_iff, List.forall₂_map_left_iff]
    simp [SaysTiers, Reader.ofValue]
  | _ => simp [Value.toDoc, Reader.items, SaysTiers]

/-! ### Fields and what they take -/

section Slots

variable {ρ : Type} {src : Source} {blank r : ρ} {v : Option Value} {name : String}
  {absence : Absence}

theorem takes_bound {get : ρ → Option UInt64} {set : Option UInt64 → ρ → ρ}
    {h : ∀ x r, get (set x r) = x} (hblank : get blank = none) :
    Slot.TakesValue ⟨_, name, .anywhere, boundReader, get, set, h⟩ src blank r v ↔
      SaysBound v (get r) := by
  cases v with
  | none => simp [Slot.TakesValue, SaysBound, IsVacant, hblank]
  | some v => exact bound_iff

theorem takes_optionalReal {get : ρ → Option Float} {set : Option Float → ρ → ρ}
    {h : ∀ x r, get (set x r) = x} (hblank : get blank = none) :
    Slot.TakesValue ⟨_, name, .anywhere, Reader.optional Reader.real, get, set, h⟩ src blank r v ↔
      SaysOptionalReal v (get r) := by
  cases v with
  | none => simp [Slot.TakesValue, SaysOptionalReal, IsVacant, hblank]
  | some v => exact optionalReal_iff

theorem takes_flag {get : ρ → Bool} {set : Bool → ρ → ρ} {h : ∀ x r, get (set x r) = x} :
    Slot.TakesValue ⟨_, name, .anywhere, Reader.bool, get, set, h⟩ src blank r v ↔
      SaysFlag (get blank) v (get r) := by
  cases v with
  | none => simp [Slot.TakesValue, SaysFlag]
  | some v => exact bool_iff.trans (by simp [SaysFlag])

theorem takes_real {get : ρ → Float} {set : Float → ρ → ρ} {h : ∀ x r, get (set x r) = x} :
    Slot.TakesValue ⟨_, name, .fault, Reader.real, get, set, h⟩ src blank r v ↔
      SaysReal v (get r) := by
  cases v with
  | none => simp [Slot.TakesValue, SaysReal]
  | some v => exact real_iff

theorem takes_priority {get : ρ → Int32} {set : Int32 → ρ → ρ} {h : ∀ x r, get (set x r) = x}
    (hblank : get blank = 0) :
    Slot.TakesValue ⟨_, name, .anywhere, Reader.small, get, set, h⟩ src blank r v ↔
      SaysPriority v (get r) := by
  cases v with
  | none => simp [Slot.TakesValue, SaysPriority, hblank]
  | some v => exact small_iff

theorem takes_text {get : ρ → String} {set : String → ρ → ρ} {h : ∀ x r, get (set x r) = x} :
    Slot.TakesValue ⟨_, name, .fault, Reader.text, get, set, h⟩ src blank r v ↔
      v = some (.text (get r)) := by
  cases v with
  | none => simp [Slot.TakesValue]
  | some v => exact text_iff.trans (by simp)

theorem takes_kind {get : ρ → PlanKind} {set : PlanKind → ρ → ρ} {h : ∀ x r, get (set x r) = x} :
    Slot.TakesValue ⟨_, name, .fault, PlanKind.reader, get, set, h⟩ .value blank r v ↔
      SaysKind v (get r) := by
  cases v with
  | none => simp [Slot.TakesValue, SaysKind]
  | some v => exact kind_iff

theorem takes_tiers {get : ρ → List Tier} {set : List Tier → ρ → ρ} {h : ∀ x r, get (set x r) = x}
    (hblank : get blank = []) :
    Slot.TakesValue ⟨_, name, .anywhere, Reader.items Tier.reader, get, set, h⟩ .value blank r v ↔
      v = none ∧ get r = [] ∨ SaysTiers v (get r) := by
  cases v with
  | none => simp [Slot.TakesValue, SaysTiers, hblank]
  | some v => exact tiers_iff.trans (by simp)

end Slots

namespace Tier

def slots : List (Slot Tier) := [
  ⟨_, "input_min", .anywhere, boundReader, (·.input.lower), fun b t => { t with input.lower := b },
    fun _ _ => rfl⟩,
  ⟨_, "input_max", .anywhere, boundReader, (·.input.upper), fun b t => { t with input.upper := b },
    fun _ _ => rfl⟩,
  ⟨_, "input_min_exclusive", .anywhere, Reader.bool, (·.input.openBelow),
    fun b t => { t with input.openBelow := b }, fun _ _ => rfl⟩,
  ⟨_, "input_max_exclusive", .anywhere, Reader.bool, (·.input.openAbove),
    fun b t => { t with input.openAbove := b }, fun _ _ => rfl⟩,
  ⟨_, "output_min", .anywhere, boundReader, (·.output.lower),
    fun b t => { t with output.lower := b }, fun _ _ => rfl⟩,
  ⟨_, "output_max", .anywhere, boundReader, (·.output.upper),
    fun b t => { t with output.upper := b }, fun _ _ => rfl⟩,
  ⟨_, "output_min_exclusive", .anywhere, Reader.bool, (·.output.openBelow),
    fun b t => { t with output.openBelow := b }, fun _ _ => rfl⟩,
  ⟨_, "output_max_exclusive", .anywhere, Reader.bool, (·.output.openAbove),
    fun b t => { t with output.openAbove := b }, fun _ _ => rfl⟩,
  ⟨_, "model_ratio", .fault, Reader.real, (·.modelRatio), fun x t => { t with modelRatio := x },
    fun _ _ => rfl⟩,
  ⟨_, "completion_ratio", .fault, Reader.real, (·.completionRatio),
    fun x t => { t with completionRatio := x }, fun _ _ => rfl⟩,
  ⟨_, "priority", .anywhere, Reader.small, (·.priority), fun p t => { t with priority := p },
    fun _ _ => rfl⟩]

theorem slotted : shape.Slotted slots where
  fields := rfl
  nodup := by decide
  apart := by simp [slots, Slot.Apart]
  ext := by
    rintro ⟨⟨_, _, _, _⟩, ⟨_, _, _, _⟩, _, _, _⟩ ⟨⟨_, _, _, _⟩, ⟨_, _, _, _⟩, _, _, _⟩ h
    simp only [slots, List.forall_mem_cons] at h
    obtain ⟨rfl, rfl, rfl, rfl, rfl, rfl, rfl, rfl, rfl, rfl, rfl, -⟩ := h
    rfl

/-- A tier is decoded from an object just when the members of the object say it. -/
theorem ofValue_iff {ms : Table Value} {t : Tier} :
    Reader.ofValue reader (.object ms.entries) = .ok t ↔ t.SaidBy ms := by
  rw [Reader.ofValue, reader, slotted.reader_iff, saidBy_iff]
  simp only [slots, List.forall_mem_cons, List.not_mem_nil, false_implies, implies_true, and_true]
  exact and_congr (takes_bound rfl) <| and_congr (takes_bound rfl) <| and_congr takes_flag <|
    and_congr takes_flag <| and_congr (takes_bound rfl) <| and_congr (takes_bound rfl) <|
    and_congr takes_flag <| and_congr takes_flag <| and_congr takes_real <|
    and_congr takes_real (takes_priority rfl)

/-- A member that is no field of a tier changes nothing. -/
theorem ofValue_insert {k : String} (hk : ∀ a ∈ slots, a.name ≠ k) (v : Value) (ms : Table Value) :
    Reader.ofValue reader (.object (ms.insert k v).entries) =
      Reader.ofValue reader (.object ms.entries) := by
  have hfields : ∀ f ∈ shape.fields, f.name ≠ k := by
    rw [slotted.fields, List.forall_mem_map]
    exact hk
  rw [Reader.ofValue, Reader.ofValue, reader, Shape.reader_insert hfields]

end Tier

namespace Tariff

def Draft.slots : List (Slot Draft) := [
  ⟨_, "model_name", .fault, Reader.text, (·.model), fun s d => { d with model := s },
    fun _ _ => rfl⟩,
  ⟨_, "enabled", .anywhere, Reader.bool, (·.enabled), fun b d => { d with enabled := b },
    fun _ _ => rfl⟩,
  ⟨_, "mode", .fault, PlanKind.reader, (·.kind), fun k d => { d with kind := k }, fun _ _ => rfl⟩,
  ⟨_, "fixed_price", .anywhere, Reader.optional Reader.real, (·.rate.price),
    fun x d => { d with rate.price := x }, fun _ _ => rfl⟩,
  ⟨_, "model_ratio", .anywhere, Reader.optional Reader.real, (·.rate.modelRatio),
    fun x d => { d with rate.modelRatio := x }, fun _ _ => rfl⟩,
  ⟨_, "completion_ratio", .anywhere, Reader.optional Reader.real, (·.rate.completionRatio),
    fun x d => { d with rate.completionRatio := x }, fun _ _ => rfl⟩,
  ⟨_, "rules", .anywhere, Reader.items Tier.reader, (·.tiers), fun ts d => { d with tiers := ts },
    fun _ _ => rfl⟩]

theorem Draft.slotted : shape.Slotted slots where
  fields := rfl
  nodup := by decide
  apart := by simp [slots, Slot.Apart]
  ext := by
    rintro ⟨_, _, _, ⟨_, _, _⟩, _⟩ ⟨_, _, _, ⟨_, _, _⟩, _⟩ h
    simp only [slots, List.forall_mem_cons] at h
    obtain ⟨rfl, rfl, rfl, rfl, rfl, rfl, rfl, -⟩ := h
    rfl

@[mk_iff] structure Draft.SaidBy (ms : Table Value) (d : Draft) : Prop where
  model : ms.get? "model_name" = some (.text d.model)
  enabled : SaysFlag true (ms.get? "enabled") d.enabled
  kind : SaysKind (ms.get? "mode") d.kind
  price : SaysOptionalReal (ms.get? "fixed_price") d.rate.price
  modelRatio : SaysOptionalReal (ms.get? "model_ratio") d.rate.modelRatio
  completionRatio : SaysOptionalReal (ms.get? "completion_ratio") d.rate.completionRatio
  tiers : ms.get? "rules" = none ∧ d.tiers = [] ∨ SaysTiers (ms.get? "rules") d.tiers

theorem Draft.ofValue_iff {ms : Table Value} {d : Draft} :
    Reader.ofValue reader (.object ms.entries) = .ok d ↔ d.SaidBy ms := by
  rw [Reader.ofValue, reader, slotted.reader_iff, saidBy_iff]
  simp only [slots, List.forall_mem_cons, List.not_mem_nil, false_implies, implies_true, and_true]
  exact and_congr takes_text <| and_congr takes_flag <| and_congr takes_kind <|
    and_congr (takes_optionalReal rfl) <| and_congr (takes_optionalReal rfl) <|
    and_congr (takes_optionalReal rfl) (takes_tiers rfl)

theorem saysOptionalReal_none {v : Option Value} : SaysOptionalReal v none ↔ IsVacant v := by
  simp [SaysOptionalReal]

theorem saysTiers_nil {v : Option Value} : SaysTiers v [] ↔ v = some (.list []) := by
  simp [SaysTiers]

/-- The draft of a tariff is said just when the tariff is, unless there are no tiers. -/
theorem saidBy_draft {ms : Table Value} {t : Tariff} :
    t.draft.SaidBy ms ∧ t.plan ≠ .tiered [] ↔ t.SaidBy ms := by
  obtain ⟨model, enabled, r | ts⟩ := t
  · constructor
    · rintro ⟨⟨h₁, h₂, h₃, h₄, h₅, h₆, h₇⟩, -⟩
      exact ⟨h₁, h₂, h₃, h₄, h₅, h₆, h₇.imp And.left saysTiers_nil.1⟩
    · rintro ⟨h₁, h₂, h₃, h₄, h₅, h₆, h₇⟩
      exact ⟨⟨h₁, h₂, h₃, h₄, h₅, h₆, h₇.imp (⟨·, rfl⟩) saysTiers_nil.2⟩, nofun⟩
  · constructor
    · rintro ⟨⟨h₁, h₂, h₃, h₄, h₅, h₆, h₇⟩, hne⟩
      have hts : ts ≠ [] := fun hnil => hne (congrArg Plan.tiered hnil)
      exact ⟨h₁, h₂, h₃, saysOptionalReal_none.1 h₄, saysOptionalReal_none.1 h₅,
        saysOptionalReal_none.1 h₆, h₇.resolve_left fun hno => hts hno.2, hts⟩
    · rintro ⟨h₁, h₂, h₃, h₄, h₅, h₆, h₇, hne⟩
      exact ⟨⟨h₁, h₂, h₃, saysOptionalReal_none.2 h₄, saysOptionalReal_none.2 h₅,
        saysOptionalReal_none.2 h₆, .inr h₇⟩, fun hnil => hne (Plan.tiered.inj hnil)⟩

/-- A tariff is read when its draft is, and never without a tier if it is tiered. -/
theorem reader_iff {src : Source} {d : Doc} {t : Tariff} :
    reader src d = .ok t ↔ Draft.reader src d = .ok t.draft ∧ t.plan ≠ .tiered [] := by
  rw [reader]
  constructor
  · intro h
    obtain ⟨draft, hdraft, h⟩ := exists_of_bind h
    split at h
    · rename_i t' hsettle
      obtain rfl := Except.ok.inj h
      obtain ⟨rfl, hne⟩ := settle_eq_ok_iff.1 hsettle
      exact ⟨hdraft, hne⟩
    · cases h
  · rintro ⟨hdraft, hne⟩
    rw [hdraft]
    dsimp only [bind, Except.bind]
    rw [settle_eq_ok_iff.2 ⟨rfl, hne⟩]

theorem ofValue_iff {ms : Table Value} {t : Tariff} :
    Reader.ofValue reader (.object ms.entries) = .ok t ↔ t.SaidBy ms := by
  rw [← saidBy_draft, ← Draft.ofValue_iff]
  exact reader_iff

/-- A member that is no field of a draft changes nothing. -/
theorem ofValue_insert {k : String} (hk : ∀ a ∈ Draft.slots, a.name ≠ k) (v : Value)
    (ms : Table Value) :
    Reader.ofValue reader (.object (ms.insert k v).entries) =
      Reader.ofValue reader (.object ms.entries) := by
  have hfields : ∀ f ∈ Draft.shape.fields, f.name ≠ k := by
    rw [Draft.slotted.fields, List.forall_mem_map]
    exact hk
  rw [Reader.ofValue, Reader.ofValue, reader, reader, Draft.reader, Shape.reader_insert hfields]

/-- A tariff is decoded from an object just when the members of the object say it, and so is a tier.
Members of other names change nothing, not even the fault. No tariff that is decoded from anything
is tiered without a tier, and a draft of it has no fields of the other kind. -/
theorem decoded_as_said (ms : Table Value) :
    (∀ t, Reader.ofValue reader (.object ms.entries) = .ok t ↔ t.SaidBy ms) ∧
    (∀ t, Reader.ofValue Tier.reader (.object ms.entries) = .ok t ↔ t.SaidBy ms) ∧
    (∀ k v, (∀ a ∈ Draft.slots, a.name ≠ k) →
      Reader.ofValue reader (.object (ms.insert k v).entries) =
        Reader.ofValue reader (.object ms.entries)) ∧
    (∀ k v, (∀ a ∈ Tier.slots, a.name ≠ k) →
      Reader.ofValue Tier.reader (.object (ms.insert k v).entries) =
        Reader.ofValue Tier.reader (.object ms.entries)) ∧
    ∀ v t, Reader.ofValue reader v = .ok t →
      Reader.ofValue Draft.reader v = .ok t.draft ∧ (t.draft.hasFlatField = false ∨ t.tiers = []) ∧
        t.plan ≠ .tiered [] := by
  refine ⟨fun t => ofValue_iff, fun t => Tier.ofValue_iff, fun k v hk => ofValue_insert hk v ms,
    fun k v hk => Tier.ofValue_insert hk v ms, fun v t h => ?_⟩
  obtain ⟨hdraft, hne⟩ := reader_iff.1 h
  refine ⟨hdraft, ?_, hne⟩
  obtain ⟨model, enabled, r | ts⟩ := t
  · exact .inr rfl
  · exact .inl rfl

end Tariff

end TokenTariff
