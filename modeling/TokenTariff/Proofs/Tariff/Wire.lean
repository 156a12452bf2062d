import Mathlib
import TokenTariff.Proofs.Json.Records
import TokenTariff.Remote.Record

/-!
# Tariffs in JSON read back

JSON has no number for what is no finite float, and it uses zero for a missing bound. Up to that a
tier comes back from its JSON as it was, and so does a tariff.
-/

namespace TokenTariff

open Json

theorem read_real {x : Float} (h : x.isFinite = true) (src : Source) :
    Reader.real src (Value.real x).toDoc = .ok x := by
  rw [Value.real, if_pos h]
  rfl

theorem isFinite_of_read {x y : Float} {src : Source}
    (h : Reader.real src (Value.real x).toDoc = .ok y) : x.isFinite = true := by
  by_contra hx
  rw [Value.real, if_neg hx] at h
  cases h

theorem read_bool (b : Bool) (src : Source) : Reader.bool src (Value.bool b).toDoc = .ok b := rfl

theorem read_text (s : String) (src : Source) : Reader.text src (Value.text s).toDoc = .ok s := rfl

theorem read_count (n : UInt64) (src : Source) :
    Reader.count src (Value.int n.toNat).toDoc = .ok n := by
  have hrange : 0 ≤ (n.toNat : ℤ) ∧ (n.toNat : ℤ) < UInt64.size :=
    ⟨Int.natCast_nonneg _, by exact_mod_cast n.toNat_lt⟩
  simp only [Value.int, Value.toDoc, Reader.count, Reader.word]
  rw [if_pos hrange, Int.toNat_natCast, UInt64.ofNat_toNat]

theorem read_boundValue (b : Option UInt64) (src : Source) :
    boundReader src (Tier.boundValue b).toDoc = .ok (b.filter (· != 0)) := by
  have hsome : Reader.optional Reader.count src (Tier.boundValue b).toDoc = .ok (some (b.getD 0)) :=
    Reader.optional_of_read nofun (read_count (b.getD 0) src)
  rw [boundReader]
  unfold Reader.map
  rw [hsome]
  cases b <;> rfl

theorem read_priority (p : Int32) (src : Source) :
    Reader.small src (Value.int p.toInt).toDoc = .ok p := by
  have hrange : Int32.minValue.toInt ≤ p.toInt ∧ p.toInt ≤ Int32.maxValue.toInt :=
    ⟨p.minValue_le_toInt, p.toInt_le⟩
  simp only [Value.int, Value.toDoc, Reader.small]
  rw [if_pos hrange, Int32.ofInt_toInt]

def Span.normal (s : Span) : Span :=
  { s with lower := s.lower.filter (· != 0), upper := s.upper.filter (· != 0) }

namespace Tier

def normal (t : Tier) : Tier := { t with input := t.input.normal, output := t.output.normal }

def Finite (t : Tier) : Prop := t.modelRatio.isFinite = true ∧ t.completionRatio.isFinite = true

def keys : List String :=
  ["completion_ratio", "input_max", "input_max_exclusive", "input_min", "input_min_exclusive",
    "model_ratio", "output_max", "output_max_exclusive", "output_min", "output_min_exclusive",
    "priority"]

def members (t : Tier) : List (String × Value) :=
  [("completion_ratio", .real t.completionRatio),
    ("input_max", boundValue t.input.upper),
    ("input_max_exclusive", .bool t.input.openAbove),
    ("input_min", boundValue t.input.lower),
    ("input_min_exclusive", .bool t.input.openBelow),
    ("model_ratio", .real t.modelRatio),
    ("output_max", boundValue t.output.upper),
    ("output_max_exclusive", .bool t.output.openAbove),
    ("output_min", boundValue t.output.lower),
    ("output_min_exclusive", .bool t.output.openBelow),
    ("priority", .int t.priority.toInt)]

theorem toValue_eq (t : Tier) : t.toValue = .object t.members := by
  simp only [toValue, Value.ofMembers, Entries.insert, List.foldl, String.reduceLT, String.reduceEq,
    ↓reduceIte, members]

/-- A tier of finite ratios comes back without bounds of zero. -/
theorem read_toValue {t : Tier} (h : t.Finite) (src : Source) :
    reader src t.toValue.toDoc = .ok t.normal := by
  have hreads : shape.Reads src t.members _ :=
    .cons (Shape.sets_of_read rfl (read_real h.2 src)) <|
    .cons (Shape.sets_of_read rfl (read_boundValue t.input.upper src)) <|
    .cons (Shape.sets_of_read rfl (read_bool t.input.openAbove src)) <|
    .cons (Shape.sets_of_read rfl (read_boundValue t.input.lower src)) <|
    .cons (Shape.sets_of_read rfl (read_bool t.input.openBelow src)) <|
    .cons (Shape.sets_of_read rfl (read_real h.1 src)) <|
    .cons (Shape.sets_of_read rfl (read_boundValue t.output.upper src)) <|
    .cons (Shape.sets_of_read rfl (read_bool t.output.openAbove src)) <|
    .cons (Shape.sets_of_read rfl (read_boundValue t.output.lower src)) <|
    .cons (Shape.sets_of_read rfl (read_bool t.output.openBelow src)) <|
    .cons (Shape.sets_of_read rfl (read_priority t.priority src)) .nil
  have hkeys : t.members.map (·.1) = keys := rfl
  rw [toValue_eq]
  exact hreads.reader (hkeys ▸ by decide) (hkeys ▸ by decide)

/-- A tier of other ratios does not come back. -/
theorem finite_of_read {t t' : Tier} {src : Source} (h : reader src t.toValue.toDoc = .ok t') :
    t.Finite := by
  rw [toValue_eq] at h
  have hmodel : ("model_ratio", Value.real t.modelRatio) ∈ t.members := by simp [members]
  have hcompletion : ("completion_ratio", Value.real t.completionRatio) ∈ t.members := by
    simp [members]
  obtain ⟨x, hx⟩ := Shape.exists_of_reader h hmodel rfl
  obtain ⟨y, hy⟩ := Shape.exists_of_reader h hcompletion rfl
  exact ⟨isFinite_of_read hx, isFinite_of_read hy⟩

theorem read_list {ts : List Tier} (h : ∀ t ∈ ts, t.Finite) (src : Source) :
    Reader.items reader src (Value.list (ts.map toValue)).toDoc = .ok (ts.map normal) :=
  Reader.items_written fun t ht => read_toValue (h t ht) src

theorem finite_of_read_list {ts ts' : List Tier} {src : Source}
    (h : Reader.items reader src (Value.list (ts.map toValue)).toDoc = .ok ts') :
    ∀ t ∈ ts, t.Finite := by
  intro t ht
  obtain ⟨t', ht'⟩ := Reader.exists_of_items h t ht
  exact finite_of_read ht'

end Tier

namespace TierRecord

def members (r : TierRecord) : List (String × Value) :=
  [("enabled", .bool r.enabled), ("model_name", .text r.model),
    ("rules", .list (r.tiers.map Tier.toValue))]

theorem toValue_eq (r : TierRecord) : r.toValue = .object r.members := by
  simp only [toValue, Value.ofMembers, Entries.insert, List.foldl, String.reduceLT, String.reduceEq,
    ↓reduceIte, members]

/-- A record of finite tiers comes back without bounds of zero. -/
theorem read_toValue {r : TierRecord} (h : ∀ t ∈ r.tiers, t.Finite) (src : Source) :
    reader src r.toValue.toDoc = .ok { r with tiers := r.tiers.map Tier.normal } := by
  have hreads : shape.Reads src r.members _ :=
    .cons (Shape.sets_of_read rfl (read_bool r.enabled src)) <|
    .cons (Shape.sets_of_read rfl (read_text r.model src)) <|
    .cons (Shape.sets_of_read rfl (Tier.read_list h src)) .nil
  have hkeys : r.members.map (·.1) = ["enabled", "model_name", "rules"] := rfl
  rw [toValue_eq]
  exact hreads.reader (hkeys ▸ by decide) (hkeys ▸ by decide)

end TierRecord

namespace FlatRate

/-- The rate without the fields that no number can say. -/
def normal (r : FlatRate) : FlatRate :=
  ⟨r.price.filter Float.isFinite, r.modelRatio.filter Float.isFinite,
    r.completionRatio.filter Float.isFinite⟩

end FlatRate

namespace Tariff

open Shape

theorem read_kind (k : PlanKind) (src : Source) :
    PlanKind.reader src (Value.text k.name).toDoc = .ok k := by
  cases src <;> cases k <;> rfl

/-- A field that is not set is not written, and one that no number can say is `null`. -/
theorem reads_optionalReal {ρ : Type} {s : Shape ρ} {src : Source} {name : String}
    {absence : Absence} {set : Option Float → ρ → ρ}
    (hfield : s.fields.find? (·.name == name) =
      some ⟨name, absence, (Reader.optional Reader.real).map set⟩) (x : Option Float) :
    s.Reads src (optionalReal name x)
      (if x.isSome then set (x.filter Float.isFinite) else id) := by
  cases x with
  | none => exact .nil
  | some x =>
    have hread : Reader.optional Reader.real src (Value.real x).toDoc =
        .ok ((some x).filter Float.isFinite) := by
      by_cases hx : x.isFinite = true
      · have hdoc : (Value.real x).toDoc ≠ .null := by
          rw [Value.real, if_pos hx]
          rintro ⟨⟩
        rw [Reader.optional_of_read hdoc (read_real hx src), Option.filter_some_pos hx]
      · rw [Value.real, if_neg hx, Option.filter_some_neg (by simpa using hx)]
        rfl
    have hset : s.Sets src (name, .real x) (set ((some x).filter Float.isFinite)) :=
      sets_of_read hfield hread
    exact .one hset

namespace Draft

def normal (d : Draft) : Draft :=
  { d with rate := d.rate.normal, tiers := d.tiers.map Tier.normal }

def keys : List String :=
  ["completion_ratio", "enabled", "fixed_price", "mode", "model_name", "model_ratio", "rules"]

def members (d : Draft) : List (String × Value) :=
  optionalReal "completion_ratio" d.rate.completionRatio ++
    ([("enabled", .bool d.enabled)] ++ (optionalReal "fixed_price" d.rate.price ++
      ([("mode", .text d.kind.name), ("model_name", .text d.model)] ++
        (optionalReal "model_ratio" d.rate.modelRatio ++
          (if d.tiers.isEmpty then [] else [("rules", .list (d.tiers.map Tier.toValue))])))))

theorem keys_sublist (d : Draft) : (d.members.map (·.1)).Sublist keys := by
  have hreal (name : String) (x : Option Float) :
      ((optionalReal name x).map (·.1)).Sublist [name] := by
    cases x with
    | none => exact List.nil_sublist _
    | some x => exact .refl _
  have htiers : ((if d.tiers.isEmpty then [] else
      [("rules", Value.list (d.tiers.map Tier.toValue))]).map (·.1)).Sublist ["rules"] := by
    split
    · exact List.nil_sublist _
    · exact .refl _
  simp only [members, List.map_append]
  exact (hreal _ _).append (.append (.refl _) ((hreal _ _).append
    (.append (.refl _) ((hreal _ _).append htiers))))

theorem toValue_eq (d : Draft) : d.toValue = .object d.members := by
  obtain ⟨model, enabled, kind, ⟨price, modelRatio, completionRatio⟩, tiers⟩ := d
  cases price <;> cases modelRatio <;> cases completionRatio <;> cases tiers <;>
    simp only [toValue, Value.ofMembers, optionalReal, Entries.insert, List.foldl, List.nil_append,
      List.cons_append, List.append_nil, List.isEmpty_nil, List.isEmpty_cons, Bool.false_eq_true,
      String.reduceLT, String.reduceEq, ↓reduceIte, members]

theorem reads_tiers {tiers : List Tier} (h : ∀ t ∈ tiers, t.Finite) (src : Source) :
    shape.Reads src (if tiers.isEmpty then [] else [("rules", .list (tiers.map Tier.toValue))])
      (if tiers.isEmpty then id else fun d => { d with tiers := tiers.map Tier.normal }) := by
  cases tiers with
  | nil => exact .nil
  | cons t rest =>
    have hfield : shape.fields.find? (·.name == "rules") = some ⟨"rules", .anywhere,
        (Reader.items Tier.reader).map fun ts d => { d with tiers := ts }⟩ := rfl
    have hset := sets_of_read hfield (Tier.read_list h src)
    rw [List.isEmpty_cons, if_neg Bool.false_ne_true, if_neg Bool.false_ne_true]
    exact .one hset

/-- A draft with finite tiers comes back as JSON can say it. -/
theorem read_toValue {d : Draft} (h : ∀ t ∈ d.tiers, t.Finite) (src : Source) :
    reader src d.toValue.toDoc = .ok d.normal := by
  have hreads : shape.Reads src d.members _ :=
    (reads_optionalReal rfl d.rate.completionRatio).append <|
    (Reads.one (sets_of_read rfl (read_bool d.enabled src))).append <|
    (reads_optionalReal rfl d.rate.price).append <|
    (Reads.cons (sets_of_read rfl (read_kind d.kind src)) <|
      .one (sets_of_read rfl (read_text d.model src))).append <|
    (reads_optionalReal rfl d.rate.modelRatio).append <| reads_tiers h src
  have hrequired : ∀ field ∈ shape.fields, field.absence = .fault →
      field.name ∈ d.members.map (·.1) := by
    have hnames : ∀ field ∈ shape.fields, field.absence = .fault →
        field.name = "model_name" ∨ field.name = "mode" := by decide
    intro field hfield hfault
    rcases hnames field hfield hfault with hname | hname <;> rw [hname] <;> simp [members]
  rw [toValue_eq]
  refine (hreads.reader (d.keys_sublist.nodup (by decide)) hrequired).trans ?_
  obtain ⟨model, enabled, kind, ⟨price, modelRatio, completionRatio⟩, tiers⟩ := d
  cases price <;> cases modelRatio <;> cases completionRatio <;> cases tiers <;> rfl

/-- A draft with other tiers does not come back. -/
theorem finite_of_read {d d' : Draft} {src : Source} (h : reader src d.toValue.toDoc = .ok d') :
    ∀ t ∈ d.tiers, t.Finite := by
  intro t ht
  rw [toValue_eq] at h
  have hne : d.tiers.isEmpty = false := List.isEmpty_eq_false_iff.2 (List.ne_nil_of_mem ht)
  have hrules : ("rules", Value.list (d.tiers.map Tier.toValue)) ∈ d.members := by
    simp [members, hne]
  obtain ⟨ts, hts⟩ := Shape.exists_of_reader h hrules rfl
  exact Tier.finite_of_read_list hts t ht

end Draft

def normal (t : Tariff) : Tariff :=
  match t.plan with
  | .flat r => { t with plan := .flat r.normal }
  | .tiered tiers => { t with plan := .tiered (tiers.map Tier.normal) }

/-- A tariff comes back as JSON can say it, if its tiers are finite and it has some if it needs
them. -/
theorem read_toValue {t : Tariff} (h : ∀ tier ∈ t.tiers, tier.Finite) (ht : t.plan ≠ .tiered [])
    (src : Source) : reader src t.toValue.toDoc = .ok t.normal := by
  have hdraft : ∀ tier ∈ t.draft.tiers, tier.Finite := by
    obtain ⟨model, enabled, r | tiers⟩ := t
    · exact List.forall_mem_nil _
    · exact h
  have hsettle : t.draft.normal.settle = .ok t.normal := by
    obtain ⟨model, enabled, r | _ | ⟨tier, tiers⟩⟩ := t
    · rfl
    · exact absurd rfl ht
    · rfl
  rw [reader, toValue, Draft.read_toValue hdraft]
  dsimp only [bind, Except.bind]
  rw [hsettle]

end Tariff

/-! ### Texts -/

theorem proper_boundValue (depth : ℕ) (b : Option UInt64) :
    (Tier.boundValue b).Proper depth := by
  have hlt := (b.getD 0).toNat_lt
  refine .number ⟨?_, ?_⟩
  · exact (show (-2 ^ 63 : ℤ) ≤ 0 by decide).trans (Int.natCast_nonneg _)
  · exact_mod_cast hlt

theorem Tier.proper_toValue (depth : ℕ) (t : Tier) : t.toValue.Proper (depth + 2) := by
  have hpriority : (Number.int t.priority.toInt).Writable := by
    have hlow := t.priority.minValue_le_toInt
    have hhigh := t.priority.toInt_le
    have hmin : Int32.minValue.toInt = -2 ^ 31 := rfl
    have hmax : Int32.maxValue.toInt = 2 ^ 31 - 1 := rfl
    constructor <;> omega
  refine Value.proper_ofMembers ?_
  simp only [List.forall_mem_cons]
  exact ⟨proper_boundValue _ _, proper_boundValue _ _, .bool _, .bool _, proper_boundValue _ _,
    proper_boundValue _ _, .bool _, .bool _, Value.proper_real _ _, Value.proper_real _ _,
    .number hpriority, List.forall_mem_nil _⟩

theorem Tier.proper_list (depth : ℕ) (ts : List Tier) :
    (Value.list (ts.map toValue)).Proper (depth + 3) := by
  refine .list fun v hv => ?_
  obtain ⟨t, -, rfl⟩ := List.mem_map.1 hv
  exact t.proper_toValue depth

theorem TierRecord.proper_toValue (depth : ℕ) (r : TierRecord) : r.toValue.Proper (depth + 4) := by
  refine Value.proper_ofMembers ?_
  simp only [List.forall_mem_cons]
  exact ⟨.text _, Tier.proper_list depth r.tiers, .bool _, List.forall_mem_nil _⟩

theorem Tariff.proper_toValue (depth : ℕ) (t : Tariff) : t.toValue.Proper (depth + 4) := by
  have hreal (name : String) (x : Option Float) :
      ∀ m ∈ optionalReal name x, m.2.Proper (depth + 3) := by
    cases x with
    | none => exact List.forall_mem_nil _
    | some x => exact List.forall_mem_singleton.2 (Value.proper_real _ x)
  have htiers : ∀ m ∈ (if t.draft.tiers.isEmpty then [] else
      [("rules", Value.list (t.draft.tiers.map Tier.toValue))]), m.2.Proper (depth + 3) := by
    split
    · exact List.forall_mem_nil _
    · exact List.forall_mem_singleton.2 (Tier.proper_list depth _)
  refine Value.proper_ofMembers ?_
  simp only [List.forall_mem_append]
  refine ⟨⟨⟨⟨?_, hreal _ _⟩, hreal _ _⟩, hreal _ _⟩, htiers⟩
  simp only [List.forall_mem_cons]
  exact ⟨.text _, .bool _, .text _, List.forall_mem_nil _⟩

def Tier.reread (t : Tier) : Tier :=
  { t with
    modelRatio := Json.reread t.modelRatio
    completionRatio := Json.reread t.completionRatio }

def Tier.ReadsBack (t : Tier) : Prop :=
  Json.ReadsBack t.modelRatio ∧ Json.ReadsBack t.completionRatio

instance (t : Tier) : Decidable t.ReadsBack := inferInstanceAs (Decidable (_ ∧ _))

theorem Tier.ReadsBack.reread_eq {t : Tier} (h : t.ReadsBack) : t.reread = t := by
  rw [reread, h.1.reread_eq, h.2.reread_eq]

theorem Tier.map_reread {ts : List Tier} (h : ∀ t ∈ ts, t.ReadsBack) : ts.map reread = ts :=
  (List.map_congr_left fun t ht => (h t ht).reread_eq).trans (List.map_id _)

def FlatRate.reread (r : FlatRate) : FlatRate :=
  ⟨r.price.map Json.reread, r.modelRatio.map Json.reread, r.completionRatio.map Json.reread⟩

def Tariff.reread (t : Tariff) : Tariff :=
  match t.plan with
  | .flat r => { t with plan := .flat r.reread }
  | .tiered tiers => { t with plan := .tiered (tiers.map Tier.reread) }

theorem Tier.reread_toValue (t : Tier) : t.toValue.reread = t.reread.toValue := by
  simp only [toValue, Value.reread_ofMembers, List.map_cons, List.map_nil, Value.reread_real]
  rfl

theorem Tier.reread_list (ts : List Tier) :
    (Value.list (ts.map toValue)).reread = .list ((ts.map reread).map toValue) := by
  rw [Value.reread, Value.rereadItems_eq, List.map_map, List.map_map]
  exact congrArg Value.list (List.map_congr_left fun t _ => t.reread_toValue)

def TierRecord.reread (r : TierRecord) : TierRecord := { r with tiers := r.tiers.map Tier.reread }

theorem TierRecord.reread_eq {r : TierRecord} (h : ∀ t ∈ r.tiers, t.ReadsBack) : r.reread = r := by
  rw [reread, Tier.map_reread h]

theorem TierRecord.reread_toValue (r : TierRecord) : r.toValue.reread = r.reread.toValue := by
  simp only [toValue, Value.reread_ofMembers, List.map_cons, List.map_nil, Tier.reread_list]
  rfl

theorem reread_optionalReal (name : String) (x : Option Float) :
    (optionalReal name x).map (fun m => (m.1, m.2.reread)) =
      optionalReal name (x.map Json.reread) := by
  cases x with
  | none => rfl
  | some x => exact congrArg (fun v => [(name, v)]) (Value.reread_real x)

namespace Tariff

def Draft.reread (d : Draft) : Draft :=
  { d with rate := d.rate.reread, tiers := d.tiers.map Tier.reread }

theorem Draft.reread_toValue (d : Draft) : d.toValue.reread = d.reread.toValue := by
  have htiers : (if d.tiers.isEmpty then [] else
      [("rules", Value.list (d.tiers.map Tier.toValue))]).map (fun m => (m.1, m.2.reread)) =
        if (d.tiers.map Tier.reread).isEmpty then [] else
          [("rules", Value.list ((d.tiers.map Tier.reread).map Tier.toValue))] := by
    rw [List.isEmpty_map]
    split
    · rfl
    · exact congrArg (fun v => [("rules", v)]) (Tier.reread_list d.tiers)
  rw [toValue_eq, toValue_eq, Value.reread, Value.rereadMembers_eq]
  simp only [members, List.map_append, reread_optionalReal, htiers]
  rfl

theorem draft_reread (t : Tariff) : t.reread.draft = t.draft.reread := by
  obtain ⟨model, enabled, r | tiers⟩ := t <;> rfl

theorem reread_toValue (t : Tariff) : t.toValue.reread = t.reread.toValue := by
  rw [toValue, toValue, draft_reread, Draft.reread_toValue]

/-- The text of a tariff is read as its JSON. -/
theorem front_write (t : Tariff) :
    Reader.whole.front t.toValue.write = .ok t.reread.toValue :=
  t.reread_toValue ▸ Value.Proper.front_write (t.proper_toValue 124)

end Tariff

end TokenTariff
