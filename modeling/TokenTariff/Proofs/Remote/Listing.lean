import Mathlib
import TokenTariff.Proofs.Json.Bytes
import TokenTariff.Proofs.Tariff.Expressible
import TokenTariff.Remote.Client

/-!
# Listed records read back

A store that lists records answers with an envelope around an object of them. If all tiers in it are
finite, the whole list is read, and each record comes back without bounds of zero and with ratios as
their texts are read. One tier that is not makes the whole list unreadable.
-/

namespace TokenTariff

open Json

variable {α : Type}

/-! ### Envelopes -/

namespace Envelope

/-- The fields in the order in which they are written. -/
theorem toValue_ok (v : Value) : (ok v).toValue id =
    .object [("data", v), ("message", .text ""), ("success", .bool true)] := by
  simp only [toValue, ok, Value.ofMembers, Entries.insert, List.foldl, Option.map_some,
    Option.getD_some, id, String.reduceLT, ↓reduceIte]

variable {r : Reader α} {src : Source} {v : Value}

theorem read_ok (hv : v.toDoc ≠ .null) {x : α} (h : r src v.toDoc = .ok x) :
    reader r src ((ok v).toValue id).toDoc = .ok (ok x) := by
  have hreads : (shape r).Reads src
      [("data", v), ("message", .text ""), ("success", .bool true)] _ :=
    .cons (Shape.sets_of_read rfl (Reader.optional_of_read hv h)) <|
    .cons (Shape.sets_of_read rfl (read_text "" src)) <|
    .cons (Shape.sets_of_read rfl (read_bool true src)) .nil
  have hrequired : ∀ field ∈ (shape r).fields, field.absence = .fault →
      field.name ∈ ["data", "message", "success"] := by
    intro field hfield hfault
    simp only [shape, List.mem_cons, List.not_mem_nil, or_false] at hfield
    rcases hfield with rfl | rfl | rfl
    · exact List.mem_of_getLast? rfl
    · cases hfault
    · cases hfault
  have hnodup : ["data", "message", "success"].Nodup := by decide
  rw [toValue_ok]
  exact hreads.reader hnodup hrequired

/-- An envelope is read only if its data are. -/
theorem exists_of_read (hv : v.toDoc ≠ .null) {e : Envelope α}
    (h : reader r src ((ok v).toValue id).toDoc = .ok e) : ∃ x, r src v.toDoc = .ok x := by
  rw [toValue_ok] at h
  obtain ⟨x, hx⟩ := Shape.exists_of_reader h List.mem_cons_self rfl
  exact Reader.exists_of_optional hv hx

end Envelope

/-- An answer is read as its text is. -/
theorem Received.read_encode (r : Reader α) (status : ℕ) (text : String) :
    (⟨status, Utf8.encode text.toList⟩ : Received).read r = r.parse text := by
  rw [read, Reader.parseBytes, Doc.ofBytes_encode, Reader.parse]

def Received.holding (v : Value) : Received where
  body := Utf8.encode ((Envelope.ok v).toValue id).write.toList

namespace Received

variable {v : Value} {depth : ℕ}

theorem read_holding (hv : v.Proper (depth + 1)) (r : Reader α) :
    (holding v).read r = r .text ((Envelope.ok v.reread).toValue id).toDoc := by
  have hproper : ((Envelope.ok v).toValue id).Proper (depth + 2) := by
    refine Value.proper_ofMembers ?_
    simp only [List.forall_mem_cons]
    exact ⟨.bool _, .text _, hv, List.forall_mem_nil _⟩
  have hreread : ((Envelope.ok v).toValue id).reread = (Envelope.ok v.reread).toValue id := by
    rw [Envelope.toValue_ok, Envelope.toValue_ok]
    rfl
  rw [holding, read_encode, Reader.parse_write hproper, hreread]

theorem open_holding (hv : v.Proper (depth + 1)) (hnull : v.reread.toDoc ≠ .null) {r : Reader α}
    {x : α} (h : r .text v.reread.toDoc = .ok x) : (holding v).open r = .ok (some x) := by
  rw [Received.open, read_holding hv, Envelope.read_ok hnull h]
  rfl

theorem exists_of_open (hv : v.Proper (depth + 1)) (hnull : v.reread.toDoc ≠ .null)
    {r : Reader α} {x : Option α} (h : (holding v).open r = .ok x) :
    ∃ y, r .text v.reread.toDoc = .ok y := by
  rw [Received.open, read_holding hv] at h
  split at h
  · split at h <;> cases h
  · rename_i hread
    exact Envelope.exists_of_read hnull hread

end Received

/-! ### Records -/

namespace TierRecord

def normal (r : TierRecord) : TierRecord := { r with tiers := r.tiers.map Tier.normal }

def Finite (r : TierRecord) : Prop := ∀ t ∈ r.tiers, t.Finite

def listValue (rs : Table TierRecord) : Value :=
  .object (rs.entries.map fun e => (e.1, e.2.toValue))

theorem proper_listValue (depth : ℕ) (rs : Table TierRecord) :
    (listValue rs).Proper (depth + 5) := by
  refine .object (List.pairwise_map.2 rs.ascending) fun m hm => ?_
  obtain ⟨e, -, rfl⟩ := List.mem_map.1 hm
  exact e.2.proper_toValue depth

theorem reread_listValue (rs : Table TierRecord) :
    (listValue rs).reread = listValue (rs.map reread) := by
  rw [listValue, Value.reread, Value.rereadMembers_eq, List.map_map]
  refine congrArg Value.object ((List.map_congr_left fun e _ => ?_).trans List.map_map.symm)
  exact congrArg (e.1, ·) e.2.reread_toValue

theorem finite_reread_iff {r : TierRecord} : r.reread.Finite ↔ r.Finite := by
  rw [Finite, reread, List.forall_mem_map]
  exact forall₂_congr fun t _ => and_congr isFinite_reread_iff isFinite_reread_iff

theorem read_listValue {rs : Table TierRecord} (h : ∀ e ∈ rs.entries, e.2.Finite) (src : Source) :
    Reader.table reader src (listValue rs).toDoc = .ok (rs.map normal) := by
  have hmembers : Reader.members reader src (listValue rs).toDoc = .ok (rs.map normal).entries :=
    Reader.members_written fun e he => read_toValue (h e he) src
  change (Reader.members reader src (listValue rs).toDoc).map Table.ofList = _
  rw [hmembers]
  exact congrArg Except.ok (Table.ofList_entries _)

/-- A record of other tiers does not come back. -/
theorem finite_of_read {r r' : TierRecord} {src : Source}
    (h : reader src r.toValue.toDoc = .ok r') : r.Finite := by
  rw [toValue_eq] at h
  have hrules : ("rules", Value.list (r.tiers.map Tier.toValue)) ∈ r.members := by simp [members]
  obtain ⟨ts, hts⟩ := Shape.exists_of_reader h hrules rfl
  exact Tier.finite_of_read_list hts

/-- A list of finite records is read whole. -/
theorem open_listValue {rs : Table TierRecord} (h : ∀ e ∈ rs.entries, e.2.Finite) :
    (Received.holding (listValue rs)).open (Reader.table reader) =
      .ok (some ((rs.map reread).map normal)) := by
  refine Received.open_holding (proper_listValue 0 rs) nofun ?_
  rw [reread_listValue]
  refine read_listValue (fun e he => ?_) .text
  obtain ⟨e', he', rfl⟩ := List.mem_map.1 he
  exact finite_reread_iff.2 (h e' he')

/-- No other list is read at all. -/
theorem finite_of_open {rs : Table TierRecord} {x : Option (Table TierRecord)}
    (h : (Received.holding (listValue rs)).open (Reader.table reader) = .ok x) :
    ∀ e ∈ rs.entries, e.2.Finite := by
  obtain ⟨y, hy⟩ := Received.exists_of_open (proper_listValue 0 rs) nofun h
  rw [reread_listValue] at hy
  obtain ⟨es, hes, -⟩ := exists_of_map hy
  intro e he
  obtain ⟨r', hr'⟩ := Reader.exists_of_members hes (e.1, e.2.reread)
    (List.mem_map_of_mem (f := fun e => (e.1, reread e.2)) he)
  exact finite_reread_iff.1 (finite_of_read hr')

end TierRecord

end TokenTariff
