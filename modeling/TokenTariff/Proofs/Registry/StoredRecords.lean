import Mathlib
import TokenTariff.Proofs.Registry.Changes
import TokenTariff.Proofs.Remote.Exchanges
import TokenTariff.Proofs.Remote.Listing
import TokenTariff.Proofs.Tier.ZeroBounds

/-!
# Saved tariffs come back

A tiered tariff is saved as its record, which is sent as JSON and read when records are listed. The
check looks at other things than the format does, so what it lets pass need not come back as it was:
a bound of zero is lost, a ratio is what its text is read as, and one that is not finite is not read
at all. This is all that can happen.
-/

namespace TokenTariff

open Json

/-! ### What the check lets pass -/

theorem checkTiers_eq_ok_iff {position : ℕ} {ts : List Tier} :
    checkTiers position ts = .ok () ↔ ∀ t ∈ ts, t.problems = [] := by
  induction ts generalizing position with
  | nil => exact iff_of_true rfl (List.forall_mem_nil _)
  | cons t rest ih =>
    rw [checkTiers, List.forall_mem_cons]
    split
    · rename_i h
      rw [ih]
      exact (and_iff_right (List.isEmpty_iff.1 h)).symm
    · rename_i h
      exact iff_of_false nofun fun hall => h (List.isEmpty_iff.2 hall.1)

theorem Tariff.problems_of_check {t : Tariff} {ts : List Tier} (h : t.check = .ok ())
    (hp : t.plan = .tiered ts) : ∀ tier ∈ ts, tier.problems = [] := by
  rw [check, hp] at h
  split at h
  · cases h
  · dsimp only at h
    split at h
    · cases h
    · exact checkTiers_eq_ok_iff.1 h

/-- What is left of a tier: its numbers as their texts are read, and every call that it covers. It
covers more just when a span has lost a bound that kept counts out. -/
structure Tier.Kept (t t' : Tier) : Prop where
  modelRatio : t'.modelRatio = Json.reread t.modelRatio
  completionRatio : t'.completionRatio = Json.reread t.completionRatio
  priority : t'.priority = t.priority
  covers : ∀ input output, t.Covers input output → t'.Covers input output
  same : (∀ input output, t'.Covers input output ↔ t.Covers input output) ↔
    (¬ t.input.Loses ∧ ¬ t.output.Loses) ∨ ∀ input output, ¬ t'.Covers input output

theorem Tier.kept_normal {t : Tier} (h : t.problems = []) : t.Kept t.reread.normal where
  modelRatio := rfl
  completionRatio := rfl
  priority := rfl
  covers _ _ := Covers.normal
  same := covers_normal_iff (isInverted_of_problems h).1 (isInverted_of_problems h).2

/-! ### What a save sends -/

namespace Session

variable {t : Tariff} {r : TierRecord}

/-- No record but this one is written. -/
def WritesOnly (r : TierRecord) (a : Access) : Prop := ∀ r', a = .upsertRecord r' → r' = r

theorem makes_readBook : readBook.Makes (WritesOnly r) :=
  (makes_ask (List.forall_mem_singleton.2 nofun)).bind fun _ => makes_ofExcept _ _

theorem makes_reload : reload.Makes (WritesOnly r) := by
  refine Makes.mapError ?_ _
  refine (makes_ask (List.forall_mem_singleton.2 nofun)).bind fun _ => ?_
  refine (makes_ask (List.forall_mem_singleton.2 nofun)).bind fun _ => ?_
  exact (makes_ofExcept _ _).bind fun _ => trivial

theorem makes_saveTiered (b : FlatBook) : (saveTiered r b).Makes (WritesOnly r) := by
  refine (makes_ask ?_).bind fun _ => ?_
  · exact List.forall_mem_singleton.2 fun r' hr' => (Access.upsertRecord.inj hr').symm
  · split
    · refine makes_ask fun a ha => ?_
      obtain ⟨s, -, rfl⟩ := List.mem_map.1 ha
      nofun
    · trivial

theorem makes_save (hr : TierRecord.ofTariff? t = some r) : (save t).Makes (WritesOnly r) := by
  rw [save_eq]
  refine (makes_ofExcept _ _).bind fun _ => makes_readBook.bind fun b => ?_
  rw [write, hr]
  exact (makes_saveTiered b).bind fun _ => makes_reload

theorem needs_save (hr : TierRecord.ofTariff? t = some r) :
    (save t).Needs (.upsertRecord r) := by
  rw [save_eq]
  refine needs_bind fun _ => needs_bind fun b => ?_
  rw [write, hr]
  exact ((needs_ask List.mem_cons_self).bind _).bind _

end Session

/-- A posted message is one for a record. -/
theorem Client.messageOf_of_post (c : Client) {a : Access} (h : (c.messageOf a).method = .post) :
    ∃ r, a = .upsertRecord r := by
  cases a with
  | upsertRecord r => exact ⟨r, rfl⟩
  | _ => cases h

/-- Over every network, saving the tariff posts this record and nothing else, and it has done so if
it succeeds. -/
def Tariff.PostedAs (t : Tariff) (r : TierRecord) : Prop :=
  ∀ {σ : Type} (c : Client) (n : Network σ) (s : σ),
    let log := ((Session.save t).run (c.backend n.logging) .remote ⟨s, []⟩).2.log
    (∀ e ∈ log, e.1.method = .post → e.1 = c.message .post c.recordsUrl (some r.toValue)) ∧
    ∀ ts, ((Session.save t).run (c.backend n) .remote s).1 = .ok ts →
      ∃ e ∈ log, e.1.method = .post

theorem Tariff.postedAs_of_record {t : Tariff} {r : TierRecord}
    (hr : TierRecord.ofTariff? t = some r) : t.PostedAs r := by
  intro σ c n s log
  refine ⟨fun e he hpost => ?_, fun ts hts => ?_⟩
  · obtain hnil | ⟨a, ha, hea⟩ := (Session.makes_save hr).run c n .remote ⟨s, []⟩ e he
    · cases hnil
    · rw [hea] at hpost ⊢
      obtain ⟨r', rfl⟩ := c.messageOf_of_post hpost
      rw [ha r' rfl]
      rfl
  · have hplain : Logged.plain ((Session.save t).run (c.backend n.logging) .remote ⟨s, []⟩) =
        (Session.save t).run (c.backend n) .remote s :=
      Session.plain_run .remote (c.plain_answer n) (Session.save t) ⟨s, []⟩
    obtain ⟨e, he, hea⟩ := (Session.needs_save hr).run c n .remote
      ((congrArg (·.1) hplain).trans hts)
    exact ⟨e, he, by rw [hea]; rfl⟩

/-! ### What comes back -/

/-- Listed under any key among any records that are finite, the record comes back as the other. -/
def TierRecord.ComesBackAs (r r' : TierRecord) : Prop :=
  ∀ (rs : Table TierRecord) (key : String), (∀ e ∈ rs.entries, e.2.Finite) →
    ∃ rs', (Received.holding (listValue (rs.insert key r))).open (Reader.table reader) =
      .ok (some rs') ∧ rs'.get? key = some r'

theorem TierRecord.Finite.comesBackAs {r : TierRecord} (h : r.Finite) :
    r.ComesBackAs r.reread.normal := by
  intro rs key hrs
  have hinsert : ∀ e ∈ (rs.insert key r).entries, e.2.Finite := by
    intro e he
    rcases Table.mem_insert_entries he with rfl | he
    · exact h
    · exact hrs e he
  refine ⟨_, open_listValue hinsert, ?_⟩
  rw [Table.get?_map, Table.get?_map, Table.get?_insert, if_pos rfl, Option.map_some,
    Option.map_some]

/-- A tiered tariff that the check lets pass, its ratios being finite, is posted as a record that
comes back in every list of others that do. It has the same model and the same flag then and, in
order, what is left of each tier; if its tiers were decoded from JSON and their ratios read back, it
comes back as it was. -/
theorem Tariff.comes_back_saved {t : Tariff} {tiers : List Tier} (hplan : t.plan = .tiered tiers)
    (hcheck : t.check = .ok ()) (hfinite : ∀ tier ∈ tiers, tier.Finite) :
    ∃ r r', TierRecord.ofTariff? t = some r ∧ t.PostedAs r ∧ r.ComesBackAs r' ∧
      r'.toTariff = .ok ⟨t.model, t.enabled, .tiered r'.tiers⟩ ∧
      List.Forall₂ Tier.Kept tiers r'.tiers ∧
      ((∀ tier ∈ tiers, tier.ReadsBack) → List.Forall₂ (fun tier tier' =>
        tier'.modelRatio = tier.modelRatio ∧ tier'.completionRatio = tier.completionRatio)
        tiers r'.tiers) ∧
      ((∀ tier ∈ tiers, Tier.reader.Decodes tier ∧ tier.ReadsBack) → r' = r) := by
  obtain ⟨model, enabled, plan⟩ := t
  obtain rfl : plan = .tiered tiers := hplan
  have hback : TierRecord.Finite ⟨model, tiers, enabled⟩ := hfinite
  have htiers : (TierRecord.reread ⟨model, tiers, enabled⟩).normal.tiers =
      tiers.map fun tier => tier.reread.normal := List.map_map
  refine ⟨_, _, rfl, postedAs_of_record rfl, hback.comesBackAs, ?_, ?_, fun hread => ?_,
    fun hdecodes => ?_⟩
  · rw [TierRecord.toTariff, tiered, htiers, List.isEmpty_map, tiers_of_check hcheck rfl,
      if_neg Bool.false_ne_true]
    rfl
  · rw [htiers]
    refine List.forall₂_map_right_iff.2 (List.forall₂_same.2 fun tier htier => ?_)
    exact Tier.kept_normal (problems_of_check hcheck rfl tier htier)
  · rw [htiers]
    refine List.forall₂_map_right_iff.2 (List.forall₂_same.2 fun tier htier => ?_)
    exact ⟨(hread tier htier).1.reread_eq, (hread tier htier).2.reread_eq⟩
  · rw [TierRecord.reread_eq fun tier htier => (hdecodes tier htier).2, TierRecord.normal]
    dsimp only
    rw [Tier.map_normal fun tier htier => Tier.reader_gives.decodes (hdecodes tier htier).1]

/-- A tier whose open lower bound of zero is lost, beside one that comes back as it was. -/
theorem Tariff.comes_back_saved_with_zero_bound :
    let positive : Tier := { input := { lower := some 0 }, modelRatio := 1, completionRatio := 2 }
    let small : Tier :=
      { input := { upper := some 32000 }, modelRatio := 0.5, completionRatio := 2 }
    let t : Tariff := ⟨"m", true, .tiered [positive, small]⟩
    t.check = .ok () ∧ ∃ r r', TierRecord.ofTariff? t = some r ∧ t.PostedAs r ∧
      r.ComesBackAs r' ∧ List.Forall₂ Tier.Kept [positive, small] r'.tiers := by
  have hcheck : check ⟨"m", true, .tiered [
    { input := { lower := some 0 }, modelRatio := 1, completionRatio := 2 },
    { input := { upper := some 32000 }, modelRatio := 0.5, completionRatio := 2 }]⟩ = .ok () := by
    rfl
  intro positive small t
  have hfinite : ∀ tier ∈ [positive, small], tier.Finite :=
    List.forall_mem_cons.2 ⟨⟨by decide, by decide⟩,
      List.forall_mem_singleton.2 ⟨by decide, by decide⟩⟩
  obtain ⟨r, r', hr, hposted, hback, -, hkept, -, -⟩ := comes_back_saved (t := t) rfl hcheck hfinite
  exact ⟨hcheck, r, r', hr, hposted, hback, hkept⟩

/-- The check lets pass an upper bound of zero, which comes back as none, an infinite ratio, after
which the records cannot be listed, and a ratio that is read as another float from its text. -/
theorem Tariff.not_kept_as_checked :
    let closed : Tier := { output := { upper := some 0 }, modelRatio := 1, completionRatio := 1 }
    let endless : Tier := { modelRatio := 1, completionRatio := 1 / 0 }
    let long : Tier := { modelRatio := 94.52706955539223, completionRatio := 1 }
    let record (tier : Tier) : TierRecord := ⟨"m", [tier], true⟩
    (check ⟨"m", true, .tiered [closed]⟩ = .ok () ∧
      TierRecord.ofTariff? ⟨"m", true, .tiered [closed]⟩ = some (record closed) ∧
      (∃ r, (record closed).ComesBackAs r ∧ ∃ tier ∈ r.tiers, tier.Covers 5 1) ∧
      ¬ closed.Covers 5 1) ∧
    (check ⟨"m", true, .tiered [endless]⟩ = .ok () ∧
      TierRecord.ofTariff? ⟨"m", true, .tiered [endless]⟩ = some (record endless) ∧
      ∃ e, (Received.holding (TierRecord.listValue
        ((∅ : Table TierRecord).insert "m" (record endless)))).open
          (Reader.table TierRecord.reader) = .error e) ∧
    check ⟨"m", true, .tiered [long]⟩ = .ok () ∧
      TierRecord.ofTariff? ⟨"m", true, .tiered [long]⟩ = some (record long) ∧
      ∃ r, (record long).ComesBackAs r ∧ r.tiers.map (·.modelRatio) = [94.52706955539225] := by
  have hclosed : check ⟨"m", true, .tiered [
    { output := { upper := some 0 }, modelRatio := 1, completionRatio := 1 }]⟩ = .ok () := by rfl
  have hendless : check ⟨"m", true, .tiered [
    { modelRatio := 1, completionRatio := 1 / 0 }]⟩ = .ok () := by rfl
  have hlong : check ⟨"m", true, .tiered [
    { modelRatio := 94.52706955539223, completionRatio := 1 }]⟩ = .ok () := by rfl
  intro closed endless long record
  have hfinite : (record closed).Finite := List.forall_mem_singleton.2 ⟨by decide, by decide⟩
  have hfinite' : (record long).Finite := List.forall_mem_singleton.2 ⟨by decide, by decide⟩
  have hcovers : closed.reread.normal.Covers 5 1 := Tier.covers_iff.1 (by decide)
  have hnot : ¬ closed.Covers 5 1 := Tier.covers_eq_false_iff.1 (by decide)
  refine ⟨⟨hclosed, rfl, ⟨_, hfinite.comesBackAs, closed.reread.normal, List.mem_singleton_self _,
    hcovers⟩, hnot⟩, ⟨hendless, rfl, ?_⟩, hlong, rfl, _, hfinite'.comesBackAs, by decide +kernel⟩
  cases hlisted : (Received.holding (TierRecord.listValue
    ((∅ : Table TierRecord).insert "m" (record endless)))).open
      (Reader.table TierRecord.reader) with
  | error e => exact ⟨e, rfl⟩
  | ok rs =>
    have hratios := TierRecord.finite_of_open hlisted _ List.mem_cons_self endless
      (List.mem_singleton_self _)
    exact absurd hratios.2 (by decide)

end TokenTariff
