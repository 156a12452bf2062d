import Mathlib
import TokenTariff.Proofs.Json.Fields
import TokenTariff.Proofs.Json.Values

/-!
# Readers of documents in form

A document that nobody reads may be out of form at its end. A reader that minds this reads a
document only if nothing is amiss in the form of it. Readers of scalars and of any value mind, and
with them the readers of records that are put together from them.
-/

namespace TokenTariff.Json

def Reader.Minds {α : Type} (r : Reader α) : Prop := ∀ d x, r .text d = .ok x → d.onSkip = none

namespace Reader

variable {α : Type} {r : Reader α} {d : Doc}

theorem eq_of_bool {b : Bool} (h : Reader.bool .text d = .ok b) : d = .bool b := by
  cases d with
  | bool b' => exact congrArg Doc.bool (Except.ok.inj h)
  | _ => cases h

theorem eq_of_text {s : String} (h : Reader.text .text d = .ok s) : d = .text (.ok s) := by
  cases d with
  | text s' =>
    cases s' with
    | ok s' => exact congrArg (Doc.text ∘ Except.ok) (Except.ok.inj h)
    | error f => cases h
  | _ => cases h

theorem minds_bool : Reader.bool.Minds := by
  intro d b h
  rw [eq_of_bool h]
  rfl

theorem minds_text : Reader.text.Minds := by
  intro d s h
  rw [eq_of_text h]
  rfl

theorem Minds.optional (h : r.Minds) : (Reader.optional r).Minds := by
  intro d x hx
  rcases optional_iff.1 ⟨x, hx⟩ with rfl | ⟨y, hy⟩
  · rfl
  · exact h d y hy

end Reader

theorem Doc.Flawless.onSkip {depth : ℕ} {d : Doc} (h : d.Flawless depth) : d.onSkip = none := by
  induction h with
  | list _ ih => exact onSkipLast_of_all ih
  | object _ _ ih => exact onSkipLastMember_of_all ih
  | _ => rfl

theorem Reader.minds_anything : Reader.anything.Minds := fun d x h =>
  ((d.exists_toValue _).1 ⟨x, h⟩).onSkip

theorem ObjectEnd.eq_closed {ending : ObjectEnd} (h : ending.onRead = none) : ending = .closed := by
  cases ending with
  | closed => rfl
  | _ => cases h

namespace Shape

variable {ρ : Type} {s : Shape ρ} {slots : List (Slot ρ)} {x : ρ}
  {ms : List (Except Fault String × Doc)} {ending : ObjectEnd}

theorem closed_of_readObject {src : Source} (h : s.readObject src ms ending = .ok x) :
    ending = .closed := by
  obtain ⟨_, -, h⟩ := exists_of_bind h
  refine ObjectEnd.eq_closed ?_
  cases hending : ending.onRead with
  | none => rfl
  | some f =>
    rw [hending] at h
    cases h

/-- Where there is no item, the field need not be given at all. -/
theorem readItems_nil {src : Source} {ending : ListEnd} {f : Field ρ} {fs : List (Field ρ)} {i : ℕ}
    {out : ρ × List Doc} (h : s.readItems src ending (f :: fs) i [] x = .ok out) :
    f.absence = .anywhere ∧ s.readItems src ending fs (i + 1) [] x = .ok out := by
  rw [readItems] at h
  split at h
  · cases h
  · split_ifs at h with habsent
    exact ⟨by simpa using habsent, h⟩

/-- A record whose fields are read from documents in form is read from one itself. -/
theorem Slotted.onSkip_of_readObject (h : s.Slotted slots) (hslots : ∀ a ∈ slots, a.reader.Minds)
    (hread : s.readObject .text ms ending = .ok x) : (Doc.object ms ending).onSkip = none := by
  obtain rfl := closed_of_readObject hread
  obtain ⟨hreadable, htakes⟩ := h.readObject_iff.1 hread
  refine Doc.onSkipLastMember_of_all fun m hm => ?_
  obtain ⟨k, hk, hstrange⟩ := hreadable m hm
  by_cases hfield : ∃ a ∈ slots, a.name = k
  · obtain ⟨a, ha, rfl⟩ := hfield
    have hmem : (.ok a.name, m.2) ∈ ms := by rwa [← hk]
    exact hslots a ha m.2 _ ((Slot.takes_iff_of_mem hmem).1 (htakes a ha)).2
  · refine hstrange fun f hf hname => hfield ?_
    rw [h.fields] at hf
    obtain ⟨a, ha, rfl⟩ := List.mem_map.1 hf
    exact ⟨a, ha, hname⟩

end Shape

end TokenTariff.Json
