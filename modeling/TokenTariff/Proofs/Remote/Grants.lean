import Mathlib
import TokenTariff.Proofs.Json.Form
import TokenTariff.Proofs.Remote.Refusals

/-!
# Grants

A change is granted when the answer to it opens. That says nothing of its status, and everything of
its body: the bytes are those of one envelope, which tells of success. The envelope is an object
with its fields under their names, or a list of all its fields in order.
-/

namespace TokenTariff

open Json

namespace Envelope

variable {α : Type} {r : Reader α} {e : Envelope α} {d : Doc}

/-- The document of an envelope that tells of success, with data of this kind, `null` or none. -/
inductive Succeeds (wanted : Doc → Prop) : Doc → Prop
  | object {ms : List (Except Fault String × Doc)} (keys : ∀ m ∈ ms, ∃ k, m.1 = .ok k)
      (success : given "success" ms = [.bool true])
      (message : given "message" ms = [] ∨ ∃ s, given "message" ms = [.text (.ok s)])
      (data : given "data" ms = [] ∨ ∃ d, given "data" ms = [d] ∧ (d = .null ∨ wanted d)) :
      Succeeds wanted (.object ms .closed)
  | list (s : String) {d : Doc} (data : d = .null ∨ wanted d) :
      Succeeds wanted (.list [.bool true, .text (.ok s), d] .closed)

/-- A list that is read holds all fields. -/
theorem exists_of_readList {items : List Doc} {ending : ListEnd}
    (h : (shape r).readList .text items ending = .ok e) :
    ∃ a b d, items = [a, b, d] ∧ ending = .closed ∧ Reader.bool .text a = .ok e.success ∧
      Reader.text .text b = .ok e.message ∧ Reader.optional r .text d = .ok e.data := by
  obtain ⟨⟨e', rest⟩, hitems, h⟩ := exists_of_bind h
  -- The last field is not among those that a list may leave out.
  match items with
  | [] => exact nomatch (Shape.readItems_nil hitems).1
  | [a] =>
    obtain ⟨_, -, hitems⟩ := exists_of_bind hitems
    exact nomatch (Shape.readItems_nil (Shape.readItems_nil hitems).2).1
  | [a, b] =>
    obtain ⟨_, -, hitems⟩ := exists_of_bind hitems
    obtain ⟨_, -, hitems⟩ := exists_of_bind hitems
    exact nomatch (Shape.readItems_nil hitems).1
  | a :: b :: d :: others =>
    obtain ⟨_, ha, hitems⟩ := exists_of_bind hitems
    obtain ⟨success, hsuccess, rfl⟩ := exists_of_map ha
    obtain ⟨_, hb, hitems⟩ := exists_of_bind hitems
    obtain ⟨message, hmessage, rfl⟩ := exists_of_map hb
    obtain ⟨_, hd, hitems⟩ := exists_of_bind hitems
    obtain ⟨data, hdata, rfl⟩ := exists_of_map hd
    obtain ⟨rfl, rfl⟩ := Prod.mk.inj (Except.ok.inj hitems)
    cases others with
    | cons => cases h
    | nil =>
      cases ending with
      | closed =>
        obtain rfl := Except.ok.inj h
        exact ⟨a, b, d, rfl, rfl, hsuccess, hmessage, hdata⟩
      | _ => cases h

theorem minds_reader (hr : r.Minds) : (reader r).Minds := by
  intro d e h
  cases d with
  | object ms ending =>
    refine (slotted r).onSkip_of_readObject ?_ h
    simp only [slots, List.forall_mem_cons]
    exact ⟨Reader.minds_bool, Reader.minds_text, hr.optional, List.forall_mem_nil _⟩
  | list items ending =>
    obtain ⟨a, b, d, rfl, rfl, -, -, hd⟩ := exists_of_readList h
    exact hr.optional d e.data hd
  | _ => cases h

/-- What is read of an envelope that tells of success. -/
theorem succeeds_of_reader {wanted : Doc → Prop} (hwanted : ∀ d x, r .text d = .ok x → wanted d)
    (h : reader r .text d = .ok e) (he : e.success = true) : Succeeds wanted d := by
  have hdata {d : Doc} {x : Option α} (hx : Reader.optional r .text d = .ok x) :
      d = .null ∨ wanted d := by
    rcases Reader.optional_iff.1 ⟨x, hx⟩ with hnull | ⟨y, hy⟩
    · exact .inl hnull
    · exact .inr (hwanted d y hy)
  cases d with
  | object ms ending =>
    obtain rfl := Shape.closed_of_readObject h
    obtain ⟨hreadable, htakes⟩ := (slotted r).readObject_iff.1 h
    simp only [slots, List.forall_mem_cons, Slot.takes_iff] at htakes
    obtain ⟨hsuccess, hmessage, hgiven, -⟩ := htakes
    refine .object (fun m hm => (hreadable m hm).imp fun _ => And.left) ?_ ?_ ?_
    · rcases hsuccess with ⟨-, hfault, -⟩ | ⟨d, hd, hread⟩
      · exact absurd rfl hfault
      · rw [hd, Reader.eq_of_bool hread, he]
    · rcases hmessage with ⟨hnone, -⟩ | ⟨d, hd, hread⟩
      · exact .inl hnone
      · exact .inr ⟨e.message, by rw [hd, Reader.eq_of_text hread]⟩
    · rcases hgiven with ⟨hnone, -⟩ | ⟨d, hd, hread⟩
      · exact .inl hnone
      · exact .inr ⟨d, hd, hdata hread⟩
  | list items ending =>
    obtain ⟨a, b, d, rfl, rfl, ha, hb, hd⟩ := exists_of_readList h
    rw [he] at ha
    rw [Reader.eq_of_bool ha, Reader.eq_of_text hb]
    exact .list _ (hdata hd)
  | _ => cases h

end Envelope

/-! ### Answers that grant -/

namespace Received

variable {α : Type} {r : Reader α} {a : Received} {x : Option α}

/-- The body is an envelope that tells of success, with any value for data or none. -/
def Grants (a : Received) : Prop :=
  ∃ d, Conveys a.body d ∧ Envelope.Succeeds (·.Flawless (depthLimit - 1)) d

/-- An answer that opens is one document, from which an envelope of success is read. -/
theorem exists_document_of_open (h : a.open r = .ok x) :
    ∃ d e, Doc.ofBytes a.body = (d, false) ∧ Envelope.reader r .text d = .ok e ∧
      e.success = true ∧ e.data = x := by
  rw [Received.open] at h
  split at h
  · split_ifs at h
  · rename_i e hread
    split_ifs at h with hsuccess
    obtain ⟨hread, hmore⟩ := Reader.alone_iff.1 hread
    exact ⟨_, e, Prod.ext rfl hmore, hread, hsuccess, Except.ok.inj h⟩

theorem grants_of_open {x : Option Value} (h : a.open Reader.anything = .ok x) : a.Grants := by
  obtain ⟨d, e, hd, hread, hsuccess, -⟩ := exists_document_of_open h
  refine ⟨d, conveys_of_ofBytes hd ?_, Envelope.succeeds_of_reader ?_ hread hsuccess⟩
  · exact Envelope.minds_reader Reader.minds_anything d e hread
  · exact fun d x hx => (d.exists_toValue _).1 ⟨x, hx⟩

end Received

end TokenTariff
