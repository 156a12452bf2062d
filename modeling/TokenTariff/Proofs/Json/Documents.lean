import Mathlib
import TokenTariff.Json.Doc

/-!
# Documents of texts

The builder puts documents together from smaller ones, and the smallest come from single tokens. So
what holds of the documents of single tokens and is passed on to lists and objects holds of every
document of a text, wherever that text breaks off or goes wrong.
-/

namespace TokenTariff.Json

namespace Doc

/-- Single tokens have the property, and lists and objects have it with their parts. -/
structure Hereditary (P : Doc → Prop) : Prop where
  null : P .null
  bool (b : Bool) : P (.bool b)
  number (n : Numeral) : P (Builder.numberDoc n)
  text (s : Except Fault String) : P (.text s)
  broken (onRead onSkip : Fault) : P (.broken onRead onSkip)
  garbled (onRead onSkip : Fault) : P (.garbled onRead onSkip)
  list {items : List Doc} (ending : ListEnd) (h : ∀ d ∈ items, P d) : P (.list items ending)
  object {members : List (Except Fault String × Doc)} (ending : ObjectEnd)
    (h : ∀ m ∈ members, P m.2) : P (.object members ending)

end Doc

def Frame.All (P : Doc → Prop) : Frame → Prop
  | .list items => ∀ d ∈ items, P d
  | .object members _ => ∀ m ∈ members, P m.2

namespace Builder

def All (P : Doc → Prop) : Builder → Prop
  | value frames => ∀ f ∈ frames, f.All P
  | item _ items frames => (∀ d ∈ items, P d) ∧ ∀ f ∈ frames, f.All P
  | afterItem items frames => (∀ d ∈ items, P d) ∧ ∀ f ∈ frames, f.All P
  | key _ members frames => (∀ m ∈ members, P m.2) ∧ ∀ f ∈ frames, f.All P
  | colon members _ frames => (∀ m ∈ members, P m.2) ∧ ∀ f ∈ frames, f.All P
  | afterMember members frames => (∀ m ∈ members, P m.2) ∧ ∀ f ∈ frames, f.All P
  | done d _ => P d

variable {P : Doc → Prop} (hP : Doc.Hereditary P) {frames : List Frame} {d : Doc}
  {items : List Doc} {members : List (Except Fault String × Doc)}

theorem all_put (hd : P d) (h : ∀ f ∈ frames, f.All P) : (put d frames).All P := by
  cases frames with
  | nil => exact hd
  | cons f frames =>
    obtain ⟨hf, hframes⟩ := List.forall_mem_cons.1 h
    cases f with
    | list items => exact ⟨List.forall_mem_cons.2 ⟨hd, hf⟩, hframes⟩
    | object members name => exact ⟨List.forall_mem_cons.2 ⟨hd, hf⟩, hframes⟩

include hP

theorem list_reverse (h : ∀ d ∈ items, P d) (ending : ListEnd) : P (.list items.reverse ending) :=
  hP.list ending fun d hd => h d (List.mem_reverse.1 hd)

theorem object_reverse (h : ∀ m ∈ members, P m.2) (ending : ObjectEnd) :
    P (.object members.reverse ending) :=
  hP.object ending fun m hm => h m (List.mem_reverse.1 hm)

theorem wrap_all (hd : P d) (h : ∀ f ∈ frames, f.All P) : P (wrap d frames) := by
  induction frames generalizing d with
  | nil => exact hd
  | cons f frames ih =>
    obtain ⟨hf, hframes⟩ := List.forall_mem_cons.1 h
    cases f with
    | list items => exact ih (list_reverse hP (List.forall_mem_cons.2 ⟨hd, hf⟩) _) hframes
    | object members name =>
      have hmembers : ∀ m ∈ (name, d) :: members, P m.2 := List.forall_mem_cons.2 ⟨hd, hf⟩
      exact ih (object_reverse hP hmembers _) hframes

theorem all_valueStep (h : ∀ f ∈ frames, f.All P) (t : Token) : (valueStep frames t).All P := by
  cases t with
  | null => exact all_put hP.null h
  | bool b => exact all_put (hP.bool b) h
  | number n => exact all_put (hP.number n) h
  | text s => exact all_put (hP.text s) h
  | openList => exact ⟨List.forall_mem_nil _, h⟩
  | openObject => exact ⟨List.forall_mem_nil _, h⟩
  | broken r s => exact wrap_all hP (hP.garbled r s) h
  | brokenText r s => exact wrap_all hP (hP.broken r s) h
  | closeList | closeObject | colon | comma => exact wrap_all hP (hP.broken _ _) h

theorem all_itemStep (first : Bool) (hitems : ∀ d ∈ items, P d) (h : ∀ f ∈ frames, f.All P)
    (t : Token) : (itemStep first items frames t).All P := by
  unfold itemStep
  split
  · have hlist := list_reverse hP hitems
    split
    · exact all_put (hlist _) h
    · exact wrap_all hP (hlist _) h
  · have hframes : ∀ f ∈ Frame.list items :: frames, f.All P :=
      List.forall_mem_cons.2 ⟨hitems, h⟩
    exact all_valueStep hP hframes _

theorem all_keyStep (first : Bool) (hmembers : ∀ m ∈ members, P m.2) (h : ∀ f ∈ frames, f.All P)
    (t : Token) : (keyStep first members frames t).All P := by
  have hobject := object_reverse hP hmembers
  cases t with
  | text s => exact ⟨hmembers, h⟩
  | closeObject =>
    cases first
    · exact wrap_all hP (hobject _) h
    · exact all_put (hobject _) h
  | _ => exact wrap_all hP (hobject _) h

theorem all_step {b : Builder} (h : b.All P) (t : Token) : (b.step t).All P := by
  cases b with
  | value frames => exact all_valueStep hP h t
  | item first items frames => exact all_itemStep hP first h.1 h.2 t
  | afterItem items frames =>
    have hlist := list_reverse hP h.1
    cases t with
    | closeList => exact all_put (hlist _) h.2
    | comma => exact h
    | _ => exact wrap_all hP (hlist _) h.2
  | key first members frames => exact all_keyStep hP first h.1 h.2 t
  | colon members name frames =>
    have hframes : ∀ f ∈ Frame.object members name :: frames, f.All P := List.forall_mem_cons.2 h
    cases t with
    | colon => exact hframes
    | _ => exact wrap_all hP (hP.broken _ _) hframes
  | afterMember members frames =>
    have hobject := object_reverse hP h.1
    cases t with
    | closeObject => exact all_put (hobject _) h.2
    | comma => exact h
    | _ => exact wrap_all hP (hobject _) h.2
  | done d more => exact h

theorem all_foldl {b : Builder} (h : b.All P) (ts : List Token) : (ts.foldl step b).All P := by
  induction ts generalizing b with
  | nil => exact h
  | cons t ts ih => exact ih (all_step hP h t)

theorem finish_all {b : Builder} (h : b.All P) : P b.finish.1 := by
  cases b with
  | value frames => exact wrap_all hP (hP.broken _ _) h
  | item first items frames =>
    cases first
    · exact wrap_all hP (hP.broken _ _) (List.forall_mem_cons.2 h)
    · exact wrap_all hP (list_reverse hP h.1 _) h.2
  | afterItem items frames => exact wrap_all hP (list_reverse hP h.1 _) h.2
  | key first members frames => exact wrap_all hP (object_reverse hP h.1 _) h.2
  | colon members name frames =>
    have hframes : ∀ f ∈ Frame.object members name :: frames, f.All P := List.forall_mem_cons.2 h
    exact wrap_all hP (hP.broken _ _) hframes
  | afterMember members frames => exact wrap_all hP (object_reverse hP h.1 _) h.2
  | done d more => exact h

end Builder

/-- The document of a text has every hereditary property. -/
theorem Doc.Hereditary.ofText {P : Doc → Prop} (hP : Hereditary P) (s : String) :
    P (Doc.ofText s).1 := by
  have hstart : (Builder.value []).All P := List.forall_mem_nil _
  exact Builder.finish_all hP (Builder.all_foldl hP hstart _)

/-! ### Parts -/

/-- The first document is the second one or lies in it. -/
inductive Doc.IsPart (p : Doc) : Doc → Prop where
  | itself : IsPart p p
  | item {d : Doc} {items : List Doc} {ending : ListEnd} (hd : d ∈ items) (h : IsPart p d) :
    IsPart p (.list items ending)
  | member {m : Except Fault String × Doc} {members : List (Except Fault String × Doc)}
    {ending : ObjectEnd} (hm : m ∈ members) (h : IsPart p m.2) : IsPart p (.object members ending)

end TokenTariff.Json
