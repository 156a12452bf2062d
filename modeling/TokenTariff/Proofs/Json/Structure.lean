import Mathlib
import TokenTariff.Proofs.Json.Scanning

/-!
# Values read

A text is the text of a value exactly when that value is read from it, nothing follows, and the form
of what was read is sound. In one direction the tokens of a value are built into it in any frames.
In the other one the builder keeps track of the tokens that its frames have taken, and a document
that was stopped keeps the fault at its end.
-/

namespace TokenTariff.Json

open Lexer

/-! ### The tokens of a value -/

theorem separated_cons_cons (p q : List Token) (ps : List (List Token)) :
    separated (p :: q :: ps) = p ++ .comma :: separated (q :: ps) := by
  simp [separated]

theorem separated_singleton (p : List Token) : separated [p] = p := by
  simp [separated]

theorem parted_cons {t : Token} (ht : ¬IsNumber t) {ts : List Token} :
    Parted (t :: ts) ↔ Parted ts := by
  unfold Parted
  rw [List.isChain_cons]
  exact and_iff_right fun u _ h => ht h.1

theorem parted_append_cons {t : Token} (ht : ¬IsNumber t) {ts us : List Token} :
    Parted (ts ++ t :: us) ↔ Parted ts ∧ Parted us := by
  have hcons : Parted (t :: us) ↔ Parted us := parted_cons ht
  rw [← hcons]
  unfold Parted
  rw [List.isChain_append]
  refine and_congr_right fun _ => and_iff_left ?_
  rintro u _ v hv ⟨_, hn⟩
  obtain rfl : t = v := by simpa using hv
  exact ht hn

theorem not_isNumber_comma : ¬IsNumber .comma := nofun

theorem parted_separated {ps : List (List Token)} (h : ∀ p ∈ ps, Parted p) :
    Parted (separated ps) := by
  induction ps with
  | nil => exact .nil
  | cons p ps ih =>
    obtain ⟨hp, hps⟩ := List.forall_mem_cons.1 h
    cases ps with
    | nil => rwa [separated_singleton]
    | cons q ps =>
      rw [separated_cons_cons, parted_append_cons not_isNumber_comma]
      exact ⟨hp, ih hps⟩

theorem forall_mem_separated {P : Token → Prop} (hcomma : P .comma) {ps : List (List Token)}
    (h : ∀ p ∈ ps, ∀ t ∈ p, P t) : ∀ t ∈ separated ps, P t := by
  induction ps with
  | nil => exact List.forall_mem_nil _
  | cons p ps ih =>
    obtain ⟨hp, hps⟩ := List.forall_mem_cons.1 h
    cases ps with
    | nil => rwa [separated_singleton]
    | cons q ps =>
      rw [separated_cons_cons, List.forall_mem_append, List.forall_mem_cons]
      exact ⟨hp, hcomma, ih hps⟩

theorem mem_separated {ps : List (List Token)} {p : List Token} (hp : p ∈ ps) {t : Token}
    (ht : t ∈ p) : t ∈ separated ps := by
  induction ps with
  | nil => exact absurd hp List.not_mem_nil
  | cons q ps ih =>
    cases ps with
    | nil =>
      obtain rfl := List.mem_singleton.1 hp
      rwa [separated_singleton]
    | cons r ps =>
      rw [separated_cons_cons, List.mem_append]
      rcases List.mem_cons.1 hp with rfl | hp
      · exact .inl ht
      · exact .inr (List.mem_cons_of_mem _ (ih hp))

namespace Spells

variable {d : Doc} {ts : List Token}

theorem parted (h : Spells d ts) : Parted ts := by
  induction h with
  | list items _ ih =>
    rw [parted_cons (t := .openList) nofun, parted_append_cons (t := .closeList) nofun]
    refine ⟨parted_separated ?_, .nil⟩
    rw [List.forall_mem_map]
    exact ih
  | object members _ ih =>
    rw [parted_cons (t := .openObject) nofun, parted_append_cons (t := .closeObject) nofun]
    refine ⟨parted_separated ?_, .nil⟩
    rw [List.forall_mem_map]
    intro m hm
    rw [memberTokens, parted_cons (t := .text m.1.1) nofun, parted_cons (t := .colon) nofun]
    exact ih m hm
  | _ => exact .singleton _

/-- The tokens of a value do not begin with the end of a list. -/
theorem exists_head (h : Spells d ts) : ∃ t rest, ts = t :: rest ∧ t ≠ .closeList := by
  cases h <;> exact ⟨_, _, rfl, nofun⟩

theorem not_isBroken (h : Spells d ts) : ∀ t ∈ ts, ¬t.IsBroken := by
  induction h with
  | list items _ ih =>
    rw [List.forall_mem_cons, List.forall_mem_append, List.forall_mem_singleton]
    refine ⟨id, forall_mem_separated id ?_, id⟩
    rw [List.forall_mem_map]
    exact ih
  | object members _ ih =>
    rw [List.forall_mem_cons, List.forall_mem_append, List.forall_mem_singleton]
    refine ⟨id, forall_mem_separated id ?_, id⟩
    rw [List.forall_mem_map]
    intro m hm
    rw [memberTokens, List.forall_mem_cons, List.forall_mem_cons]
    exact ⟨id, id, ih m hm⟩
  | _ => exact List.forall_mem_singleton.2 id

end Spells

/-! ### The form of documents -/

namespace Doc

theorem onSkipLast_concat (items : List Doc) (d : Doc) : onSkipLast (items ++ [d]) = d.onSkip := by
  induction items with
  | nil => rfl
  | cons i items ih =>
    cases items with
    | nil => rfl
    | cons j items => exact ih

theorem onSkipLastMember_concat (members : List (Except Fault String × Doc))
    (m : Except Fault String × Doc) : onSkipLastMember (members ++ [m]) = m.2.onSkip := by
  induction members with
  | nil => rfl
  | cons i members ih =>
    cases members with
    | nil => rfl
    | cons j members => exact ih

theorem onSkipLast_of_all {items : List Doc} (h : ∀ d ∈ items, d.onSkip = none) :
    onSkipLast items = none := by
  rcases items.eq_nil_or_concat' with rfl | ⟨items, d, rfl⟩
  · rfl
  · rw [onSkipLast_concat]
    exact h d (by simp)

theorem onSkipLastMember_of_all {members : List (Except Fault String × Doc)}
    (h : ∀ m ∈ members, m.2.onSkip = none) : onSkipLastMember members = none := by
  rcases members.eq_nil_or_concat' with rfl | ⟨members, m, rfl⟩
  · rfl
  · rw [onSkipLastMember_concat]
    exact h m (by simp)

end Doc

/-- Nothing is amiss in the form of a value. -/
theorem Spells.onSkip {d : Doc} {ts : List Token} (h : Spells d ts) : d.onSkip = none := by
  induction h with
  | list items _ ih =>
    refine Doc.onSkipLast_of_all ?_
    rw [List.forall_mem_map]
    exact ih
  | object members _ ih =>
    refine Doc.onSkipLastMember_of_all ?_
    rw [List.forall_mem_map]
    exact ih
  | _ => rfl

/-- Nor is it in the form of its members. -/
theorem Spells.onSkip_member {ms : List (Except Fault String × Doc)} {ts : List Token}
    (h : Spells (.object ms .closed) ts) : ∀ m ∈ ms, m.2.onSkip = none := by
  generalize hd : Doc.object ms .closed = d at h
  cases h with
  | object members hmembers =>
    obtain rfl := (Doc.object.inj hd).1
    rw [List.forall_mem_map]
    exact fun m hm => (hmembers m hm).onSkip
  | _ => cases hd

namespace Builder

/-- A document at the end of frames is at fault where they are. -/
theorem onSkip_wrap (d : Doc) (frames : List Frame) : (wrap d frames).onSkip = d.onSkip := by
  induction frames generalizing d with
  | nil => rfl
  | cons f frames ih =>
    cases f with
    | list items =>
      rw [wrap, ih, List.reverse_cons]
      exact Doc.onSkipLast_concat _ d
    | object members name =>
      rw [wrap, ih, List.reverse_cons]
      exact Doc.onSkipLastMember_concat _ (name, d)

/-! ### Values built -/

/-- Each part that follows an opening or a comma is built, up to the end of the list. -/
theorem foldl_items {items : List (Doc × List Token)}
    (h : ∀ i ∈ items, ∀ frames, i.2.foldl step (.value frames) = put i.1 frames)
    (hhead : ∀ i ∈ items, ∃ t rest, i.2 = t :: rest ∧ t ≠ .closeList)
    {first : Bool} (hne : first = false → items ≠ []) (before : List Doc) (frames : List Frame) :
    (separated (items.map (·.2)) ++ [Token.closeList]).foldl step (.item first before frames) =
      put (.list (before.reverse ++ items.map (·.1)) .closed) frames := by
  induction items generalizing first before with
  | nil =>
    cases first with
    | false => exact absurd rfl (hne rfl)
    | true => simp [separated, step, itemStep]
  | cons i items ih =>
    obtain ⟨hi, hitems⟩ := List.forall_mem_cons.1 h
    obtain ⟨⟨t, rest, hi2, ht⟩, hheads⟩ := List.forall_mem_cons.1 hhead
    have hbuild : i.2.foldl step (.item first before frames) =
        .afterItem (i.1 :: before) frames := by
      have hsame : step (.item first before frames) t =
          step (.value (.list before :: frames)) t := by
        cases t <;> first | rfl | exact absurd rfl ht
      rw [hi2, List.foldl_cons, hsame, ← List.foldl_cons, ← hi2, hi]
      rfl
    cases items with
    | nil =>
      rw [List.map_singleton, separated_singleton, List.foldl_append, hbuild]
      simp [step]
    | cons j items =>
      have hcomma : step (.afterItem (i.1 :: before) frames) .comma =
          .item false (i.1 :: before) frames := rfl
      have hsplit : separated ((i :: j :: items).map (·.2)) =
          i.2 ++ .comma :: separated ((j :: items).map (·.2)) := separated_cons_cons _ _ _
      rw [hsplit, List.append_assoc, List.foldl_append, hbuild, List.cons_append, List.foldl_cons,
        hcomma, ih hitems hheads (by simp)]
      simp

theorem foldl_members {members : List ((Except Fault String × Doc) × List Token)}
    (h : ∀ m ∈ members, ∀ frames, m.2.foldl step (.value frames) = put m.1.2 frames)
    {first : Bool} (hne : first = false → members ≠ [])
    (before : List (Except Fault String × Doc)) (frames : List Frame) :
    (separated (members.map memberTokens) ++ [Token.closeObject]).foldl step
        (.key first before frames) =
      put (.object (before.reverse ++ members.map (·.1)) .closed) frames := by
  induction members generalizing first before with
  | nil =>
    cases first with
    | false => exact absurd rfl (hne rfl)
    | true => simp [separated, step, keyStep]
  | cons m members ih =>
    obtain ⟨hm, hmembers⟩ := List.forall_mem_cons.1 h
    have hbuild : (memberTokens m).foldl step (.key first before frames) =
        .afterMember (m.1 :: before) frames := by
      simp only [memberTokens, List.foldl_cons]
      exact hm (.object before m.1.1 :: frames)
    cases members with
    | nil =>
      rw [List.map_singleton, separated_singleton, List.foldl_append, hbuild]
      simp [step]
    | cons n members =>
      have hcomma : step (.afterMember (m.1 :: before) frames) .comma =
          .key false (m.1 :: before) frames := rfl
      have hsplit : separated ((m :: n :: members).map memberTokens) =
          memberTokens m ++ .comma :: separated ((n :: members).map memberTokens) :=
        separated_cons_cons _ _ _
      rw [hsplit, List.append_assoc, List.foldl_append, hbuild, List.cons_append, List.foldl_cons,
        hcomma, ih hmembers (by simp)]
      simp

/-- The tokens of a value build it, wherever a value belongs. -/
theorem foldl_spells {d : Doc} {ts : List Token} (h : Spells d ts) (frames : List Frame) :
    ts.foldl step (.value frames) = put d frames := by
  induction h generalizing frames with
  | list items hspells ih =>
    have hne : true = false → items ≠ [] := nofun
    exact foldl_items ih (fun i hi => (hspells i hi).exists_head) hne [] frames
  | object members _ ih =>
    have hne : true = false → members ≠ [] := nofun
    exact foldl_members ih hne [] frames
  | _ => rfl

/-! ### Tokens taken -/

/-- The tokens of parts that have a comma behind each. -/
def ended (ps : List (List Token)) : List Token := ps.flatMap (· ++ [.comma])

theorem ended_append_singleton (ps : List (List Token)) (p : List Token) :
    ended ps ++ p = separated (ps ++ [p]) := by
  induction ps with
  | nil => simp [ended, separated]
  | cons q ps ih =>
    obtain ⟨r, rs, hr⟩ := List.exists_cons_of_ne_nil (List.append_ne_nil_of_right_ne_nil ps
      (List.cons_ne_nil p []))
    have hcons : ended (q :: ps) = q ++ .comma :: ended ps := by simp [ended]
    rw [hcons, List.cons_append, hr, separated_cons_cons, ← hr, ← ih]
    simp

theorem separated_append_comma {ps : List (List Token)} (hne : ps ≠ []) :
    separated ps ++ [.comma] = ended ps := by
  obtain ⟨qs, q, rfl⟩ := List.eq_nil_or_concat' ps |>.resolve_left hne
  rw [← ended_append_singleton]
  simp [ended]

def ItemsSpelled (items : List (Doc × List Token)) : Prop := ∀ i ∈ items, Spells i.1 i.2

def MembersSpelled (members : List ((Except Fault String × Doc) × List Token)) : Prop :=
  ∀ m ∈ members, Spells m.1.2 m.2

/-- The tokens that frames have taken, the innermost frame last. -/
inductive Framed : List Frame → List Token → Prop
  | nil : Framed [] []
  | list {frames : List Frame} {ts : List Token} {items : List (Doc × List Token)} :
      Framed frames ts → ItemsSpelled items →
      Framed (.list (items.map (·.1)).reverse :: frames)
        (ts ++ .openList :: ended (items.map (·.2)))
  | object {frames : List Frame} {ts : List Token}
      {members : List ((Except Fault String × Doc) × List Token)} (key : Except Fault String) :
      Framed frames ts → MembersSpelled members →
      Framed (.object (members.map (·.1)).reverse key :: frames)
        (ts ++ .openObject :: (ended (members.map memberTokens) ++ [.text key, .colon]))

/-- The tokens that the builder has taken. Nothing is said of a document that is out of form, nor of
one that more tokens follow. -/
inductive Taken : Builder → List Token → Prop
  | value {frames : List Frame} {ts : List Token} : Framed frames ts → Taken (value frames) ts
  | item {frames : List Frame} {ts : List Token} {items : List (Doc × List Token)} {first : Bool} :
      Framed frames ts → ItemsSpelled items → (first = true → items = []) →
      Taken (item first (items.map (·.1)).reverse frames)
        (ts ++ .openList :: ended (items.map (·.2)))
  | afterItem {frames : List Frame} {ts : List Token} {items : List (Doc × List Token)} :
      Framed frames ts → ItemsSpelled items → items ≠ [] →
      Taken (afterItem (items.map (·.1)).reverse frames)
        (ts ++ .openList :: separated (items.map (·.2)))
  | key {frames : List Frame} {ts : List Token}
      {members : List ((Except Fault String × Doc) × List Token)} {first : Bool} :
      Framed frames ts → MembersSpelled members → (first = true → members = []) →
      Taken (key first (members.map (·.1)).reverse frames)
        (ts ++ .openObject :: ended (members.map memberTokens))
  | colon {frames : List Frame} {ts : List Token}
      {members : List ((Except Fault String × Doc) × List Token)} (k : Except Fault String) :
      Framed frames ts → MembersSpelled members →
      Taken (colon (members.map (·.1)).reverse k frames)
        (ts ++ .openObject :: (ended (members.map memberTokens) ++ [.text k]))
  | afterMember {frames : List Frame} {ts : List Token}
      {members : List ((Except Fault String × Doc) × List Token)} :
      Framed frames ts → MembersSpelled members → members ≠ [] →
      Taken (afterMember (members.map (·.1)).reverse frames)
        (ts ++ .openObject :: separated (members.map memberTokens))
  | done {d : Doc} {ts : List Token} : Spells d ts → Taken (done d false) ts
  | stopped {d : Doc} {ts : List Token} : d.onSkip ≠ none → Taken (done d false) ts
  | more {d : Doc} {ts : List Token} : Taken (done d true) ts

theorem taken_put {frames : List Frame} {ts us : List Token} {d : Doc} (hf : Framed frames ts)
    (hd : Spells d us) : Taken (put d frames) (ts ++ us) := by
  cases hf with
  | nil => exact .done hd
  | @list frames ts items hf hitems =>
    have hall : ItemsSpelled (items ++ [(d, us)]) :=
      List.forall_mem_append.2 ⟨hitems, List.forall_mem_singleton.2 hd⟩
    have htokens : ts ++ Token.openList :: ended (items.map (·.2)) ++ us =
        ts ++ .openList :: separated ((items ++ [(d, us)]).map (·.2)) := by
      simp [← ended_append_singleton]
    have hdocs : d :: (items.map (·.1)).reverse = ((items ++ [(d, us)]).map (·.1)).reverse := by
      simp
    rw [htokens, put, hdocs]
    exact .afterItem hf hall (by simp)
  | @object frames ts members k hf hmembers =>
    have hall : MembersSpelled (members ++ [((k, d), us)]) :=
      List.forall_mem_append.2 ⟨hmembers, List.forall_mem_singleton.2 hd⟩
    have htokens : ts ++ Token.openObject ::
          (ended (members.map memberTokens) ++ [.text k, .colon]) ++ us =
        ts ++ .openObject :: separated ((members ++ [((k, d), us)]).map memberTokens) := by
      simp [← ended_append_singleton, memberTokens]
    have hdocs : (k, d) :: (members.map (·.1)).reverse =
        ((members ++ [((k, d), us)]).map (·.1)).reverse := by
      simp
    rw [htokens, put, hdocs]
    exact .afterMember hf hall (by simp)

theorem taken_stop {d : Doc} (h : d.onSkip ≠ none) (frames : List Frame) (ts : List Token) :
    Taken (stop d frames) ts :=
  .stopped (by rwa [onSkip_wrap])

theorem taken_stopList (items : List Doc) {ending : ListEnd} (h : ending.onSkip ≠ none)
    (frames : List Frame) (ts : List Token) : Taken (stopList items ending frames) ts := by
  refine taken_stop ?_ frames ts
  cases ending <;> first | exact absurd rfl h | simp [Doc.onSkip, ListEnd.onSkip]

theorem taken_stopObject (members : List (Except Fault String × Doc)) {ending : ObjectEnd}
    (h : ending.onSkip ≠ none) (frames : List Frame) (ts : List Token) :
    Taken (stopObject members ending frames) ts := by
  refine taken_stop ?_ frames ts
  cases ending <;> first | exact absurd rfl h | simp [Doc.onSkip, ObjectEnd.onSkip]

theorem taken_valueStep {frames : List Frame} {ts : List Token} (h : Framed frames ts)
    (t : Token) : Taken (valueStep frames t) (ts ++ [t]) := by
  cases t with
  | null => exact taken_put h .null
  | bool b => exact taken_put h (.bool b)
  | number n => exact taken_put h (.number n)
  | text s => exact taken_put h (.text s)
  | openList =>
    have hnone : ItemsSpelled [] := List.forall_mem_nil _
    exact .item h hnone fun _ => rfl
  | openObject =>
    have hnone : MembersSpelled [] := List.forall_mem_nil _
    exact .key h hnone fun _ => rfl
  | _ => exact taken_stop (by simp [Doc.onSkip]) _ _

theorem taken_closeList {frames : List Frame} {ts us : List Token}
    {items : List (Doc × List Token)} (hf : Framed frames ts) (hitems : ItemsSpelled items)
    (hus : us = separated (items.map (·.2))) :
    Taken (put (.list (items.map (·.1)).reverse.reverse .closed) frames)
      (ts ++ .openList :: us ++ [.closeList]) := by
  have hlist := taken_put hf (.list items hitems)
  rw [hus, List.reverse_reverse]
  simpa using hlist

theorem taken_closeObject {frames : List Frame} {ts us : List Token}
    {members : List ((Except Fault String × Doc) × List Token)} (hf : Framed frames ts)
    (hmembers : MembersSpelled members) (hus : us = separated (members.map memberTokens)) :
    Taken (put (.object (members.map (·.1)).reverse.reverse .closed) frames)
      (ts ++ .openObject :: us ++ [.closeObject]) := by
  have hobject := taken_put hf (.object members hmembers)
  rw [hus, List.reverse_reverse]
  simpa using hobject

theorem taken_itemStep {frames : List Frame} {ts : List Token} {items : List (Doc × List Token)}
    {first : Bool} (hf : Framed frames ts) (hitems : ItemsSpelled items)
    (hfirst : first = true → items = []) (t : Token) :
    Taken (itemStep first (items.map (·.1)).reverse frames t)
      (ts ++ .openList :: ended (items.map (·.2)) ++ [t]) := by
  by_cases ht : t = .closeList
  · subst ht
    cases first with
    | true =>
      obtain rfl := hfirst rfl
      exact taken_closeList hf hitems rfl
    | false => exact taken_stopList _ (by simp [ListEnd.onSkip]) _ _
  · have hvalue : itemStep first (items.map (·.1)).reverse frames t =
        valueStep (.list (items.map (·.1)).reverse :: frames) t := by
      cases t <;> first | rfl | exact absurd rfl ht
    rw [hvalue]
    exact taken_valueStep (.list hf hitems) t

theorem taken_keyStep {frames : List Frame} {ts : List Token}
    {members : List ((Except Fault String × Doc) × List Token)} {first : Bool}
    (hf : Framed frames ts) (hmembers : MembersSpelled members)
    (hfirst : first = true → members = []) (t : Token) :
    Taken (keyStep first (members.map (·.1)).reverse frames t)
      (ts ++ .openObject :: ended (members.map memberTokens) ++ [t]) := by
  cases t with
  | text s =>
    rw [List.append_assoc, List.cons_append]
    exact .colon s hf hmembers
  | closeObject =>
    cases first with
    | true =>
      obtain rfl := hfirst rfl
      exact taken_closeObject hf hmembers rfl
    | false => exact taken_stopObject _ (by simp [ObjectEnd.onSkip]) _ _
  | _ => exact taken_stopObject _ (by simp [ObjectEnd.onSkip]) _ _

/-- One token more. -/
theorem taken_step {b : Builder} {ts : List Token} (h : Taken b ts) (t : Token) :
    Taken (b.step t) (ts ++ [t]) := by
  cases h with
  | value hf => exact taken_valueStep hf t
  | item hf hitems hfirst => exact taken_itemStep hf hitems hfirst t
  | key hf hmembers hfirst => exact taken_keyStep hf hmembers hfirst t
  | @afterItem frames ts items hf hitems hne =>
    cases t with
    | closeList => exact taken_closeList hf hitems rfl
    | comma =>
      rw [List.append_assoc, List.cons_append, separated_append_comma (by simpa using hne)]
      exact .item hf hitems nofun
    | _ => exact taken_stopList _ (by simp [ListEnd.onSkip]) _ _
  | @afterMember frames ts members hf hmembers hne =>
    cases t with
    | closeObject => exact taken_closeObject hf hmembers rfl
    | comma =>
      rw [List.append_assoc, List.cons_append, separated_append_comma (by simpa using hne)]
      exact .key hf hmembers nofun
    | _ => exact taken_stopObject _ (by simp [ObjectEnd.onSkip]) _ _
  | colon k hf hmembers =>
    cases t with
    | colon =>
      rw [List.append_assoc, List.cons_append, List.append_assoc]
      exact .value (.object k hf hmembers)
    | _ => exact taken_stop (by simp [Doc.onSkip]) _ _
  | done | stopped | more => exact .more

theorem taken_foldl {b : Builder} {ts : List Token} (h : Taken b ts) (us : List Token) :
    Taken (us.foldl step b) (ts ++ us) := by
  induction us generalizing b ts with
  | nil => simpa using h
  | cons u us ih =>
    rw [List.append_cons]
    exact ih (taken_step h u)

/-- A document that is in form and that nothing follows is spelled by the tokens taken. -/
theorem spells_of_finish {b : Builder} {ts : List Token} (h : Taken b ts) {d : Doc}
    (hfinish : b.finish = (d, false)) (hd : d.onSkip = none) : Spells d ts := by
  have hcut : ∀ (e : Doc) (frames : List Frame), e.onSkip ≠ none →
      (wrap e frames, false) ≠ (d, false) := by
    rintro e frames he heq
    obtain ⟨rfl, -⟩ := Prod.mk.inj heq
    rw [onSkip_wrap] at hd
    exact he hd
  cases h with
  | done hspells =>
    obtain ⟨rfl, -⟩ := Prod.mk.inj hfinish
    exact hspells
  | stopped hstop => exact absurd hfinish (hcut _ [] hstop)
  | more => cases hfinish
  | @item _ _ _ first _ _ _ =>
    cases first with
    | false => exact absurd hfinish (hcut _ (.list _ :: _) (by simp [Doc.onSkip]))
    | true => exact absurd hfinish (hcut _ _ (by simp [Doc.onSkip, ListEnd.onSkip]))
  | @key _ _ _ first _ _ _ =>
    cases first <;> exact absurd hfinish (hcut _ _ (by simp [Doc.onSkip, ObjectEnd.onSkip]))
  | value => exact absurd hfinish (hcut _ _ (by simp [Doc.onSkip]))
  | colon => exact absurd hfinish (hcut _ (.object _ _ :: _) (by simp [Doc.onSkip]))
  | afterItem => exact absurd hfinish (hcut _ _ (by simp [Doc.onSkip, ListEnd.onSkip]))
  | afterMember => exact absurd hfinish (hcut _ _ (by simp [Doc.onSkip, ObjectEnd.onSkip]))

end Builder

/-- A text says a value exactly when the value is read from it, in form and with nothing behind. -/
theorem says_iff {text : String} {d : Doc} :
    Says text d ↔ Doc.ofText text = (d, false) ∧ d.onSkip = none := by
  constructor
  · rintro ⟨ts, cs, ss, htext, hlex, hs, hspells⟩
    refine ⟨?_, hspells.onSkip⟩
    rw [Doc.ofText, Doc.ofChars, htext, run_eq_tokens, tokens_lexes hlex hs hspells.parted,
      Builder.foldl_spells hspells]
    rfl
  · rintro ⟨htext, hd⟩
    have hspells : Spells d (Scan.run text.toList) :=
      Builder.spells_of_finish (Builder.taken_foldl (.value .nil) _) htext hd
    obtain ⟨cs, ss, hsplit, hlex, hs⟩ := exists_lexes hspells.not_isBroken
    exact ⟨_, cs, ss, hsplit, hlex, hs, hspells⟩

end TokenTariff.Json
