import Mathlib
import TokenTariff.Proofs.Catalog.Readable
import TokenTariff.Proofs.Json.Structure

/-!
# What settings say about a book

A setting holds a table when its text is blank or is the text of a JSON object in which every member
is a number that a float can hold. Settings make up a book unless one of them stands at the key of a
table and holds none; each table of the book is then the one that the last setting at its key holds,
and all other settings might as well not be there.
-/

namespace TokenTariff

open Json

theorem Table.get?_ofList {α : Type} (l : List (String × α)) (k : String) :
    (ofList l).get? k = l.reverse.lookup k := by
  induction l using List.reverseRecOn with
  | nil => rfl
  | append_singleton l e ih =>
    have hlast : ofList (l ++ [e]) = (ofList l).insert e.1 e.2 := by simp [ofList]
    rw [hlast, get?_insert, ih, List.reverse_append, List.reverse_singleton,
      List.singleton_append, List.lookup_cons]
    by_cases hk : e.1 = k
    · simp [hk]
    · have hne : (k == e.1) = false := by simpa using Ne.symm hk
      rw [if_neg hk, hne]

namespace FlatBook

/-! ### The text of a table -/

def memberLexemes (n : String × Numeral) : List Token := [.text (.ok n.1), .colon, .number n.2]

/-- The text is that of one JSON object with these members, all of them numerals. -/
def IsTextOf (text : String) (ns : List (String × Numeral)) : Prop :=
  ∃ cs ss, text.toList = cs ++ ss ∧ IsSpaces ss ∧
    Lexes (.openObject :: (separated (ns.map memberLexemes) ++ [.closeObject])) cs

theorem IsTextOf.exists_isNumeral {text : String} {ns : List (String × Numeral)}
    (h : IsTextOf text ns) : ∀ n ∈ ns, ∃ cs, IsNumeral n.2 cs := by
  intro n hn
  obtain ⟨cs, ss, -, -, hlexes⟩ := h
  have hmem : Token.number n.2 ∈ separated (ns.map memberLexemes) :=
    mem_separated (List.mem_map_of_mem hn) (by simp [memberLexemes])
  obtain ⟨ds, hds⟩ := hlexes.exists_lexeme (.number n.2) (by simp [hmem])
  cases hds with
  | number hnumeral => exact ⟨ds, hnumeral⟩

/-- The text is blank or that of one object of numerals that say floats, and this is the table; of
two members with one name the later counts. -/
def Holds (text : String) (t : Table Float) : Prop :=
  if isBlank text = true then t = ∅
  else ∃ ns, IsTextOf text ns ∧ (∀ n ∈ ns, ∃ x, Number.float? n.2 = some x) ∧
    ∀ k, t.get? k = (ns.reverse.lookup k).bind Number.float?

theorem lookup_map_snd {α β : Type} (f : α → β) (l : List (String × α)) (k : String) :
    (l.map fun e => (e.1, f e.2)).lookup k = (l.lookup k).map f := by
  induction l with
  | nil => rfl
  | cons e l ih =>
    rw [List.map_cons, List.lookup_cons, List.lookup_cons, ih]
    cases k == e.1 <;> rfl

theorem numberDoc_eq (n : Numeral) :
    Builder.numberDoc n =
      .number ((Number.ofNumeral? n).elim (.error .numberTooLarge) .ok) := by
  rw [Builder.numberDoc]
  cases Number.ofNumeral? n <;> rfl

theorem numberDoc_eq_iff {n : Numeral} {m : Number} :
    Builder.numberDoc n = .number (.ok m) ↔ Number.ofNumeral? n = some m := by
  rw [numberDoc_eq]
  cases Number.ofNumeral? n <;> simp

/-- A value that is a number has the numeral of one for its only token. -/
theorem exists_of_spells_number {m : Number} {ts : List Token}
    (h : Spells (.number (.ok m)) ts) : ∃ n, ts = [.number n] ∧ Number.ofNumeral? n = some m := by
  generalize hd : Doc.number (.ok m) = d at h
  cases h with
  | number n => exact ⟨n, rfl, numberDoc_eq_iff.1 hd.symm⟩
  | _ => cases hd

/-- The numerals say these numbers, under the same names. -/
def Say (ns : List (String × Numeral)) (ms : List (String × Number)) : Prop :=
  ns.map (fun n => (n.1, Number.ofNumeral? n.2)) = ms.map fun m => (m.1, some m.2)

namespace Say

variable {ns : List (String × Numeral)} {ms : List (String × Number)}

theorem map {α : Type} (h : Say ns ms) (f : String → Option Number → α) :
    ns.map (fun n => f n.1 (Number.ofNumeral? n.2)) = ms.map fun m => f m.1 (some m.2) := by
  simpa [Function.comp_def] using congrArg (List.map fun e => f e.1 e.2) h

theorem docs (h : Say ns ms) :
    ns.map (fun n => (Except.ok n.1, Builder.numberDoc n.2)) =
      ms.map fun m => ((.ok m.1, .number (.ok m.2)) : Except Fault String × Doc) := by
  simp only [numberDoc_eq]
  exact h.map fun k o => (Except.ok k, Doc.number (o.elim (.error .numberTooLarge) .ok))

theorem exists_float? (h : Say ns ms) : ∀ n ∈ ns, ∃ x, Number.float? n.2 = some x := by
  intro n hn
  have hmem : (n.1, Number.ofNumeral? n.2) ∈ ms.map fun m => (m.1, some m.2) :=
    h ▸ List.mem_map_of_mem hn
  obtain ⟨m, -, hm⟩ := List.mem_map.1 hmem
  exact ⟨_, by rw [Number.float?, ← (Prod.mk.inj hm).2]; rfl⟩

theorem exists_of_floats (h : ∀ n ∈ ns, ∃ x, Number.float? n.2 = some x) : ∃ ms, Say ns ms := by
  refine ⟨ns.map fun n => (n.1, (Number.ofNumeral? n.2).getD (.int 0)), ?_⟩
  rw [Say, List.map_map]
  refine List.map_congr_left fun n hn => ?_
  obtain ⟨x, hx⟩ := h n hn
  obtain ⟨m, hm, -⟩ := Option.map_eq_some_iff.1 hx
  simp [hm]

theorem lookup (h : Say ns ms) (k : String) :
    (ns.reverse.lookup k).bind Number.float? = (ms.reverse.lookup k).map Number.toFloat := by
  have hlookup := congrArg (fun l => (l.reverse.lookup k).bind (·.map Number.toFloat)) h
  simp only [← List.map_reverse, lookup_map_snd, Option.bind_map] at hlookup
  rw [Option.map_eq_bind]
  exact hlookup

end Say

theorem exists_of_spelled_members {ms : List (String × Number)}
    {members : List ((Except Fault String × Doc) × List Token)}
    (hmembers : ms.map (fun m => (.ok m.1, .number (.ok m.2))) = members.map (·.1))
    (hspells : ∀ m ∈ members, Spells m.1.2 m.2) :
    ∃ ns, members.map memberTokens = ns.map memberLexemes ∧ Say ns ms := by
  induction ms generalizing members with
  | nil => exact ⟨[], by rw [List.map_eq_nil_iff.1 hmembers.symm]; rfl, rfl⟩
  | cons m ms ih =>
    obtain ⟨⟨⟨_, _⟩, ts⟩, rest, rfl, hm, hrest⟩ := List.map_eq_cons_iff.1 hmembers.symm
    obtain ⟨rfl, rfl⟩ := Prod.mk.inj hm
    obtain ⟨hhead, htail⟩ := List.forall_mem_cons.1 hspells
    obtain ⟨n, rfl, hn⟩ := exists_of_spells_number hhead
    obtain ⟨ns, htokens, hsay⟩ := ih hrest.symm htail
    refine ⟨(m.1, n) :: ns, ?_, ?_⟩
    · rw [List.map_cons, htokens]
      rfl
    · rw [Say, List.map_cons, List.map_cons, hn, hsay]

/-- A document of numbers is that of a text of numerals that say them. -/
theorem ofText_eq_iff {text : String} {ms : List (String × Number)} :
    Doc.ofText text = (.object (ms.map fun m => (.ok m.1, .number (.ok m.2))) .closed, false) ↔
      ∃ ns, IsTextOf text ns ∧ Say ns ms := by
  constructor
  · intro h
    have hskip : (Doc.object (ms.map fun m => (.ok m.1, .number (.ok m.2))) .closed).onSkip =
        none := by
      refine Doc.onSkipLastMember_of_all fun m hm => ?_
      obtain ⟨n, -, rfl⟩ := List.mem_map.1 hm
      rfl
    obtain ⟨ts, cs, ss, htext, hlexes, hss, hspells⟩ := says_iff.2 ⟨h, hskip⟩
    generalize hd : Doc.object _ _ = d at hspells
    cases hspells with
    | object members hspells =>
      obtain ⟨ns, htokens, hsay⟩ := exists_of_spelled_members (Doc.object.inj hd).1 hspells
      rw [htokens] at hlexes
      exact ⟨ns, ⟨cs, ss, htext, hss, hlexes⟩, hsay⟩
    | _ => cases hd
  · rintro ⟨ns, ⟨cs, ss, htext, hss, hlexes⟩, hsay⟩
    rw [← hsay.docs]
    exact (says_iff.1 ⟨_, cs, ss, htext, hlexes, hss,
      Spells.object_map fun n _ => Spells.number n.2⟩).1

theorem isTableText_iff {text : String} :
    IsTableText text ↔ isBlank text = true ∨
      ∃ ns, IsTextOf text ns ∧ ∀ n ∈ ns, ∃ x, Number.float? n.2 = some x := by
  refine or_congr_right ?_
  constructor
  · rintro ⟨ms, hms⟩
    obtain ⟨ns, hns, hsay⟩ := ofText_eq_iff.1 hms
    exact ⟨ns, hns, hsay.exists_float?⟩
  · rintro ⟨ns, hns, hfloats⟩
    obtain ⟨ms, hsay⟩ := Say.exists_of_floats hfloats
    exact ⟨ms, ofText_eq_iff.2 ⟨ns, hns, hsay⟩⟩

theorem holds_of_readTable {key text : String} {t : Table Float} (h : readTable key text = .ok t) :
    Holds text t := by
  have htext := (readTable_iff key text).1 ⟨t, h⟩
  rw [readTable] at h
  rw [Holds]
  split_ifs at h ⊢ with hblank
  · exact (Except.ok.inj h).symm
  obtain ⟨ms, hms⟩ := htext.resolve_left hblank
  obtain ⟨ns, hns, hsay⟩ := ofText_eq_iff.1 hms
  have hmembers : Reader.members Reader.real .text
      (.object (ms.map fun m => (.ok m.1, .number (.ok m.2))) .closed) =
        .ok (ms.map fun m => (m.1, m.2.toFloat)) := Reader.members_map fun _ _ => rfl
  have hparse : (Reader.table Reader.real).parse text =
      .ok (Table.ofList (ms.map fun m => (m.1, m.2.toFloat))) := by
    rw [Reader.parse_eq hms, Reader.table, Reader.map, hmembers]
    rfl
  rw [hparse] at h
  refine ⟨ns, hns, hsay.exists_float?, fun k => ?_⟩
  rw [← Except.ok.inj h, Table.get?_ofList, ← List.map_reverse, lookup_map_snd, hsay.lookup]

/-! ### Settings one after the other -/

/-- The last setting at a key holds the table; where there is none, the table is empty. -/
def HeldLast (ss : List Setting) (key : String) (t : Table Float) : Prop :=
  match (ss.filter (·.key == key)).getLast? with
  | none => t = ∅
  | some s => Holds s.value t

theorem heldLast_of_ofSettings {ss : List Setting} {b : FlatBook} (h : ofSettings ss = .ok b)
    (i : Part) : HeldLast ss i.key (b.table i) := by
  induction ss using List.reverseRecOn generalizing b with
  | nil =>
    obtain rfl := Except.ok.inj h
    cases i <;> exact rfl
  | append_singleton ss s ih =>
    rw [ofSettings, List.foldlM_append] at h
    obtain ⟨b₁, hss, h⟩ := exists_of_bind h
    replace h : b₁.readSetting s = .ok b := by simpa using h
    have hrest : b.table i = b₁.table i → s.key ≠ i.key →
        HeldLast (ss ++ [s]) i.key (b.table i) := by
      intro htable hkey
      have hfilter : (ss ++ [s]).filter (·.key == i.key) = ss.filter (·.key == i.key) := by
        simp [hkey]
      rw [HeldLast, hfilter, htable]
      exact ih hss
    by_cases hkey : ∃ j : Part, s.key = j.key
    · obtain ⟨j, hj⟩ := hkey
      rw [readSetting_of_key hj] at h
      obtain ⟨t, ht, rfl⟩ := exists_of_map h
      by_cases hij : j = i
      · subst hij
        have hlast : ((ss ++ [s]).filter (·.key == j.key)).getLast? = some s := by simp [hj]
        rw [HeldLast, hlast, table_set, if_pos rfl]
        exact holds_of_readTable ht
      · refine hrest (by rw [table_set, if_neg hij]) fun hi => hij ?_
        exact Part.key_injective (hj.symm.trans hi)
    · rw [readSetting_of_other fun j hj => hkey ⟨j, hj⟩] at h
      obtain rfl := Except.ok.inj h
      exact hrest rfl fun hi => hkey ⟨i, hi⟩

def IsPart (s : Setting) : Prop := ∃ i : Part, s.key = i.key

instance (s : Setting) : Decidable (IsPart s) :=
  decidable_of_iff (s.key = priceKey ∨ s.key = ratioKey ∨ s.key = completionKey) <| by
    constructor
    · rintro (h | h | h)
      exacts [⟨.price, h⟩, ⟨.ratio, h⟩, ⟨.completion, h⟩]
    · rintro ⟨_ | _ | _, h⟩
      exacts [.inl h, .inr (.inl h), .inr (.inr h)]

theorem ofSettings_filter (ss : List Setting) :
    ofSettings (ss.filter fun s => IsPart s) = ofSettings ss := by
  unfold ofSettings
  generalize ({} : FlatBook) = b
  induction ss generalizing b with
  | nil => rfl
  | cons s ss ih =>
    by_cases hs : IsPart s
    · rw [List.filter_cons_of_pos (by simpa using hs), List.foldlM_cons, List.foldlM_cons]
      exact bind_congr ih
    · rw [List.filter_cons_of_neg (by simpa using hs), List.foldlM_cons,
        readSetting_of_other fun i hi => hs ⟨i, hi⟩, ih]
      rfl

/-- The fault of settings names the key of one that holds no table. -/
theorem exists_of_ofSettings_error {ss : List Setting} {e : Malformed}
    (h : ofSettings ss = .error e) :
    ∃ s ∈ ss, IsPart s ∧ ¬IsTableText s.value ∧ ∃ f, e = .badTable s.key f := by
  unfold ofSettings at h
  generalize ({} : FlatBook) = b at h
  induction ss generalizing b with
  | nil => cases h
  | cons s ss ih =>
    have hlater : (∃ b', ss.foldlM readSetting b' = .error e) → ∃ s' ∈ s :: ss, IsPart s' ∧
        ¬IsTableText s'.value ∧ ∃ f, e = .badTable s'.key f := by
      rintro ⟨b', hb'⟩
      obtain ⟨s', hs', h⟩ := ih b' hb'
      exact ⟨s', List.mem_cons_of_mem _ hs', h⟩
    rw [List.foldlM_cons] at h
    by_cases hkey : IsPart s
    · have ⟨i, hi⟩ := hkey
      rw [readSetting_of_key hi] at h
      cases ht : readTable i.key s.value with
      | ok t =>
        rw [ht] at h
        exact hlater ⟨_, h⟩
      | error e' =>
        rw [ht] at h
        obtain rfl : e' = e := Except.error.inj h
        refine ⟨s, List.mem_cons_self, hkey, fun htext => ?_, ?_⟩
        · obtain ⟨t, ht'⟩ := (readTable_iff i.key s.value).2 htext
          cases ht.symm.trans ht'
        · rw [readTable] at ht
          split at ht
          · cases ht
          · split at ht
            · cases ht
            · exact ⟨_, hi ▸ (Except.error.inj ht).symm⟩
    · rw [readSetting_of_other fun i hi => hkey ⟨i, hi⟩] at h
      exact hlater ⟨b, h⟩

/-- Settings make up no book just when some of them, displaced or not, stands at the key of a table
and is neither blank nor an object of numerals that say floats; the fault names such a setting. A
book is made of finite tables, each of them the one that the last setting at its key holds. Settings
at other keys do not matter. A numeral says a float unless it is too close to the greatest one, and
none if it is far enough beyond. -/
theorem ofSettings_by_texts (ss : List Setting) :
    ((∃ e, ofSettings ss = .error e) ↔
      ∃ s ∈ ss, IsPart s ∧ isBlank s.value = false ∧
        ∀ ns, IsTextOf s.value ns → ∃ n ∈ ns, Number.float? n.2 = none) ∧
    (∀ e, ofSettings ss = .error e →
      ∃ s ∈ ss, IsPart s ∧ isBlank s.value = false ∧
        (∀ ns, IsTextOf s.value ns → ∃ n ∈ ns, Number.float? n.2 = none) ∧
        ∃ f, e = .badTable s.key f) ∧
    (∀ b, ofSettings ss = .ok b → b.Finite ∧ ∀ i : Part, HeldLast ss i.key (b.table i)) ∧
    (∀ ss' : List Setting, (ss'.filter fun s => IsPart s) = (ss.filter fun s => IsPart s) →
      ofSettings ss' = ofSettings ss) ∧
    ∀ text ns, IsTextOf text ns → ∀ n ∈ ns,
      (n.2.value ≤ 17976931348623154 * 10 ^ 292 → ∃ x, Number.float? n.2 = some x) ∧
        (17976931348623163 * 10 ^ 292 ≤ n.2.value → Number.float? n.2 = none) := by
  have hno : ∀ s : Setting, ¬IsTableText s.value ↔ isBlank s.value = false ∧
      ∀ ns, IsTextOf s.value ns → ∃ n ∈ ns, Number.float? n.2 = none := fun s => by
    rw [isTableText_iff, not_or, Bool.not_eq_true]
    push Not
    simp only [Option.eq_none_iff_forall_ne_some, ne_eq]
  refine ⟨?_, fun e he => ?_, fun b hb => ⟨finite_of_ofSettings hb, heldLast_of_ofSettings hb⟩,
    fun ss' h => ?_, fun text ns h n hn => ?_⟩
  · have herror : (∃ e, ofSettings ss = .error e) ↔ ¬∃ b, ofSettings ss = .ok b := by
      cases ofSettings ss <;> simp
    rw [herror, ofSettings_ok_iff]
    push Not
    exact exists_congr fun s => and_congr_right fun _ => and_congr_right fun _ => by
      simpa using hno s
  · obtain ⟨s, hs, hkey, htext, hf⟩ := exists_of_ofSettings_error he
    obtain ⟨hblank, hnone⟩ := (hno s).1 htext
    exact ⟨s, hs, hkey, hblank, hnone, hf⟩
  · rw [← ofSettings_filter ss', h, ofSettings_filter]
  · obtain ⟨cs, hcs⟩ := h.exists_isNumeral n hn
    exact ⟨Number.exists_float?, Number.float?_eq_none hcs⟩

/-- A numeral below the greatest float, `(2 ^ 53 - 1) * 2 ^ 971`, that says none: its digits are
rounded up before they are scaled. -/
theorem refused_below_greatest :
    let text := "\x7b\"m\": 1797693134862315650e290\x7d"
    let n : Numeral := ⟨false, 1797693134862315650, 0, 290, false⟩
    IsTextOf text [("m", n)] ∧ n.value < (2 ^ 53 - 1) * 2 ^ 971 ∧
      ∃ e, ofSettings [⟨priceKey, text⟩] = .error e := by
  have htokens : Scan.run "\x7b\"m\": 1797693134862315650e290\x7d".toList =
      [.openObject, .text (.ok "m"), .colon, .number ⟨false, 1797693134862315650, 0, 290, false⟩,
        .closeObject] := by rfl
  intro text n
  refine ⟨?_, ?_, ?_⟩
  · have hwhole : ∀ t ∈ Scan.run text.toList, ¬t.IsBroken := by
      rw [htokens]
      simp [Token.IsBroken]
    obtain ⟨cs, ss, htext, hlexes, hss⟩ := Lexer.exists_lexes hwhole
    rw [htokens] at hlexes
    exact ⟨cs, ss, htext, hss, hlexes⟩
  · have hpower : n.power = (290 : ℕ) := rfl
    have hgreatest : ((2 ^ 53 - 1 : ℕ) : ℚ) = 2 ^ 53 - 1 := by norm_num
    rw [Numeral.value, hpower, zpow_natCast, ← hgreatest]
    exact Numeral.scaled_lt (m := 10) (c := 290) (k := 2) (d := 971) (by decide +kernel)
  · have hno : (ofSettings [⟨priceKey, text⟩]).isOk = false := by decide +kernel
    cases h : ofSettings [⟨priceKey, text⟩] with
    | error e => exact ⟨e, rfl⟩
    | ok b =>
      rw [h] at hno
      cases hno

end FlatBook

end TokenTariff
