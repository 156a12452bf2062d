import Mathlib
import TokenTariff.Proofs.Remote.Exchanges
import TokenTariff.Proofs.Text.Percent
import TokenTariff.Tariff.Check
import TokenTariff.Text.Pieces

/-!
# Addresses of records

The address of a record is that of the store with three more segments, of which the last one says
the model. A segment that is added is not always kept as it is: full stops stand for a place and not
for a name, and characters that are passed over in addresses leave no trace. So two models may have
one address, and the address of a model may be that of all records.
-/

namespace TokenTariff

namespace Net.Url

open Percent

variable {f : Family} {cs : List Char} {parts : List (List Char)}

/-! ### Full stops -/

theorem toLower_cases (c : Char) :
    c.toLower = c ∨ 65 ≤ c.toNat ∧ c.toLower.toNat = c.toNat + 32 := by
  unfold Char.toLower
  split
  · rename_i h
    have hlow : 65 ≤ c.val.toNat := h.1
    have hhigh : c.val.toNat ≤ 90 := h.2
    have hgap : ('a'.val - 'A'.val).toNat = 32 := rfl
    refine .inr ⟨hlow, ?_⟩
    change (c.val + ('a'.val - 'A'.val)).toNat = c.val.toNat + 32
    rw [UInt32.toNat_add]
    omega
  · exact .inl rfl

theorem eq_of_toLower {c d : Char} (h : c.toLower = d) (hd : d.toNat < 97) : c = d := by
  rcases toLower_cases c with heq | ⟨hlow, heq⟩
  · exact heq.symm.trans h
  · rw [h] at heq
    omega

theorem eq_of_toLower_e {c : Char} (h : c.toLower = 'e') : c = 'e' ∨ c = 'E' := by
  rcases toLower_cases c with heq | ⟨-, heq⟩
  · exact .inl (heq.symm.trans h)
  · rw [h] at heq
    have hc : c.toNat = 'E'.toNat := Nat.add_right_cancel heq.symm
    exact .inr (Char.toNat_inj.1 hc)

theorem eq_of_isDot (h : isDot cs = true) :
    cs = ['.'] ∨ cs = ['%', '2', 'e'] ∨ cs = ['%', '2', 'E'] := by
  rw [isDot, Bool.or_eq_true, decide_eq_true_iff, decide_eq_true_iff] at h
  refine h.imp_right fun h => ?_
  obtain ⟨a, cs, rfl, ha, h⟩ := List.map_eq_cons_iff.1 h
  obtain ⟨b, cs, rfl, hb, h⟩ := List.map_eq_cons_iff.1 h
  obtain ⟨c, cs, rfl, hc, h⟩ := List.map_eq_cons_iff.1 h
  obtain rfl := List.map_eq_nil_iff.1 h
  obtain rfl := eq_of_toLower ha (by decide)
  obtain rfl := eq_of_toLower hb (by decide)
  rcases eq_of_toLower_e hc with rfl | rfl
  · exact .inl rfl
  · exact .inr rfl

theorem decode_of_isDot (h : isDot cs = true) (rest : List Char) :
    decode (cs ++ rest) = 0x2E :: decode rest := by
  rcases eq_of_isDot h with rfl | rfl | rfl
  · exact decode_cons_of_ne (by decide) rest
  · rfl
  · rfl

theorem exists_of_isDots (h : isDots cs = true) :
    ∃ ds es, cs = ds ++ es ∧ isDot ds = true ∧ isDot es = true := by
  unfold isDots at h
  split at h
  · rename_i rest
    exact ⟨['.'], rest, rfl, rfl, h⟩
  · rename_i a b rest
    rw [Bool.and_eq_true] at h
    exact ⟨['%', a, b], rest, rfl, h⟩
  · cases h

/-! ### Segments that are added -/

theorem isSegmentChar_percent (f : Family) : isSegmentChar f '%' = false := by
  unfold isSegmentChar
  split <;> rfl

/-- What is written for a text counts as a full stop only if the text is one. -/
theorem isDot_encode (h : isDot (encode (isSegmentChar f) cs) = true) : cs = ['.'] := by
  have hbytes := decode_of_isDot h []
  rw [List.append_nil, decode_encode (isSegmentChar_percent f)] at hbytes
  exact Utf8.encode_injective hbytes

theorem isDots_encode (h : isDots (encode (isSegmentChar f) cs) = true) : cs = ['.', '.'] := by
  obtain ⟨ds, es, heq, hds, hes⟩ := exists_of_isDots h
  have hbytes := decode_of_isDot hds (es ++ [])
  rw [decode_of_isDot hes, List.append_nil, ← heq, decode_encode (isSegmentChar_percent f)]
    at hbytes
  exact Utf8.encode_injective hbytes

theorem encode_dot (f : Family) : encode (isSegmentChar f) ['.'] = ['.'] := by
  unfold isSegmentChar
  split <;> rfl

theorem encode_dots (f : Family) : encode (isSegmentChar f) ['.', '.'] = ['.', '.'] := by
  unfold isSegmentChar
  split <;> rfl

theorem encode_ne_nil (h : cs ≠ []) : encode (isSegmentChar f) cs ≠ [] := fun heq =>
  h (encode_injective (isSegmentChar_percent f) heq)

theorem slash_notMem_encode (f : Family) (cs : List Char) :
    '/' ∉ encode (isSegmentChar f) cs := by
  intro hmem
  rcases of_mem_encode hmem with h | h | ⟨n, hn, h⟩
  · have hslash : isSegmentChar f '/' = false := by
      unfold isSegmentChar
      split <;> rfl
    rw [hslash] at h
    cases h
  · exact absurd h (by decide)
  · have hhex : ∀ n < 16, '/' ≠ hexChar n := by decide
    exact hhex n hn h

/-- A segment that is no full stops is added behind others. -/
theorem addPart_of_ne (hdot : cs ≠ ['.']) (hdots : cs ≠ ['.', '.']) :
    addPart f true parts (encode (isSegmentChar f) cs) =
      parts ++ [driveForm f parts (encode (isSegmentChar f) cs)] := by
  rw [addPart, if_neg fun h => hdots (isDots_encode h), if_neg fun h => hdot (isDot_encode h)]

theorem driveForm_of_ne_nil {part : List Char} (h : parts ≠ []) : driveForm f parts part = part :=
  if_neg fun hdrive => h hdrive.2.1

theorem driveForm_of_not_drive {part : List Char} (h : isDrive part = false) :
    driveForm f parts part = part :=
  if_neg fun hdrive => by rw [h] at hdrive; cases hdrive.2.2

theorem shorten_of_ne_nil {part : List Char} (h : parts ≠ []) :
    shorten f (parts ++ [part]) = parts := by
  obtain ⟨first, rest, rfl⟩ := List.exists_cons_of_ne_nil h
  rw [shorten, List.dropLast_concat]
  rintro drive - heq
  exact List.append_ne_nil_of_right_ne_nil rest (List.cons_ne_nil part []) (List.cons.inj heq).2

theorem withoutRoot_of_ne {part : List Char} (h : part ≠ []) :
    withoutRoot (parts ++ [part]) = parts ++ [part] := by
  refine if_neg fun heq => h ?_
  have hlast := congrArg List.getLast? heq
  rw [List.getLast?_concat] at hlast
  exact Option.some.inj hlast

/-! ### What is kept of a text -/

/-- What is kept of a text that is added to a path: nothing of one or two full stops, and the
characters of other text that are not passed over. -/
def kept (cs : List Char) : Option (List Char) :=
  if cs = ['.'] ∨ cs = ['.', '.'] then none else some (cs.filter (!isSkipped ·))

/-- The end of a path whose last segment was `last` before a text was added of which this is
kept. -/
def ending (f : Family) (last : List Char) : Option (List Char) → List (List Char)
  | none => [last]
  | some cs =>
    if cs = ['.', '.'] then [[]]
    else if cs = ['.'] then [last, []]
    else [last, encode (isSegmentChar f) cs]

theorem pushSegment_append {last : List Char} (hparts : parts ≠ []) (hlast : last ≠ []) :
    pushSegment f (parts ++ [last]) cs = parts ++ ending f last (kept cs) := by
  have hne : parts ++ [last] ≠ [] := List.append_ne_nil_of_left_ne_nil hparts [last]
  rw [pushSegment, kept]
  split
  · rfl
  · -- Full stops are left out before characters are passed over, so what is left may be full stops.
    rw [withoutRoot_of_ne hlast, ending]
    generalize cs.filter (!isSkipped ·) = cs
    split
    · rename_i hdots
      rw [hdots, encode_dots, addPart, if_pos (by decide), shorten_of_ne_nil hparts,
        if_pos rfl]
    · rename_i hdots
      split
      · rename_i hdot
        rw [hdot, encode_dot, addPart, if_neg (by decide), if_pos (by decide),
          List.append_assoc]
        rfl
      · rename_i hdot
        rw [addPart_of_ne hdot hdots, driveForm_of_ne_nil hne, List.append_assoc]
        rfl

theorem pushSegment_of_plain (hdot : cs ≠ ['.']) (hdots : cs ≠ ['.', '.'])
    (hkept : cs.filter (!isSkipped ·) = cs) (hencode : encode (isSegmentChar f) cs = cs)
    (hdrive : isDrive cs = false) : pushSegment f parts cs = withoutRoot parts ++ [cs] := by
  have hpart : addPart f true (withoutRoot parts) (encode (isSegmentChar f) cs) =
      withoutRoot parts ++ [driveForm f (withoutRoot parts) (encode (isSegmentChar f) cs)] :=
    addPart_of_ne hdot hdots
  rw [hencode, driveForm_of_not_drive hdrive] at hpart
  rw [pushSegment, if_neg (not_or.2 ⟨hdot, hdots⟩), hkept, hencode, hpart]

theorem slash_notMem_ending {last : List Char} (hlast : '/' ∉ last) (x : Option (List Char)) :
    ∀ part ∈ ending f last x, '/' ∉ part := by
  cases x with
  | none => exact List.forall_mem_singleton.2 hlast
  | some cs =>
    rw [ending]
    split
    · exact List.forall_mem_singleton.2 List.not_mem_nil
    · split
      · exact List.forall_mem_cons.2 ⟨hlast, List.forall_mem_singleton.2 List.not_mem_nil⟩
      · exact List.forall_mem_cons.2
          ⟨hlast, List.forall_mem_singleton.2 (slash_notMem_encode f cs)⟩

/-- What was kept, as the end of the path tells it. -/
def keptOf : List (List Char) → Option (List Char)
  | [[]] => some ['.', '.']
  | [_, []] => some ['.']
  | [_, part] => Utf8.decode? (decode part)
  | _ => none

theorem keptOf_pair {last part : List Char} (hlast : last ≠ []) (hpart : part ≠ []) :
    keptOf [last, part] = Utf8.decode? (decode part) := by
  obtain ⟨a, as, rfl⟩ := List.exists_cons_of_ne_nil hlast
  obtain ⟨b, bs, rfl⟩ := List.exists_cons_of_ne_nil hpart
  rfl

theorem keptOf_ending {last : List Char} (hlast : last ≠ []) {x : Option (List Char)}
    (hx : x ≠ some []) : keptOf (ending f last x) = x := by
  obtain ⟨a, as, rfl⟩ := List.exists_cons_of_ne_nil hlast
  cases x with
  | none => rfl
  | some cs =>
    rw [ending]
    split
    · rename_i hdots
      rw [hdots]
      rfl
    · split
      · rename_i hdot
        rw [hdot]
        rfl
      · have hcs : cs ≠ [] := fun h => hx (congrArg some h)
        rw [keptOf_pair hlast (encode_ne_nil hcs), decode_encode (isSegmentChar_percent f),
          Utf8.decode?_encode]

theorem ending_inj {last : List Char} (hlast : last ≠ []) {x y : Option (List Char)}
    (hx : x ≠ some []) (hy : y ≠ some []) : ending f last x = ending f last y ↔ x = y := by
  refine ⟨fun h => ?_, congrArg _⟩
  have hkept := congrArg keptOf h
  rwa [keptOf_ending hlast hx, keptOf_ending hlast hy] at hkept

theorem kept_eq_self_iff :
    kept cs = some cs ↔ cs ≠ ['.'] ∧ cs ≠ ['.', '.'] ∧ ∀ ch ∈ cs, isSkipped ch = false := by
  rw [kept]
  split
  · rename_i h
    refine ⟨nofun, fun hne => ?_⟩
    exact h.elim (absurd · hne.1) (absurd · hne.2.1)
  · rename_i h
    rw [not_or] at h
    rw [Option.some_inj, List.filter_eq_self]
    simp only [Bool.not_eq_true']
    exact ⟨fun hall => ⟨h.1, h.2, hall⟩, fun hall => hall.2.2⟩

theorem isBlankChar_of_isSkipped {ch : Char} (h : isSkipped ch = true) : isBlankChar ch = true := by
  simp only [isSkipped, Bool.or_eq_true, decide_eq_true_iff] at h
  rcases h with (rfl | rfl) | rfl <;> decide

/-- Of a text that is not blank something is kept. -/
theorem kept_ne_of_not_blank {s : String} (h : isBlank s = false) : kept s.toList ≠ some [] := by
  rw [kept]
  split
  · exact nofun
  · intro heq
    have hskipped := List.filter_eq_nil_iff.1 (Option.some.inj heq)
    refine Bool.eq_false_iff.1 h (List.all_eq_true.2 fun ch hch => isBlankChar_of_isSkipped ?_)
    have hch := hskipped ch hch
    rwa [Bool.not_eq_true', Bool.not_eq_false] at hch

/-! ### Paths as they are written -/

theorem splitAll_piece_write {piece : List Char} (hpiece : '/' ∉ piece)
    (h : ∀ part ∈ parts, '/' ∉ part) :
    splitAll '/' (piece ++ (UrlPath.segments parts).write) = piece :: parts := by
  induction parts generalizing piece with
  | nil =>
    have hnil : (UrlPath.segments []).write = [] := rfl
    rw [hnil, List.append_nil, splitAll_of_notMem hpiece]
  | cons part rest ih =>
    obtain ⟨hpart, hrest⟩ := List.forall_mem_cons.1 h
    have hcons : (UrlPath.segments (part :: rest)).write =
        '/' :: (part ++ (UrlPath.segments rest).write) := rfl
    rw [hcons, splitAll_append_cons hpiece, ih hpart hrest]

/-- A path without slashes in its segments is split into these segments. -/
theorem splitAll_write (h : ∀ part ∈ parts, '/' ∉ part) :
    splitAll '/' (UrlPath.segments parts).write = [] :: parts :=
  splitAll_piece_write List.not_mem_nil h

theorem write_append (parts parts' : List (List Char)) :
    (UrlPath.segments (parts ++ parts')).write =
      (UrlPath.segments parts).write ++ (UrlPath.segments parts').write :=
  List.flatMap_append

/-- Of two addresses that differ in the path only, the targets tell the paths apart. -/
theorem write_of_target {u : Url} {path path' : UrlPath}
    (h : ({ u with path } : Url).target = ({ u with path := path' } : Url).target) :
    path.write = path'.write :=
  List.append_cancel_right (String.ofList_injective h)

end Net.Url

namespace Client

open Net Net.Url Percent

variable (c : Client) {parts : List (List Char)} {n n' : String}

theorem exists_segments : ∃ parts, c.base.path = .segments parts := by
  have hflat := c.hierarchical
  rw [Url.isFlat] at hflat
  split at hflat
  · rename_i parts hpath
    exact ⟨parts, hpath⟩
  · cases hflat

/-- The segments below which the records have theirs. -/
def recordRoot (parts : List (List Char)) : List (List Char) :=
  withoutRoot (dropEmptyEnd parts) ++ ["api".toList]

theorem pushSegment_api (f : Family) (parts : List (List Char)) :
    pushSegment f parts "api".toList = withoutRoot parts ++ ["api".toList] := by
  refine pushSegment_of_plain (by decide) (by decide) (by decide) ?_ (by decide)
  unfold isSegmentChar
  split <;> rfl

theorem pushSegment_segmented_ratio (f : Family) (parts : List (List Char)) :
    pushSegment f parts "segmented_ratio".toList =
      withoutRoot parts ++ ["segmented_ratio".toList] := by
  refine pushSegment_of_plain (by decide) (by decide) (by decide) ?_ (by decide)
  unfold isSegmentChar
  split <;> rfl

theorem recordUrl_eq (h : c.base.path = .segments parts) (model : String) :
    c.recordUrl model = { c.base with
      path := .segments (recordRoot parts ++
        ending c.base.family "segmented_ratio".toList (kept model.toList)) } := by
  have hroot : recordRoot parts ≠ [] :=
    List.append_ne_nil_of_right_ne_nil _ (List.cons_ne_nil _ [])
  have hpath : pushSegment c.base.family (pushSegment c.base.family
        (pushSegment c.base.family (dropEmptyEnd parts) "api".toList)
          "segmented_ratio".toList) model.toList =
      recordRoot parts ++ ending c.base.family "segmented_ratio".toList (kept model.toList) := by
    rw [pushSegment_api, pushSegment_segmented_ratio, withoutRoot_of_ne (by decide),
      ← recordRoot, pushSegment_append hroot (by decide)]
  have hbelow : c.base.below? (["api", "segmented_ratio", model].map String.toList) =
      some { c.base with
        path := .segments (pushSegment c.base.family (pushSegment c.base.family
          (pushSegment c.base.family (dropEmptyEnd parts) "api".toList)
            "segmented_ratio".toList) model.toList) } := by
    rw [below?, h]
    rfl
  rw [recordUrl, endpoint, hbelow, Option.getD_some, hpath]

theorem recordUrl_eq_iff (h : c.base.path = .segments parts) :
    c.recordUrl n = c.recordUrl n' ↔
      ending c.base.family "segmented_ratio".toList (kept n.toList) =
        ending c.base.family "segmented_ratio".toList (kept n'.toList) := by
  rw [c.recordUrl_eq h, c.recordUrl_eq h]
  refine ⟨fun heq => ?_, fun heq => by rw [heq]⟩
  exact List.append_cancel_left (UrlPath.segments.inj (congrArg Url.path heq))

/-- Addresses of records are told apart by what is sent of them. -/
theorem recordUrl_eq_of_target (h : (c.recordUrl n).target = (c.recordUrl n').target) :
    c.recordUrl n = c.recordUrl n' := by
  obtain ⟨parts, hpath⟩ := c.exists_segments
  have hlast : '/' ∉ "segmented_ratio".toList := by decide
  rw [c.recordUrl_eq hpath, c.recordUrl_eq hpath] at h
  have hwrite := write_of_target h
  rw [write_append, write_append] at hwrite
  have hends := congrArg (splitAll '/') (List.append_cancel_left hwrite)
  rw [splitAll_write (slash_notMem_ending hlast _), splitAll_write (slash_notMem_ending hlast _)]
    at hends
  exact (c.recordUrl_eq_iff hpath).2 (List.cons.inj hends).2

theorem recordUrl_eq_iff_kept (hn : isBlank n = false) (hn' : isBlank n' = false) :
    c.recordUrl n = c.recordUrl n' ↔ kept n.toList = kept n'.toList := by
  obtain ⟨parts, hpath⟩ := c.exists_segments
  rw [c.recordUrl_eq_iff hpath,
    ending_inj (by decide) (kept_ne_of_not_blank hn) (kept_ne_of_not_blank hn')]

/-- The address of all records is that of a model of which a full stop is kept. -/
theorem recordUrl_eq_recordsUrl_iff (hn : isBlank n = false) :
    c.recordUrl n = c.recordsUrl ↔ kept n.toList = some ['.'] := by
  obtain ⟨parts, hpath⟩ := c.exists_segments
  have hall : c.recordsUrl = c.recordUrl "" := rfl
  have hempty : ending c.base.family "segmented_ratio".toList (kept "".toList) =
      ending c.base.family "segmented_ratio".toList (some ['.']) := rfl
  rw [hall, c.recordUrl_eq_iff hpath, hempty,
    ending_inj (by decide) (kept_ne_of_not_blank hn) (by decide)]

/-- The address has, below the base, the segments of the records and one that is read as the
model. -/
def Names (parts : List (List Char)) (model : String) : Prop :=
  ∃ segment, Web.Target.decodeSegment? segment = some model ∧
    c.recordUrl model = { c.base with
      path := .segments (withoutRoot (dropEmptyEnd parts) ++
        ["api".toList, "segmented_ratio".toList, segment]) }

theorem names_iff (h : c.base.path = .segments parts) (hn : isBlank n = false) :
    c.Names parts n ↔ kept n.toList = some n.toList := by
  have hlast : "segmented_ratio".toList ≠ [] := by decide
  constructor
  · rintro ⟨segment, hsegment, hurl⟩
    rw [Web.Target.decodeSegment?, Option.map_eq_some_iff] at hsegment
    obtain ⟨cs, hcs, rfl⟩ := hsegment
    -- An empty segment is read as the empty text, which is blank.
    have hne : segment ≠ [] := by
      rintro rfl
      obtain rfl := Option.some.inj hcs
      cases hn
    rw [c.recordUrl_eq h, recordRoot, List.append_assoc] at hurl
    have hbehind := List.append_cancel_left (UrlPath.segments.inj (congrArg Url.path hurl))
    have hends : ending c.base.family "segmented_ratio".toList (kept (String.ofList cs).toList) =
        ["segmented_ratio".toList, segment] := (List.cons.inj hbehind).2
    have hkept := congrArg keptOf hends
    rw [keptOf_ending hlast (kept_ne_of_not_blank hn), keptOf_pair hlast hne, hcs] at hkept
    rw [hkept, String.toList_ofList]
  · intro hkept
    obtain ⟨hdot, hdots, -⟩ := kept_eq_self_iff.1 hkept
    refine ⟨encode (isSegmentChar c.base.family) n.toList, ?_, ?_⟩
    · rw [Percent.decodeSegment?_encode (isSegmentChar_percent _), String.ofList_toList]
    · rw [c.recordUrl_eq h, hkept, ending, if_neg hdots, if_neg hdot, recordRoot,
        List.append_assoc]
      rfl

/-- A deletion is asked for at the address of the record. That address names the model exactly if
the model is not one or two full stops and has no tabs and ends of lines. Two models have one
address, and the same is sent for them, exactly if the same is kept of them; and a model of which a
full stop is kept has the address of all records. -/
theorem record_addresses (c : Client) :
    (∃ parts, c.base.path = .segments parts ∧ ∀ n, isBlank n = false →
      (c.Names parts n ↔ n ≠ "." ∧ n ≠ ".." ∧ ∀ ch ∈ n.toList, isSkipped ch = false)) ∧
    (∀ n n', isBlank n = false → isBlank n' = false →
      (c.recordUrl n = c.recordUrl n' ↔ kept n.toList = kept n'.toList) ∧
      ((c.recordUrl n).target = (c.recordUrl n').target ↔ kept n.toList = kept n'.toList)) ∧
    (∀ n, isBlank n = false → (c.recordUrl n = c.recordsUrl ↔ kept n.toList = some ['.'])) ∧
    ∀ {σ : Type} (net : Network σ) (model : String) (s : Logged σ),
      s.Sends [c.message .delete (c.recordUrl model) none]
        (c.answer net.logging (.deleteRecord model) s) := by
  obtain ⟨parts, hpath⟩ := c.exists_segments
  refine ⟨⟨parts, hpath, fun n hn => ?_⟩, fun n n' hn hn' => ?_,
    fun n hn => c.recordUrl_eq_recordsUrl_iff hn,
    fun net model s => c.sends_answer net (.deleteRecord model) s⟩
  · have hdot : n.toList = ['.'] ↔ n = "." :=
      (String.toList_inj : n.toList = ".".toList ↔ n = ".")
    have hdots : n.toList = ['.', '.'] ↔ n = ".." :=
      (String.toList_inj : n.toList = "..".toList ↔ n = "..")
    rw [c.names_iff hpath hn, kept_eq_self_iff, Ne, Ne, hdot, hdots]
  · have hkept := c.recordUrl_eq_iff_kept hn hn'
    exact ⟨hkept, fun h => hkept.1 (c.recordUrl_eq_of_target h),
      fun h => congrArg Url.target (hkept.2 h)⟩

theorem record_addresses_of_slashes :
    let base : Url := { scheme := "http", path := .segments ["gateway".toList, []] }
    let c : Client := ⟨base, none, none, rfl⟩
    isBlank "a/b" = false ∧ isBlank "a%2Fb" = false ∧ c.Names ["gateway".toList, []] "a/b" ∧
      (c.recordUrl "a/b").target ≠ (c.recordUrl "a%2Fb").target := by
  intro base c
  obtain ⟨⟨parts, hpath, hnames⟩, hurls, -⟩ := c.record_addresses
  have hparts : ["gateway".toList, []] = parts := UrlPath.segments.inj hpath
  have hslash : isBlank "a/b" = false := by decide
  have hescape : isBlank "a%2Fb" = false := by decide
  have htargets := (hurls "a/b" "a%2Fb" hslash hescape).2
  rw [hparts]
  exact ⟨hslash, hescape, (hnames "a/b" hslash).2 ⟨by decide, by decide, by simp [isSkipped]⟩,
    fun h => absurd (htargets.1 h) (by decide)⟩

/-- Two models that may be saved have one address, and the addresses of two others do not end in a
model: one lacks the segment, and one is that of all records. -/
theorem shared_record_addresses :
    let rate : FlatRate := { price := some 1.5 }
    let base : Url :=
      { scheme := "http", host := some (.four ⟨10, 0, 0, 1⟩), number := some 3000,
        path := .segments ["gateway".toList, []] }
    let c : Client := ⟨base, none, none, rfl⟩
    Client.ofAccess ⟨"http://10.0.0.1:3000/gateway/", none, none, 5⟩ = .ok c ∧
      (Tariff.flat "a\tb" rate).check = .ok () ∧ (Tariff.flat "ab" rate).check = .ok () ∧
      c.recordUrl "a\tb" = c.recordUrl "ab" ∧
      (Tariff.flat "." rate).check = .ok () ∧
      (c.recordUrl ".").target = "/gateway/api/segmented_ratio" ∧
      (Tariff.flat ".\t" rate).check = .ok () ∧ c.recordUrl ".\t" = c.recordsUrl :=
  ⟨rfl, rfl, rfl, rfl, rfl, rfl, rfl, rfl⟩

end Client

end TokenTariff
