import Mathlib
import TokenTariff.Json.Reader
import TokenTariff.Proofs.Json.Numbers
import TokenTariff.Proofs.Json.Structure
import TokenTariff.Proofs.Tables

/-!
# Written values read back

A value is written without blanks, by the grammar of JSON. So reading the text gives the value again
with its reals as their texts are read, if its numbers can be written, its members ascend and it is
not too deep. A real of few digits is read as the same float; another one may not be.
-/

namespace TokenTariff.Json

/-! ### Values that can be written -/

def Number.Writable : Number → Prop
  | .int i => -2 ^ 63 ≤ i ∧ i < 2 ^ 64
  | .real x => x.isFinite = true

/-- The value is at most `depth` lists and objects deep; its numbers can be written and the members
of its objects ascend. -/
inductive Value.Proper : ℕ → Value → Prop where
  | null {depth : ℕ} : Proper depth .null
  | bool {depth : ℕ} (b : Bool) : Proper depth (.bool b)
  | number {depth : ℕ} {n : Number} (hn : n.Writable) : Proper depth (.number n)
  | text {depth : ℕ} (s : String) : Proper depth (.text s)
  | list {depth : ℕ} {items : List Value} (h : ∀ v ∈ items, Proper (depth + 1) v) :
    Proper (depth + 2) (.list items)
  | object {depth : ℕ} {members : List (String × Value)} (hasc : Entries.Ascending members)
    (h : ∀ m ∈ members, Proper (depth + 1) m.2) : Proper (depth + 2) (.object members)

/-! ### Values as they are read -/

def Number.reread : Number → Number
  | .int i => .int i
  | .real x => .real (Json.reread x)

namespace Value

mutual

/-- The value with every real as its text is read. -/
def reread : Value → Value
  | null => null
  | bool b => bool b
  | number n => number n.reread
  | text s => text s
  | list items => list (rereadItems items)
  | object members => object (rereadMembers members)

def rereadItems : List Value → List Value
  | [] => []
  | v :: rest => reread v :: rereadItems rest

def rereadMembers : List (String × Value) → List (String × Value)
  | [] => []
  | (k, v) :: rest => (k, reread v) :: rereadMembers rest

end

theorem rereadItems_eq (items : List Value) : rereadItems items = items.map reread := by
  induction items with
  | nil => rfl
  | cons v rest ih => rw [rereadItems, ih, List.map_cons]

theorem rereadMembers_eq (members : List (String × Value)) :
    rereadMembers members = members.map fun m => (m.1, m.2.reread) := by
  induction members with
  | nil => rfl
  | cons m rest ih => rw [rereadMembers, ih, List.map_cons]

end Value

/-! ### Quoted texts -/

theorem hexDigit?_digitChar : ∀ n < 16, hexDigit? (Nat.digitChar n) = some n := by decide

theorem written_code {v : ℕ} (hv : v < 0x20) :
    (Piece.unit v).Written
      ['\\', 'u', '0', '0', Nat.digitChar (v / 16), Nat.digitChar (v % 16)] := by
  have hhigh := hexDigit?_digitChar (v / 16) (by omega)
  have hlow := hexDigit?_digitChar (v % 16) (by omega)
  have hv' : ((0 * 16 + 0) * 16 + v / 16) * 16 + v % 16 = v := by omega
  have hzero : hexDigit? '0' = some 0 := rfl
  have h := Piece.Written.code hzero hzero hhigh hlow
  rwa [hv'] at h

/-- A character, escaped or not, is a piece that stands for it. -/
theorem exists_piece (c : Char) : ∃ p : Piece, p.Written (escapeChar c) ∧
    ∀ ps, Piece.joined (p :: ps) = (Piece.joined ps).map (c :: ·) := by
  have hchar (ps : List Piece) :
      Piece.joined (.char c :: ps) = (Piece.joined ps).map (c :: ·) := rfl
  by_cases hq : c = '"'
  · subst hq
    exact ⟨.char '"', .letter (by decide), hchar⟩
  by_cases hb : c = '\\'
  · subst hb
    exact ⟨.char '\\', .letter (by decide), hchar⟩
  unfold escapeChar
  split <;> first | exact ⟨_, .letter (by decide), hchar⟩ | skip
  split
  · rename_i hcontrol
    refine ⟨.unit c.toNat, written_code hcontrol, fun ps => ?_⟩
    have hlow : ¬Piece.IsLow c.toNat := fun h => by
      have := h.1
      omega
    have hhigh : ¬Piece.IsHigh c.toNat := fun h => by
      have := h.1
      omega
    rw [Piece.joined.eq_def]
    simp only [if_neg hlow, if_neg hhigh, Char.ofNat_toNat]
  · rename_i hplain
    exact ⟨.char c, .plain (not_lt.1 hplain) hq hb, hchar⟩

theorem exists_pieces (cs : List Char) : ∃ (ps : List Piece) (css : List (List Char)),
    List.Forall₂ Piece.Written ps css ∧ Piece.joined ps = .ok cs ∧
      css.flatten = cs.flatMap escapeChar := by
  induction cs with
  | nil => exact ⟨[], [], .nil, rfl, rfl⟩
  | cons c cs ih =>
    obtain ⟨p, hp, hjoined⟩ := exists_piece c
    obtain ⟨ps, css, hps, hrest, htext⟩ := ih
    refine ⟨p :: ps, escapeChar c :: css, .cons hp hps, ?_, ?_⟩
    · rw [hjoined, hrest]
      rfl
    · rw [List.flatten_cons, htext, List.flatMap_cons]

/-- A text that is written is quoted, and says itself. -/
theorem quotes_writeText (s : String) : Quotes (.ok s) (writeText s).toList := by
  obtain ⟨ps, css, hps, hjoined, htext⟩ := exists_pieces s.toList
  refine ⟨ps, css, hps, ?_, ?_⟩
  · rw [hjoined]
    exact congrArg Except.ok String.ofList_toList.symm
  · rw [htext, writeText, String.toList_ofList]
    rfl

/-! ### Integers -/

theorem ofNumeral?_of_nat {n : ℕ} (h : n < 2 ^ 64) :
    Number.ofNumeral? { mantissa := n } = some (.int n) := by
  have hs : UInt64.size = 2 ^ 64 := rfl
  have hint : Number.int? { mantissa := n } = some (n : ℤ) := by
    simp only [Number.int?, Bool.not_true, Bool.false_eq_true, ↓reduceIte, hs, h]
  rw [Number.ofNumeral?, hint]

theorem ofNumeral?_of_negative {n : ℕ} (h0 : n ≠ 0) (h : n ≤ 2 ^ 63) :
    Number.ofNumeral? { negative := true, mantissa := n } = some (.int (-n)) := by
  have hs : UInt64.size = 2 ^ 64 := rfl
  have hint : Number.int? { negative := true, mantissa := n } = some (-(n : ℤ)) := by
    have hrange : ¬(n = 0 ∨ 2 ^ 64 < 2 * n) := by omega
    simp only [Number.int?, Bool.not_true, Bool.false_eq_true, ↓reduceIte, hs, hrange]
  rw [Number.ofNumeral?, hint]

theorem isNumeral_toDigits (negative : Bool) (n : ℕ) :
    IsNumeral { negative, mantissa := n } (signChars negative ++ Nat.toDigits 10 n) := by
  have hwhole : IsWhole (Nat.toDigits 10 n) := by
    by_cases hn : n = 0
    · subst hn
      exact isWhole_zero
    · exact isWhole_toDigits hn
  have h := Positional.whole negative hwhole
  rw [digitsValue_toDigits] at h
  exact .positional h

/-- The text of an integer is a numeral that says this integer. -/
theorem exists_numeral_int {i : ℤ} (h : (Number.int i).Writable) :
    ∃ n, IsNumeral n (toString i).toList ∧ Number.ofNumeral? n = some (.int i) := by
  obtain ⟨hlow, hhigh⟩ := h
  obtain n | n := i
  · have htext : (toString (Int.ofNat n)).toList = Nat.toDigits 10 n := by
      change (Nat.repr n).toList = _
      rw [Nat.repr, String.toList_ofList]
    rw [htext]
    refine ⟨_, isNumeral_toDigits false n, ofNumeral?_of_nat ?_⟩
    rw [Int.ofNat_eq_natCast] at hhigh
    omega
  · have htext : (toString (Int.negSucc n)).toList = '-' :: Nat.toDigits 10 (n + 1) := by
      change ("-" ++ Nat.repr (n + 1)).toList = _
      rw [Nat.repr]
      simp
    rw [htext]
    refine ⟨_, isNumeral_toDigits true (n + 1), ?_⟩
    rw [Int.negSucc_eq] at hlow ⊢
    exact_mod_cast ofNumeral?_of_negative n.succ_ne_zero (by omega)

theorem numberDoc_of_ofNumeral? {n : Numeral} {m : Number} (h : Number.ofNumeral? n = some m) :
    Builder.numberDoc n = .number (.ok m) := by
  simp [Builder.numberDoc, h]

/-! ### Reals -/

theorem ofText_of_isNumeral {text : String} {n : Numeral} (hn : IsNumeral n text.toList) :
    Doc.ofText text = (Builder.numberDoc n, false) :=
  (says_iff.1 ⟨[.number n], _, [], (List.append_nil _).symm,
    Lexes.single (List.forall_mem_nil _) (.number hn), List.forall_mem_nil _, .number n⟩).1

theorem parse_of_isNumeral {text : String} {n : Numeral} (hn : IsNumeral n text.toList) {y : Float}
    (hvalue : Number.ofNumeral? n = some (.real y)) : Reader.real.parse text = .ok y := by
  rw [Reader.parse, ofText_of_isNumeral hn, numberDoc_of_ofNumeral? hvalue]
  rfl

theorem ofNumeral?_of_toFloat? {n : Numeral} {x : Float} (hw : n.whole = false)
    (h : n.toFloat? = some x) : Number.ofNumeral? n = some (.real x) := by
  simp [Number.ofNumeral?, Number.int?, hw, h]

variable {x : Float}

/-- A finite number is read as the float of its numeral. -/
theorem toFloat?_numeralOf (hx : x.isFinite = true) : (numeralOf x).toFloat? = some (reread x) := by
  obtain ⟨y, hy⟩ := exists_toFloat?_numeralOf hx
  have hparse := parse_of_isNumeral (isNumeral_write hx)
    (ofNumeral?_of_toFloat? (whole_numeralOf x) hy)
  rw [hy, reread, hparse]
  rfl

theorem parse_write_real (hx : x.isFinite = true) :
    Reader.real.parse (Value.real x).write = .ok (reread x) :=
  parse_of_isNumeral (isNumeral_write hx)
    (ofNumeral?_of_toFloat? (whole_numeralOf x) (toFloat?_numeralOf hx))

theorem isFinite_reread (hx : x.isFinite = true) : (reread x).isFinite = true :=
  Numeral.isFinite_of_toFloat? (toFloat?_numeralOf hx)

/-- What is not finite is written as `null`, and that is no number. -/
theorem exists_parse_of_not_finite (hx : x.isFinite = false) :
    ∃ f, Reader.real.parse (Value.real x).write = .error f := by
  rw [Value.real, if_neg (by simp [hx])]
  exact ⟨_, rfl⟩

theorem reread_of_not_finite (hx : x.isFinite = false) : reread x = x := by
  obtain ⟨f, hf⟩ := exists_parse_of_not_finite hx
  rw [reread, hf]
  rfl

theorem isFinite_reread_iff : (reread x).isFinite = true ↔ x.isFinite = true := by
  refine ⟨fun h => ?_, isFinite_reread⟩
  by_contra hx
  rw [Bool.not_eq_true] at hx
  rw [reread_of_not_finite hx, hx] at h
  cases h

theorem readsBack_iff : ReadsBack x ↔ x.isFinite = true ∧ reread x = x := by
  refine ⟨fun h => ⟨?_, h.reread_eq⟩, fun ⟨hx, h⟩ => ?_⟩
  · by_contra hx
    rw [Bool.not_eq_true] at hx
    obtain ⟨f, hf⟩ := exists_parse_of_not_finite hx
    cases hf.symm.trans h
  · rw [ReadsBack, parse_write_real hx, h]

instance (x : Float) : Decidable (ReadsBack x) := decidable_of_iff _ readsBack_iff.symm

/-- Short numbers are read as they were written. -/
theorem Short.readsBack (h : Short x) : ReadsBack x :=
  parse_of_isNumeral (isNumeral_write h.finite)
    (ofNumeral?_of_toFloat? (whole_numeralOf x) h.toFloat?_numeralOf)

-- Sixteen digits can be too many.
example : ¬ReadsBack 94.52706955539223 := by decide +kernel

theorem Value.reread_real (x : Float) : (Value.real x).reread = .real (Json.reread x) := by
  by_cases hx : x.isFinite = true
  · rw [Value.real, if_pos hx, Value.real, if_pos (isFinite_reread hx)]
    rfl
  · rw [Bool.not_eq_true] at hx
    rw [reread_of_not_finite hx, Value.real, if_neg (by simp [hx])]
    rfl

/-- The text of a number is a numeral that says the number as it is read. -/
theorem exists_numeral {m : Number} (h : m.Writable) :
    ∃ n, IsNumeral n m.write.toList ∧ Number.ofNumeral? n = some m.reread := by
  cases m with
  | int i => exact exists_numeral_int h
  | real x =>
    have hx : x.isFinite = true := h
    have htext := isNumeral_write hx
    rw [Value.real, if_pos hx] at htext
    exact ⟨_, htext, ofNumeral?_of_toFloat? (whole_numeralOf x) (toFloat?_numeralOf hx)⟩

/-! ### From values to texts -/

theorem intercalate_comma (cs : List Char) (css : List (List Char)) :
    [','].intercalate (cs :: css) = cs ++ css.flatMap (',' :: ·) := by
  induction css generalizing cs with
  | nil => simp
  | cons ds css ih => rw [List.intercalate_cons_cons, ih, List.flatMap_cons, List.append_assoc]; rfl

namespace Value

/-- The text of the value is made of the tokens of the document that is read. -/
def Spelled (v : Value) : Prop := ∃ ts, Lexes ts v.write.toList ∧ Spells v.reread.toDoc ts

theorem spelled_of_lexeme {v : Value} {t : Token} (ht : Lexeme t v.write.toList)
    (h : Spells v.reread.toDoc [t]) : v.Spelled :=
  ⟨[t], Lexes.single (List.forall_mem_nil _) ht, h⟩

theorem toDocs_eq (items : List Value) : toDocs items = items.map toDoc := by
  induction items with
  | nil => rfl
  | cons v rest ih => rw [toDocs, ih, List.map_cons]

theorem toMembers_eq (members : List (String × Value)) :
    toMembers members = members.map fun m => (.ok m.1, m.2.toDoc) := by
  induction members with
  | nil => rfl
  | cons m rest ih => rw [toMembers, ih, List.map_cons]

theorem spelled_number {m : Number} (h : m.Writable) : (number m).Spelled := by
  obtain ⟨n, hn, hvalue⟩ := exists_numeral h
  have hspells := Spells.number n
  rw [numberDoc_of_ofNumeral? hvalue] at hspells
  exact spelled_of_lexeme (.number hn) hspells

theorem toList_writeItems (items : List Value) :
    (writeItems true items).toList = [','].intercalate (items.map fun v => v.write.toList) := by
  have hrest (items : List Value) :
      (writeItems false items).toList = (items.map fun v => v.write.toList).flatMap (',' :: ·) := by
    induction items with
    | nil => rfl
    | cons v rest ih => simp [writeItems, ih]
  cases items with
  | nil => rfl
  | cons v rest =>
    rw [List.map_cons, intercalate_comma, ← hrest]
    simp [writeItems]

theorem toList_writeMembers (members : List (String × Value)) :
    (writeMembers true members).toList =
      [','].intercalate
        (members.map fun m => (writeText m.1).toList ++ ':' :: m.2.write.toList) := by
  have hrest (members : List (String × Value)) : (writeMembers false members).toList =
      (members.map fun m => (writeText m.1).toList ++ ':' :: m.2.write.toList).flatMap
        (',' :: ·) := by
    induction members with
    | nil => rfl
    | cons m rest ih => simp [writeMembers, ih]
  cases members with
  | nil => rfl
  | cons m rest =>
    rw [List.map_cons, intercalate_comma, ← hrest]
    simp [writeMembers]

theorem spelled_list {items : List Value} (h : ∀ v ∈ items, v.Spelled) : (list items).Spelled := by
  choose! tokens hlexes hspells using h
  have htext := (lexes_separated hlexes).bracketed .openList .closeList (List.forall_mem_nil _)
  rw [← toList_writeItems] at htext
  refine ⟨_, by simpa [write] using htext, ?_⟩
  rw [reread, rereadItems_eq, toDoc, toDocs_eq, List.map_map]
  exact .list_map hspells

theorem spelled_object {members : List (String × Value)} (h : ∀ m ∈ members, m.2.Spelled) :
    (object members).Spelled := by
  choose! tokens hlexes hspells using h
  have hmember : ∀ m ∈ members, Lexes (memberTokens ((.ok m.1, m.2.reread.toDoc), tokens m))
      ((writeText m.1).toList ++ ':' :: m.2.write.toList) := fun m hm =>
    .cons (List.forall_mem_nil _) (.text (quotes_writeText m.1))
      (.cons (List.forall_mem_nil _) .colon (hlexes m hm))
  have htext := (lexes_separated hmember).bracketed .openObject .closeObject (List.forall_mem_nil _)
  rw [← toList_writeMembers] at htext
  refine ⟨_, by simpa [write] using htext, ?_⟩
  rw [reread, rereadMembers_eq, toDoc, toMembers_eq, List.map_map]
  exact .object_map hspells

theorem Proper.spelled {depth : ℕ} {v : Value} (h : v.Proper depth) : v.Spelled := by
  induction h with
  | null => exact spelled_of_lexeme .null .null
  | bool b =>
    cases b with
    | true => exact spelled_of_lexeme .true (.bool true)
    | false => exact spelled_of_lexeme .false (.bool false)
  | number hn => exact spelled_number hn
  | text s => exact spelled_of_lexeme (.text (quotes_writeText s)) (.text (.ok s))
  | list _ ih => exact spelled_list ih
  | object _ _ ih => exact spelled_object ih

/-- The text of a value says the value as it is read. -/
theorem Proper.says_write {depth : ℕ} {v : Value} (h : v.Proper depth) :
    Says v.write v.reread.toDoc := by
  obtain ⟨tokens, hlexes, hspells⟩ := h.spelled
  exact ⟨tokens, _, [], (List.append_nil _).symm, hlexes, List.forall_mem_nil _, hspells⟩

theorem Proper.ofText_write {depth : ℕ} {v : Value} (h : v.Proper depth) :
    Doc.ofText v.write = (v.reread.toDoc, false) := (says_iff.1 h.says_write).1

theorem Proper.reread {depth : ℕ} {v : Value} (h : v.Proper depth) : v.reread.Proper depth := by
  induction h with
  | null => exact .null
  | bool b => exact .bool b
  | @number depth n hn =>
    refine .number ?_
    cases n with
    | int i => exact hn
    | real x => exact isFinite_reread hn
  | text s => exact .text s
  | list _ ih =>
    rw [Value.reread, rereadItems_eq]
    exact .list (List.forall_mem_map.2 ih)
  | object hasc _ ih =>
    rw [Value.reread, rereadMembers_eq]
    exact .object (List.pairwise_map.2 hasc) (List.forall_mem_map.2 ih)

/-! ### From documents to values -/

theorem toValues_toDocs {depth : ℕ} {items : List Value}
    (h : ∀ v ∈ items, v.toDoc.toValue depth = .ok v) :
    Doc.toValues depth (toDocs items) = .ok items := by
  induction items with
  | nil => rfl
  | cons v rest ih =>
    obtain ⟨hv, hrest⟩ := List.forall_mem_cons.1 h
    rw [toDocs, Doc.toValues, hv, ih hrest]
    rfl

theorem toEntries_toMembers {depth : ℕ} {members : List (String × Value)}
    (h : ∀ m ∈ members, m.2.toDoc.toValue depth = .ok m.2) (read : Table Value)
    (hasc : Entries.Ascending (read.entries ++ members)) :
    Doc.toEntries depth (toMembers members) read.entries = .ok (read.entries ++ members) := by
  rw [← Table.entries_foldl_insert read hasc]
  clear hasc
  induction members generalizing read with
  | nil => rfl
  | cons m rest ih =>
    obtain ⟨k, v⟩ := m
    obtain ⟨hv, hrest⟩ := List.forall_mem_cons.1 h
    have hstep : Doc.toEntries depth (toMembers ((k, v) :: rest)) read.entries =
        Doc.toEntries depth (toMembers rest) (read.insert k v).entries := by
      change (v.toDoc.toValue depth >>= fun v => _) = _
      rw [hv]
      rfl
    rw [hstep]
    exact ih hrest _

theorem Proper.toValue_toDoc {depth : ℕ} {v : Value} (h : v.Proper depth) :
    v.toDoc.toValue depth = .ok v := by
  induction h with
  | null => rfl
  | bool b => rfl
  | number hn => rfl
  | text s => rfl
  | @list depth items _ ih =>
    have hdepth : ¬depth + 2 ≤ 1 := by omega
    rw [toDoc, Doc.toValue, if_neg hdepth]
    change (Doc.toValues (depth + 1) _ >>= _) = _
    rw [toValues_toDocs ih]
    rfl
  | @object depth members hasc _ ih =>
    have hdepth : ¬depth + 2 ≤ 1 := by omega
    rw [toDoc, Doc.toValue, if_neg hdepth]
    change (Doc.toEntries (depth + 1) _ (∅ : Table Value).entries >>= _) = _
    rw [toEntries_toMembers ih ∅ hasc]
    rfl

/-- A written value is read back, with its reals as their texts are read. -/
theorem Proper.front_write {v : Value} (h : v.Proper depthLimit) :
    Reader.whole.front v.write = .ok v.reread := by
  rw [Reader.front, h.ofText_write]
  exact h.reread.toValue_toDoc

/-! ### Values with given members -/

theorem proper_real (depth : ℕ) (x : Float) : Proper depth (.real x) := by
  rw [real]
  split
  · rename_i h
    exact .number h
  · exact .null

theorem proper_ofMembers {depth : ℕ} {members : List (String × Value)}
    (h : ∀ m ∈ members, Proper (depth + 1) m.2) : Proper (depth + 2) (ofMembers members) := by
  have key (l : List (String × Value)) (hasc : Entries.Ascending l)
      (hl : ∀ m ∈ l, Proper (depth + 1) m.2) :
      Proper (depth + 2)
        (.object (members.foldl (fun l m => Entries.insert m.1 m.2 l) l)) := by
    induction members generalizing l with
    | nil => exact .object hasc hl
    | cons m rest ih =>
      obtain ⟨hm, hrest⟩ := List.forall_mem_cons.1 h
      refine ih hrest _ (Entries.ascending_insert m.1 m.2 hasc) fun m' hm' => ?_
      rcases Entries.mem_insert hm' with rfl | hm'
      · exact hm
      · exact hl m' hm'
  exact key [] .nil (List.forall_mem_nil _)

theorem reread_ofMembers (members : List (String × Value)) :
    (ofMembers members).reread = ofMembers (members.map fun m => (m.1, m.2.reread)) := by
  rw [ofMembers, ofMembers, reread, rereadMembers_eq, List.foldl_map]
  congr 1
  suffices h : ∀ before : List (String × Value),
      (members.foldl (fun l m => Entries.insert m.1 m.2 l) before).map
        (fun m => (m.1, m.2.reread)) =
      members.foldl (fun l m => Entries.insert m.1 m.2.reread l)
        (before.map fun m => (m.1, m.2.reread)) from h []
  induction members with
  | nil => exact fun _ => rfl
  | cons m rest ih =>
    intro before
    rw [List.foldl_cons, List.foldl_cons, ih, Entries.map_insert]

/-- A member is found under its key if no key is given twice. -/
theorem get?_ofMembers {members : List (String × Value)} {k : String} {v : Value}
    (h : (k, v) ∈ members) (hnodup : (members.map (·.1)).Nodup) :
    (ofMembers members).get? k = some v := by
  rw [ofMembers, get?]
  generalize ([] : List (String × Value)) = before
  induction members generalizing before with
  | nil => exact absurd h List.not_mem_nil
  | cons m rest ih =>
    obtain ⟨hm, hnodup⟩ := List.nodup_cons.1 hnodup
    rcases List.mem_cons.1 h with rfl | h
    · rw [List.foldl_cons, Entries.get?_foldl_insert hm, Entries.get?_insert, if_pos rfl]
    · exact ih h hnodup _

end Value

end TokenTariff.Json
