import Mathlib
import TokenTariff.Proofs.Json.Grammar
import TokenTariff.Proofs.Json.Lexing

/-!
# Lexemes read

Every lexeme of the grammar is read as its token. A lexeme other than a number is over with its last
character. A number is over with the character after it, so the tokens of a text are those of its
lexemes only where no two numbers stand side by side; in a value they never do.
-/

namespace TokenTariff.Json

namespace Lexer

def tokens (l : Lexer) (cs : List Char) : List Token := (l.reads cs).1 ++ (l.reads cs).2.finish

theorem run_eq_tokens (cs : List Char) : Scan.run cs = between.tokens cs := run_eq cs

theorem tokens_append_of_reads {l l' : Lexer} {cs : List Char} {ts : List Token}
    (h : l.reads cs = (ts, l')) (ds : List Char) : l.tokens (cs ++ ds) = ts ++ l'.tokens ds := by
  simp [tokens, reads_append, h]

/-! ### Blanks and numerals -/

theorem step_between_space {c : Char} (h : IsSpace c) : between.step c = ([], between) := by
  rcases h with rfl | rfl | rfl | rfl <;> rfl

theorem reads_spaces {ss : List Char} (h : IsSpaces ss) : between.reads ss = ([], between) := by
  induction ss with
  | nil => rfl
  | cons c ss ih =>
    rw [reads_cons_of_silent (step_between_space (h c List.mem_cons_self))]
    exact ih fun d hd => h d (List.mem_cons_of_mem _ hd)

/-- The machine stands behind a numeral that may end there, and that may still go on. -/
def Behind (l : Lexer) (n : Numeral) : Prop := ∃ stage, isWhole stage = true ∧ l = numeral stage n

/-- A character that no numeral goes on with. -/
def Parts (c : Char) : Prop := c.isDigit = false ∧ c ≠ '.' ∧ c ≠ 'e' ∧ c ≠ 'E'

theorem parts_of_isSpace {c : Char} (h : IsSpace c) : Parts c := by
  rcases h with rfl | rfl | rfl | rfl <;> exact ⟨rfl, by decide, by decide, by decide⟩

theorem Behind.step_eq {l : Lexer} {n : Numeral} (h : Behind l n) {c : Char} (hc : Parts c) :
    l.step c = (.number n :: (between.step c).1, (between.step c).2) := by
  obtain ⟨stage, hwhole, rfl⟩ := h
  obtain ⟨hdigit, hpoint, he, hE⟩ := hc
  change numeralStep stage n c = endNumeral n c
  cases stage with
  | sign | point | mark | markSign => exact absurd hwhole Bool.false_ne_true
  | zero | whole | places | power => simp [numeralStep, afterWhole, hdigit, hpoint, he, hE]

theorem Behind.tokens_nil {l : Lexer} {n : Numeral} (h : Behind l n) :
    l.tokens [] = [.number n] := by
  obtain ⟨stage, hwhole, rfl⟩ := h
  simp [tokens, finish, hwhole]

/-- A numeral is over where a character stands that it cannot go on with. -/
theorem Behind.tokens_cons {l : Lexer} {n : Numeral} (h : Behind l n) {c : Char} (hc : Parts c)
    (cs : List Char) : l.tokens (c :: cs) = .number n :: between.tokens (c :: cs) := by
  simp only [tokens, reads_cons, h.step_eq hc, List.cons_append, List.append_assoc]

theorem reads_isWhole (negative : Bool) {ds : List Char} (h : IsWhole ds) :
    ∃ stage, (stage = .zero ∨ stage = .whole) ∧ between.reads (signChars negative ++ ds) =
      ([], numeral stage { negative, mantissa := digitsValue ds }) := by
  have hopen : between.reads (signChars negative) = ([], opening negative) := by
    cases negative <;> rfl
  rw [reads_append_of_silent hopen]
  obtain ⟨⟨hne, hd⟩, hzero⟩ := h
  obtain ⟨c, cs, rfl⟩ := List.exists_cons_of_ne_nil hne
  by_cases hc : c = '0'
  · subst hc
    obtain rfl : cs = [] := by simpa using hzero rfl
    refine ⟨.zero, .inl rfl, ?_⟩
    rw [reads_cons_of_silent (step_opening_zero negative)]
    rfl
  · refine ⟨.whole, .inr rfl, ?_⟩
    rw [reads_cons_of_silent (step_opening_digit negative (hd c List.mem_cons_self) hc),
      reads_whole _ fun d h => hd d (List.mem_cons_of_mem _ h)]
    simp [digitsValue, Nat.ofDigitChars_cons]

theorem reads_positional {n : Numeral} {cs : List Char} (h : Positional n cs) :
    ∃ l, between.reads cs = ([], l) ∧ Behind l n ∧ n.exponent = 0 ∧
      ∀ e, e = 'e' ∨ e = 'E' → l.step e = ([], numeral .mark { n with whole := false }) := by
  cases h with
  | whole negative hw =>
    obtain ⟨stage, hstage, hreads⟩ := reads_isWhole negative hw
    refine ⟨_, hreads, ⟨stage, ?_, rfl⟩, rfl, ?_⟩
    · rcases hstage with rfl | rfl <;> rfl
    · rcases hstage with rfl | rfl <;> rintro e (rfl | rfl) <;> rfl
  | @places negative ds es hw he =>
    obtain ⟨stage, hstage, hreads⟩ := reads_isWhole negative hw
    refine ⟨_, ?_, ⟨.places, rfl, rfl⟩, rfl, ?_⟩
    · have hpoint : ∀ n,
          (numeral stage n).step '.' = ([], numeral .point { n with whole := false }) := by
        rcases hstage with rfl | rfl <;> exact fun _ => rfl
      rw [reads_append_of_silent hreads, reads_cons_of_silent (hpoint _), reads_point _ he.1 he.2]
      simp [digitsValue, Nat.ofDigitChars_append]
    · rintro e (rfl | rfl) <;> rfl

/-- A sign that says "up" may be left out. -/
theorem reads_mark (n : Numeral) {ds : List Char} (hd : IsDigits ds) :
    (numeral .mark n).reads ds = (numeral (.markSign false) n).reads ds := by
  obtain ⟨c, cs, rfl⟩ := List.exists_cons_of_ne_nil hd.1
  have hc : c.isDigit = true := hd.2 c List.mem_cons_self
  have hplus : c ≠ '+' := by
    rintro rfl
    cases hc
  have hminus : c ≠ '-' := by
    rintro rfl
    cases hc
  simp [reads_cons, step, numeralStep, hplus, hminus, hc]

theorem reads_powerMark {l : Lexer} {n : Numeral} (hn : n.exponent = 0)
    (hl : ∀ e, e = 'e' ∨ e = 'E' → l.step e = ([], numeral .mark { n with whole := false }))
    {down : Bool} {ms ds : List Char} (hm : PowerMark down ms) (hd : IsDigits ds) :
    l.reads (ms ++ ds) = ([], numeral (.power down) (withPower n down ds)) := by
  have hsigned : ∀ down, (numeral (.markSign down) { n with whole := false }).reads ds =
      ([], numeral (.power down) (withPower n down ds)) := fun down => by
    rw [reads_markSign down { n with whole := false } hn hd.1 hd.2]
    rfl
  cases hm with
  | bare he =>
    rw [List.singleton_append, reads_cons_of_silent (hl _ he), reads_mark _ hd]
    exact hsigned false
  | signed _ he =>
    have hsign : (numeral .mark { n with whole := false }).step (if down then '-' else '+') =
        ([], numeral (.markSign down) { n with whole := false }) := by
      cases down <;> rfl
    rw [List.cons_append, List.singleton_append, reads_cons_of_silent (hl _ he),
      reads_cons_of_silent hsign]
    exact hsigned down

theorem reads_isNumeral {n : Numeral} {cs : List Char} (h : IsNumeral n cs) :
    ∃ l, between.reads cs = ([], l) ∧ Behind l n := by
  cases h with
  | positional hp =>
    obtain ⟨l, hreads, hbehind, -⟩ := reads_positional hp
    exact ⟨l, hreads, hbehind⟩
  | scientific hp hm hd =>
    obtain ⟨l, hreads, -, hexp, hmark⟩ := reads_positional hp
    rw [List.append_assoc, reads_append_of_silent hreads, reads_powerMark hexp hmark hm hd]
    exact ⟨_, rfl, _, rfl, rfl⟩

/-! ### Quoted texts -/

/-- What has been read of a quoted text after one more piece. -/
def addPiece (q : OpenText) : Piece → OpenText
  | .char c => q.unpaired.push c
  | .unit u => q.pushCode u

theorem escaped?_eq_some_iff {c d : Char} : escaped? c = some d ↔ (c, d) ∈ Piece.escapes := by
  constructor
  · intro h
    unfold escaped? at h
    split at h <;> cases h <;> decide
  · intro h
    simp only [Piece.escapes, List.mem_cons, Prod.mk.injEq, List.not_mem_nil, or_false] at h
    rcases h with ⟨rfl, rfl⟩ | ⟨rfl, rfl⟩ | ⟨rfl, rfl⟩ | ⟨rfl, rfl⟩ | ⟨rfl, rfl⟩ | ⟨rfl, rfl⟩ |
      ⟨rfl, rfl⟩ | ⟨rfl, rfl⟩ <;> rfl

theorem utf8Size_of_hexDigit? {c : Char} {v : ℕ} (h : hexDigit? c = some v) : c.utf8Size = 1 := by
  have hle : c ≤ 'f' := by
    unfold hexDigit? at h
    split_ifs at h with hdigit hsmall hlarge
    · exact le_trans hdigit.2 (by decide)
    · exact hsmall.2
    · exact le_trans hlarge.2 (by decide)
  have hval : c.val ≤ 'f'.val := hle
  have hbyte : c.val ≤ 0x7F := UInt32.le_trans hval (by decide)
  exact if_pos hbyte

theorem reads_piece (q : OpenText) {p : Piece} {cs : List Char} (h : p.Written cs) :
    (text q).reads cs = ([], text (addPiece q p)) := by
  cases h with
  | plain hc hq hb =>
    have hcontrol : ¬ _ := Nat.not_lt.2 hc
    simp [reads_cons, step, textStep, hq, hb, hcontrol, addPiece]
  | @letter c d hmem =>
    have hu : c ≠ 'u' := by
      rintro rfl
      revert hmem
      simp [Piece.escapes]
    simp [reads_cons, step, textStep, escapeStep, hu, escaped?_eq_some_iff.2 hmem, addPiece]
  | code ha hb hc hd =>
    simp [reads_cons, step, textStep, escapeStep, codeStep, ha, hb, hc, hd,
      utf8Size_of_hexDigit? ha, utf8Size_of_hexDigit? hb, utf8Size_of_hexDigit? hc,
      utf8Size_of_hexDigit? hd, addPiece]

theorem reads_pieces (q : OpenText) {ps : List Piece} {css : List (List Char)}
    (h : List.Forall₂ Piece.Written ps css) :
    (text q).reads css.flatten = ([], text (ps.foldl addPiece q)) := by
  induction h generalizing q with
  | nil => rfl
  | cons hp _ ih =>
    rw [List.flatten_cons, reads_append_of_silent (reads_piece q hp), ih]
    rfl

theorem pushCode_of_none {q : OpenText} (h : q.high = none) (u : ℕ) :
    q.pushCode u =
      if Piece.IsLow u then q.blame .loneSurrogate
      else if Piece.IsHigh u then { q with high := some u } else q.push (Char.ofNat u) := by
  rw [OpenText.pushCode, h]
  rfl

theorem pushCode_of_some {q : OpenText} {high : ℕ} (h : q.high = some high) (u : ℕ) :
    q.pushCode u =
      if Piece.IsLow u then { q with high := none }.push (Piece.paired high u)
      else { q.blame .loneSurrogate with high := none } := by
  rw [OpenText.pushCode, h]
  rfl

theorem addPiece_high (cs : List Char) {u : ℕ} (hlow : ¬Piece.IsLow u) (hhigh : Piece.IsHigh u) :
    addPiece { chars := cs } (.unit u) = { chars := cs, high := some u } := by
  rw [addPiece, pushCode_of_none rfl, if_neg hlow, if_pos hhigh]

theorem fault_blame {q : OpenText} {f : Fault} (h : q.fault = some f) (g : Fault) :
    (q.blame g).fault = some f := by
  simp [OpenText.blame, h]

theorem fault_unpaired {q : OpenText} {f : Fault} (h : q.fault = some f) :
    q.unpaired.fault = some f := by
  unfold OpenText.unpaired
  split
  · exact fault_blame h _
  · exact h

theorem fault_addPiece {q : OpenText} {f : Fault} (h : q.fault = some f) (p : Piece) :
    (addPiece q p).fault = some f := by
  cases p with
  | char c => exact fault_unpaired h
  | unit u =>
    simp only [addPiece, OpenText.pushCode]
    split
    · split
      · exact h
      · exact fault_blame h _
    · split
      · exact fault_blame h _
      · split <;> exact h

/-- The first fault of a quoted text stays. -/
theorem finish_of_fault {q : OpenText} {f : Fault} (h : q.fault = some f) (ps : List Piece) :
    (ps.foldl addPiece q).finish = .text (.error f) := by
  induction ps generalizing q with
  | nil => simp [OpenText.finish, fault_unpaired h]
  | cons p ps ih => exact ih (fault_addPiece h p)

/-- A character more, before what is behind or after what is before. -/
theorem map_reverse_cons (c : Char) (cs : List Char) (x : Except Fault (List Char)) :
    ((x.map (c :: ·)).map fun ds => String.ofList (cs.reverse ++ ds)) =
      x.map fun ds => String.ofList ((c :: cs).reverse ++ ds) := by
  cases x <;> simp [Except.map]

theorem finish_addPieces (ps : List Piece) (cs : List Char) :
    (ps.foldl addPiece { chars := cs }).finish =
      .text ((Piece.joined ps).map fun ds => String.ofList (cs.reverse ++ ds)) := by
  induction ps using Piece.joined.induct generalizing cs with
  | case1 => simp [OpenText.finish, OpenText.unpaired, Piece.joined, Except.map]
  | case2 c ps ih =>
    have hadd : addPiece { chars := cs } (.char c) = { chars := c :: cs } := rfl
    rw [List.foldl_cons, hadd, ih, Piece.joined, map_reverse_cons]
  | case3 u ps hlow =>
    have hadd : (addPiece { chars := cs } (.unit u)).fault = some .loneSurrogate := by
      rw [addPiece, pushCode_of_none rfl, if_pos hlow]
      rfl
    rw [List.foldl_cons, finish_of_fault hadd, Piece.joined.eq_def]
    simp [hlow, Except.map]
  | case4 u hlow hhigh v ps hlow' ih =>
    have hadd : addPiece { chars := cs, high := some u } (.unit v) =
        { chars := Piece.paired u v :: cs } := by
      rw [addPiece, pushCode_of_some rfl, if_pos hlow']
      rfl
    rw [List.foldl_cons, List.foldl_cons, addPiece_high cs hlow hhigh, hadd, ih, Piece.joined,
      if_neg hlow, if_pos hhigh, if_pos hlow', map_reverse_cons]
  | case5 u hlow hhigh v ps hlow' =>
    have hadd : (addPiece { chars := cs, high := some u } (.unit v)).fault =
        some .loneSurrogate := by
      rw [addPiece, pushCode_of_some rfl, if_neg hlow']
      rfl
    rw [List.foldl_cons, List.foldl_cons, addPiece_high cs hlow hhigh, finish_of_fault hadd,
      Piece.joined, if_neg hlow, if_pos hhigh, if_neg hlow']
    rfl
  | case6 u ps hlow hhigh hps =>
    rw [List.foldl_cons, addPiece_high cs hlow hhigh]
    cases ps with
    | nil =>
      simp [OpenText.finish, OpenText.unpaired, OpenText.blame, Piece.joined, hlow, hhigh,
        Except.map]
    | cons p ps =>
      cases p with
      | unit v => exact absurd rfl (hps v ps)
      | char c =>
        have hfault : (addPiece { chars := cs, high := some u } (.char c)).fault =
            some .unpairedSurrogate := rfl
        rw [List.foldl_cons, finish_of_fault hfault, Piece.joined.eq_def]
        simp [hlow, hhigh, Except.map]
  | case7 u ps hlow hhigh ih =>
    have hadd : addPiece { chars := cs } (.unit u) = { chars := Char.ofNat u :: cs } := by
      rw [addPiece, pushCode_of_none rfl, if_neg hlow, if_neg hhigh]
      rfl
    have hjoined : Piece.joined (.unit u :: ps) = (Piece.joined ps).map (Char.ofNat u :: ·) := by
      rw [Piece.joined.eq_def]
      simp only [if_neg hlow, if_neg hhigh]
    rw [List.foldl_cons, hadd, ih, hjoined, map_reverse_cons]

theorem reads_quotes {s : Except Fault String} {cs : List Char} (h : Quotes s cs) :
    between.reads cs = ([.text s], between) := by
  obtain ⟨ps, css, hps, rfl, rfl⟩ := h
  have hopen : between.step '"' = ([], text {}) := rfl
  have hclose : ∀ q : OpenText, (text q).reads ['"'] = ([q.finish], between) := fun _ => rfl
  rw [reads_cons_of_silent hopen, reads_append_of_silent (reads_pieces {} hps), hclose,
    finish_addPieces]
  rfl

/-! ### Lexemes -/

def IsNumber (t : Token) : Prop := ∃ n, t = .number n

theorem reads_lexeme {t : Token} {cs : List Char} (h : Lexeme t cs) (ht : ¬IsNumber t) :
    between.reads cs = ([t], between) := by
  cases h with
  | number => exact absurd ⟨_, rfl⟩ ht
  | text hq => exact reads_quotes hq
  | _ => rfl

/-- No lexeme but a number begins with a character that a numeral could go on with. -/
theorem parts_of_lexeme {t : Token} {cs : List Char} (h : Lexeme t cs) (ht : ¬IsNumber t) :
    ∃ c ds, cs = c :: ds ∧ Parts c := by
  cases h with
  | number => exact absurd ⟨_, rfl⟩ ht
  | text hq =>
    obtain ⟨_, css, -, -, rfl⟩ := hq
    exact ⟨_, _, rfl, rfl, by decide, by decide, by decide⟩
  | _ => exact ⟨_, _, rfl, rfl, by decide, by decide, by decide⟩

/-- No two numbers stand side by side. -/
def Parted (ts : List Token) : Prop := ts.IsChain fun t u => ¬(IsNumber t ∧ IsNumber u)

/-- A numeral is over before blanks and whatever follows them, if that is no numeral. -/
theorem Behind.tokens_lexes {l : Lexer} {n : Numeral} (h : Behind l n) {ts : List Token}
    {cs ss : List Char} (hlex : Lexes ts cs) (hs : IsSpaces ss)
    (hts : ∀ t ∈ ts.head?, ¬IsNumber t) :
    l.tokens (cs ++ ss) = .number n :: between.tokens (cs ++ ss) := by
  have hhead : cs ++ ss = [] ∨ ∃ c ds, cs ++ ss = c :: ds ∧ Parts c := by
    cases hlex with
    | nil =>
      cases ss with
      | nil => exact .inl rfl
      | cons c ds => exact .inr ⟨c, ds, rfl, parts_of_isSpace (hs c List.mem_cons_self)⟩
    | @cons t ts ss' cs rest hs' ht _ =>
      cases ss' with
      | cons c ds => exact .inr ⟨c, _, rfl, parts_of_isSpace (hs' c List.mem_cons_self)⟩
      | nil =>
        obtain ⟨c, ds, rfl, hc⟩ := parts_of_lexeme ht (hts t rfl)
        exact .inr ⟨c, _, rfl, hc⟩
  rcases hhead with hnil | ⟨c, ds, hcons, hc⟩
  · rw [hnil, h.tokens_nil]
    rfl
  · rw [hcons, h.tokens_cons hc]

/-- The tokens of lexemes are read off their text, if no two numbers stand side by side. -/
theorem tokens_lexes {ts : List Token} {cs ss : List Char} (h : Lexes ts cs) (hs : IsSpaces ss)
    (hts : Parted ts) : between.tokens (cs ++ ss) = ts := by
  induction h with
  | nil => simp [tokens, reads_spaces hs, finish]
  | @cons t ts ss' cs rest hs' ht hrest ih =>
    have hih := ih (List.IsChain.tail hts)
    rw [List.append_assoc, List.append_assoc, tokens_append_of_reads (reads_spaces hs'),
      List.nil_append]
    by_cases hn : IsNumber t
    · obtain ⟨n, rfl⟩ := hn
      cases ht with
      | number hnum =>
        obtain ⟨l, hreads, hbehind⟩ := reads_isNumeral hnum
        have hhead : ∀ u ∈ ts.head?, ¬IsNumber u := by
          rintro u hu hun
          cases ts with
          | nil => cases hu
          | cons v ts =>
            cases hu
            exact (List.isChain_cons_cons.1 hts).1 ⟨⟨n, rfl⟩, hun⟩
        rw [tokens_append_of_reads hreads, hbehind.tokens_lexes hrest hs hhead, hih]
        rfl
    · rw [tokens_append_of_reads (reads_lexeme ht hn), hih]
      rfl

end Lexer

end TokenTariff.Json
