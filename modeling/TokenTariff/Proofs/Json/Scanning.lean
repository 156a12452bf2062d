import Mathlib
import TokenTariff.Proofs.Json.Lexemes

/-!
# Nothing but lexemes is read

The machine keeps track of the characters since the last token it put out: they are blanks and the
beginning of a lexeme. So when it comes to the end of a text without a broken token, the text is
made of lexemes, and they are those of the tokens.
-/

namespace TokenTariff.Json

def Token.IsBroken : Token → Prop
  | .brokenText .. | .broken .. => True
  | _ => False

namespace Lexer

/-! ### Beginnings -/

/-- What has been read of a numeral at a stage. -/
inductive Begun : Stage → Numeral → List Char → Prop
  | sign : Begun .sign { negative := true } ['-']
  | zero (negative : Bool) : Begun .zero { negative } (signChars negative ++ ['0'])
  | whole (negative : Bool) {ds : List Char} : IsWhole ds → ds ≠ ['0'] →
      Begun .whole { negative, mantissa := digitsValue ds } (signChars negative ++ ds)
  | point (negative : Bool) {ds : List Char} : IsWhole ds →
      Begun .point { negative, mantissa := digitsValue ds, whole := false }
        (signChars negative ++ ds ++ ['.'])
  | places (negative : Bool) {ds es : List Char} : IsWhole ds → IsDigits es →
      Begun .places
        { negative, mantissa := digitsValue (ds ++ es), places := es.length, whole := false }
        (signChars negative ++ ds ++ '.' :: es)
  | mark {n : Numeral} {cs : List Char} {e : Char} : Positional n cs → e = 'e' ∨ e = 'E' →
      Begun .mark { n with whole := false } (cs ++ [e])
  | markSign {n : Numeral} {cs ms : List Char} {down : Bool} : Positional n cs →
      PowerMark down ms → Begun (.markSign down) { n with whole := false } (cs ++ ms)
  | power {n : Numeral} {cs ms ds : List Char} {down : Bool} : Positional n cs →
      PowerMark down ms → IsDigits ds → Begun (.power down) (withPower n down ds) (cs ++ ms ++ ds)

theorem isWhole_singleton {c : Char} (hc : c.isDigit = true) : IsWhole [c] :=
  ⟨isDigits_singleton hc, by simp⟩

theorem isWhole_concat {ds : List Char} (h : IsWhole ds) (h0 : ds ≠ ['0']) {c : Char}
    (hc : c.isDigit = true) : IsWhole (ds ++ [c]) := by
  obtain ⟨d, es, rfl⟩ := List.exists_cons_of_ne_nil h.1.1
  refine ⟨h.1.append (by simpa using hc), fun hd => ?_⟩
  exact absurd (h.2 hd) h0

theorem positional_of_begun {stage : Stage} {n : Numeral} {cs : List Char} (h : Begun stage n cs)
    (hstage : stage = .zero ∨ stage = .whole ∨ stage = .places) : Positional n cs := by
  cases h with
  | zero negative => exact .whole negative (isWhole_singleton (c := '0') rfl)
  | whole negative hw _ => exact .whole negative hw
  | places negative hw he => exact .places negative hw he
  | _ => simp at hstage

theorem isNumeral_of_begun {stage : Stage} {n : Numeral} {cs : List Char} (h : Begun stage n cs)
    (hwhole : isWhole stage = true) : IsNumeral n cs := by
  cases stage with
  | zero | whole | places => exact .positional (positional_of_begun h (by simp))
  | power down =>
    cases h with
    | power hp hm hd => exact .scientific hp hm hd
  | _ => cases hwhole

theorem begun_digit_places (negative : Bool) {ds es : List Char} (hw : IsWhole ds)
    (he : ∀ c ∈ es, c.isDigit = true) {c : Char} (hc : c.isDigit = true) :
    Begun .places
      { negative, mantissa := digitsValue (ds ++ es) * 10 + (c.toNat - '0'.toNat)
        places := es.length + 1, whole := false }
      (signChars negative ++ ds ++ '.' :: es ++ [c]) := by
  have hdigits : IsDigits (es ++ [c]) :=
    ⟨by simp, by simpa [or_imp, forall_and] using ⟨he, hc⟩⟩
  have h := Begun.places negative hw hdigits
  rw [← List.append_assoc ds, digitsValue_concat] at h
  simpa using h

theorem withPower_digit (n : Numeral) (down : Bool) (ds : List Char) (c : Char) :
    addPower down (withPower n down ds) c = withPower n down (ds ++ [c]) := by
  cases down with
  | false => simp [addPower, withPower, digitsValue_concat]
  | true =>
    simp only [addPower, withPower, digitsValue_concat, if_true, Nat.cast_add, Nat.cast_mul]
    congr 1
    ring

theorem exponent_of_positional {n : Numeral} {cs : List Char} (h : Positional n cs) :
    n.exponent = 0 := by
  cases h <;> rfl

theorem withPower_digit_of_none {n : Numeral} (h : n.exponent = 0) (down : Bool) (c : Char) :
    addPower down { n with whole := false } c = withPower n down [c] := by
  cases down <;> simp [addPower, withPower, h, digitsValue, Nat.ofDigitChars_cons]

/-- A digit goes on with every numeral but a zero. -/
theorem begun_digit {stage : Stage} {n : Numeral} {cs : List Char} (h : Begun stage n cs)
    (hstage : stage ≠ .zero) {c : Char} (hc : c.isDigit = true) :
    ∃ stage' n', numeralStep stage n c = ([], numeral stage' n') ∧ Begun stage' n' (cs ++ [c]) := by
  cases h with
  | sign =>
    by_cases h0 : c = '0'
    · subst h0
      exact ⟨_, _, rfl, .zero true⟩
    · refine ⟨_, _, ?_, .whole true (isWhole_singleton hc) (by simpa using h0)⟩
      simp [numeralStep, h0, hc, addDigit, digitsValue, Nat.ofDigitChars_cons]
  | zero => exact absurd rfl hstage
  | @whole negative ds hw h0 =>
    have hne : ds ++ [c] ≠ ['0'] := by
      obtain ⟨d, es, rfl⟩ := List.exists_cons_of_ne_nil hw.1.1
      simp
    rw [List.append_assoc]
    refine ⟨_, _, ?_, .whole negative (isWhole_concat hw h0 hc) hne⟩
    simp [numeralStep, hc, addDigit, digitsValue_concat]
  | point negative hw =>
    have hnone : ∀ c ∈ ([] : List Char), c.isDigit = true := List.forall_mem_nil _
    have h := begun_digit_places negative hw hnone hc
    refine ⟨_, _, ?_, by simpa using h⟩
    simp [numeralStep, hc, addDigit]
  | places negative hw he =>
    refine ⟨_, _, ?_, begun_digit_places negative hw he.2 hc⟩
    simp [numeralStep, hc, addDigit]
  | @mark n cs e hp he =>
    have hplus : c ≠ '+' := by
      rintro rfl
      cases hc
    have hminus : c ≠ '-' := by
      rintro rfl
      cases hc
    refine ⟨_, _, ?_, .power hp (.bare he) (isDigits_singleton hc)⟩
    simp [numeralStep, hc, hplus, hminus, withPower_digit_of_none (exponent_of_positional hp)]
  | @markSign n cs ms down hp hm =>
    refine ⟨_, _, ?_, .power hp hm (isDigits_singleton hc)⟩
    simp [numeralStep, hc, withPower_digit_of_none (exponent_of_positional hp)]
  | power hp hm hd =>
    rw [List.append_assoc]
    refine ⟨_, _, ?_, .power hp hm (hd.append (by simpa using hc))⟩
    simp [numeralStep, hc, withPower_digit]

/-- The character goes on with the numeral, or it stands behind it, or it breaks it. -/
def Continues (stage : Stage) (n : Numeral) (cs : List Char) (c : Char) : Prop :=
  numeralStep stage n c = badNumeral ∨
    (∃ stage' n', numeralStep stage n c = ([], numeral stage' n') ∧ Begun stage' n' (cs ++ [c])) ∨
    IsNumeral n cs ∧ numeralStep stage n c = endNumeral n c

theorem continues_of_whole {stage : Stage} {negative : Bool} {ds : List Char} (hw : IsWhole ds)
    {c : Char} (h : numeralStep stage { negative, mantissa := digitsValue ds } c =
      afterWhole { negative, mantissa := digitsValue ds } c) :
    Continues stage { negative, mantissa := digitsValue ds } (signChars negative ++ ds) c := by
  unfold Continues
  rw [h, afterWhole]
  by_cases hpoint : c = '.'
  · rw [if_pos hpoint, hpoint]
    exact .inr (.inl ⟨_, _, rfl, .point negative hw⟩)
  rw [if_neg hpoint]
  by_cases he : c = 'e' ∨ c = 'E'
  · rw [if_pos he]
    exact .inr (.inl ⟨_, _, rfl, .mark (.whole negative hw) he⟩)
  · rw [if_neg he]
    exact .inr (.inr ⟨.positional (.whole negative hw), rfl⟩)

theorem begun_continues {stage : Stage} {n : Numeral} {cs : List Char} (h : Begun stage n cs)
    (c : Char) : Continues stage n cs c := by
  by_cases hc : c.isDigit = true
  · by_cases hstage : stage = .zero
    · subst hstage
      exact .inl (by simp [numeralStep, hc])
    · exact .inr (.inl (begun_digit h hstage hc))
  have h0 : c ≠ '0' := by
    rintro rfl
    exact hc rfl
  cases h with
  | sign => exact .inl (by simp [numeralStep, hc, h0])
  | point => exact .inl (by simp [numeralStep, hc])
  | markSign => exact .inl (by simp [numeralStep, hc])
  | zero negative =>
    exact continues_of_whole (isWhole_singleton (c := '0') rfl) (by simp [numeralStep, hc])
  | whole negative hw => exact continues_of_whole hw (by simp [numeralStep, hc])
  | places negative hw he =>
    by_cases hmark : c = 'e' ∨ c = 'E'
    · have hbegun := Begun.mark (.places negative hw he) hmark
      exact .inr (.inl ⟨_, _, by simp [numeralStep, hc, hmark], hbegun⟩)
    · exact .inr (.inr ⟨.positional (.places negative hw he), by simp [numeralStep, hc, hmark]⟩)
  | mark hp he =>
    by_cases hplus : c = '+'
    · subst hplus
      refine .inr (.inl ⟨_, _, rfl, ?_⟩)
      simpa using Begun.markSign hp (.signed false he)
    by_cases hminus : c = '-'
    · subst hminus
      refine .inr (.inl ⟨_, _, rfl, ?_⟩)
      simpa using Begun.markSign hp (.signed true he)
    · exact .inl (by simp [numeralStep, hc, hplus, hminus])
  | power hp hm hd => exact .inr (.inr ⟨.scientific hp hm hd, by simp [numeralStep, hc]⟩)

/-! ### What the machine has read -/

/-- The hexadecimal digits make up a number. -/
def IsHex (hs : List Char) (v : ℕ) : Prop :=
  ∃ vs, List.Forall₂ (fun h v => hexDigit? h = some v) hs vs ∧ v = vs.foldl (· * 16 + ·) 0

/-- The opening quote and the pieces after it leave this text open. -/
def Opens (q : OpenText) (cs : List Char) : Prop :=
  ∃ (ps : List Piece) (css : List (List Char)), List.Forall₂ Piece.Written ps css ∧
    q = ps.foldl addPiece {} ∧ cs = '"' :: css.flatten

/-- The beginning of a lexeme that the machine is in. A code that is lost is never finished. -/
inductive Within : Lexer → List Char → Prop
  | between : Within between []
  | word {next : Char} {later cs : List Char} {t : Token} :
      Lexeme t (cs ++ next :: later) → Within (word next later t) cs
  | numeral {stage : Stage} {n : Numeral} {cs : List Char} :
      Begun stage n cs → Within (numeral stage n) cs
  | text {q : OpenText} {cs : List Char} : Opens q cs → Within (text q) cs
  | escape {q : OpenText} {cs : List Char} : Opens q cs → Within (escape q) (cs ++ ['\\'])
  | code {q : OpenText} {cs hs : List Char} {v : ℕ} : Opens q cs → IsHex hs v → hs.length < 4 →
      Within (code hs.length (some v) q) (cs ++ '\\' :: 'u' :: hs)
  | lost {q : OpenText} {cs : List Char} {bytes : ℕ} : Within (code bytes none q) cs

/-- Blanks and the beginning of a lexeme, since the last token. -/
def Reading (l : Lexer) (cs : List Char) : Prop :=
  ∃ ss ds, IsSpaces ss ∧ cs = ss ++ ds ∧ Within l ds

/-- The tokens are those of lexemes, and the machine has read what follows them; or one of the
tokens is broken. -/
def Sound (cs : List Char) (out : List Token × Lexer) : Prop :=
  (∃ t ∈ out.1, t.IsBroken) ∨
    ∃ ds es, cs = ds ++ es ∧ Lexes out.1 ds ∧ Reading out.2 es

theorem Within.reading {l : Lexer} {cs : List Char} (h : Within l cs) : Reading l cs :=
  ⟨[], cs, List.forall_mem_nil _, rfl, h⟩

theorem sound_silent {l : Lexer} {ss cs : List Char} (hs : IsSpaces ss) (h : Within l cs) :
    Sound (ss ++ cs) ([], l) :=
  .inr ⟨[], _, rfl, .nil, ss, cs, hs, rfl, h⟩

theorem sound_token {t : Token} {ss cs : List Char} (hs : IsSpaces ss) (h : Lexeme t cs) :
    Sound (ss ++ cs) ([t], .between) :=
  .inr ⟨ss ++ cs, [], by simp, .single hs h, Within.between.reading⟩

theorem sound_broken {cs : List Char} {out : List Token × Lexer} {t : Token} (ht : t ∈ out.1)
    (hb : t.IsBroken) : Sound cs out := .inl ⟨t, ht, hb⟩

theorem sound_start {ss : List Char} (hs : IsSpaces ss) (c : Char) :
    Sound (ss ++ [c]) (start c) := by
  have hspace : IsSpace c → Sound (ss ++ [c]) ([], between) := fun hc => by
    simpa using sound_silent (hs.append (List.forall_mem_singleton.2 hc)) .between
  unfold start
  split
  · exact hspace (by simp [IsSpace])
  · exact hspace (by simp [IsSpace])
  · exact hspace (by simp [IsSpace])
  · exact hspace (by simp [IsSpace])
  · exact sound_token hs .openList
  · exact sound_token hs .closeList
  · exact sound_token hs .openObject
  · exact sound_token hs .closeObject
  · exact sound_token hs .colon
  · exact sound_token hs .comma
  · exact sound_silent hs (.text ⟨[], [], .nil, rfl, rfl⟩)
  · exact sound_silent hs (.word .null)
  · exact sound_silent hs (.word .true)
  · exact sound_silent hs (.word .false)
  · exact sound_silent hs (.numeral .sign)
  · exact sound_silent hs (.numeral (.zero false))
  · rename_i h0
    split_ifs with hc
    · refine sound_silent hs (.numeral ?_)
      have h := Begun.whole false (isWhole_singleton hc) (by simpa using h0)
      simpa [digitsValue, Nat.ofDigitChars_cons, signChars] using h
    · exact sound_broken (List.mem_singleton_self _) trivial

theorem sound_numeral {stage : Stage} {n : Numeral} {ss cs : List Char} (hs : IsSpaces ss)
    (h : Begun stage n cs) (c : Char) : Sound (ss ++ (cs ++ [c])) (numeralStep stage n c) := by
  rcases begun_continues h c with hstep | ⟨stage', n', hstep, hbegun⟩ | ⟨hnum, hstep⟩
  · rw [hstep]
    exact sound_broken (List.mem_singleton_self _) trivial
  · rw [hstep]
    exact sound_silent hs (.numeral hbegun)
  · rw [hstep]
    -- the character after a number is read as if nothing stood before it
    rcases sound_start (List.forall_mem_nil _) c with ⟨t, ht, hb⟩ | ⟨ds, es, hsplit, hlex, hread⟩
    · exact sound_broken (List.mem_cons_of_mem _ ht) hb
    · refine .inr ⟨ss ++ (cs ++ ds), es, ?_, .cons hs (.number hnum) hlex, hread⟩
      rw [List.nil_append] at hsplit
      rw [hsplit]
      simp

theorem Opens.piece {q : OpenText} {cs ds : List Char} (h : Opens q cs) {p : Piece}
    (hp : p.Written ds) : Opens (addPiece q p) (cs ++ ds) := by
  obtain ⟨ps, css, hps, rfl, rfl⟩ := h
  exact ⟨ps ++ [p], css ++ [ds], List.rel_append hps (.cons hp .nil), by simp, by simp⟩

theorem Opens.quotes {q : OpenText} {cs : List Char} (h : Opens q cs) :
    ∃ s, q.finish = .text s ∧ Quotes s (cs ++ ['"']) := by
  obtain ⟨ps, css, hps, rfl, rfl⟩ := h
  exact ⟨_, finish_addPieces ps [], ps, css, hps, rfl, rfl⟩

theorem sound_text {q : OpenText} {ss cs : List Char} (hs : IsSpaces ss) (h : Opens q cs)
    (c : Char) : Sound (ss ++ (cs ++ [c])) (textStep q c) := by
  unfold textStep
  split_ifs with hback hquote hcontrol
  · subst hback
    exact sound_silent hs (.escape h)
  · subst hquote
    obtain ⟨s, hfinish, hquotes⟩ := h.quotes
    rw [hfinish]
    exact sound_token hs (.text hquotes)
  · exact sound_broken (List.mem_singleton_self _) trivial
  · exact sound_silent hs (.text (h.piece (.plain (Nat.not_lt.1 hcontrol) hquote hback)))

theorem sound_escape {q : OpenText} {ss cs : List Char} (hs : IsSpaces ss) (h : Opens q cs)
    (c : Char) : Sound (ss ++ (cs ++ ['\\'] ++ [c])) (escapeStep q c) := by
  unfold escapeStep
  rw [List.append_assoc]
  split_ifs with hu
  · subst hu
    exact sound_silent hs (.code h ⟨[], .nil, rfl⟩ (by decide))
  · cases hd : escaped? c with
    | none => exact sound_broken (List.mem_singleton_self _) trivial
    | some d => exact sound_silent hs (.text (h.piece (.letter (escaped?_eq_some_iff.1 hd))))

theorem IsHex.concat {hs : List Char} {v : ℕ} (h : IsHex hs v) {c : Char} {w : ℕ}
    (hc : hexDigit? c = some w) : IsHex (hs ++ [c]) (v * 16 + w) := by
  obtain ⟨vs, hvs, rfl⟩ := h
  exact ⟨vs ++ [w], List.rel_append hvs (.cons hc .nil), by simp⟩

/-- Four digits are a code. -/
theorem IsHex.written {hs : List Char} {v : ℕ} (h : IsHex hs v) (hlen : hs.length = 4) :
    Piece.Written (.unit v) ('\\' :: 'u' :: hs) := by
  obtain ⟨vs, hvs, rfl⟩ := h
  rcases hvs with _ | ⟨h₁, _ | ⟨h₂, _ | ⟨h₃, _ | ⟨h₄, _ | _⟩⟩⟩⟩ <;> simp at hlen
  simpa using Piece.Written.code h₁ h₂ h₃ h₄

theorem sound_code {q : OpenText} {ss cs hs : List Char} {v : ℕ} (hss : IsSpaces ss)
    (h : Opens q cs) (hhex : IsHex hs v) (hlen : hs.length < 4) (c : Char) :
    Sound (ss ++ (cs ++ '\\' :: 'u' :: hs ++ [c])) (codeStep hs.length (some v) q c) := by
  cases hc : hexDigit? c with
  | none =>
    simp only [codeStep, hc, Option.bind_some, Option.map_none]
    split_ifs
    · exact sound_silent hss .lost
    · exact sound_broken (List.mem_singleton_self _) trivial
  | some w =>
    simp only [codeStep, hc, Option.bind_some, Option.map_some, utf8Size_of_hexDigit? hc]
    have hnext := hhex.concat hc
    have hlength : (hs ++ [c]).length = hs.length + 1 := by simp
    split_ifs with hmore
    · have hwithin := Within.code h hnext (hlength ▸ hmore)
      rw [hlength] at hwithin
      simpa using sound_silent hss hwithin
    · have hwritten := hnext.written (by omega)
      simpa [addPiece] using sound_silent hss (.text (h.piece hwritten))

theorem sound_lost (cs : List Char) (bytes : ℕ) (q : OpenText) (c : Char) :
    Sound cs (codeStep bytes none q c) := by
  simp only [codeStep, Option.bind_none]
  split_ifs
  · exact sound_silent (List.forall_mem_nil _) .lost
  · exact sound_broken (List.mem_singleton_self _) trivial

theorem sound_word {next : Char} {later ss cs : List Char} {t : Token} (hs : IsSpaces ss)
    (h : Lexeme t (cs ++ next :: later)) (c : Char) :
    Sound (ss ++ (cs ++ [c])) ((word next later t).step c) := by
  simp only [step]
  split_ifs with hne
  · exact sound_broken (List.mem_singleton_self _) trivial
  · obtain rfl : c = next := by simpa using hne
    cases later with
    | nil => exact sound_token hs h
    | cons d later => exact sound_silent hs (.word (by simpa using h))

/-- One character more. -/
theorem sound_step {l : Lexer} {cs : List Char} (h : Reading l cs) (c : Char) :
    Sound (cs ++ [c]) (l.step c) := by
  obtain ⟨ss, ds, hs, rfl, hwithin⟩ := h
  rw [List.append_assoc]
  cases hwithin with
  | between => exact sound_start hs c
  | word hw => exact sound_word hs hw c
  | numeral hb => exact sound_numeral hs hb c
  | text ho => exact sound_text hs ho c
  | escape ho => exact sound_escape hs ho c
  | code ho hhex hlen => exact sound_code hs ho hhex hlen c
  | lost => exact sound_lost _ _ _ c

theorem sound_reads {l : Lexer} {cs : List Char} (h : Reading l cs) (ds : List Char) :
    Sound (cs ++ ds) (l.reads ds) := by
  induction ds generalizing l cs with
  | nil => exact .inr ⟨[], _, rfl, .nil, by simpa using h⟩
  | cons d ds ih =>
    rw [reads_cons]
    rcases sound_step h d with ⟨t, ht, hb⟩ | ⟨es, fs, hsplit, hlex, hread⟩
    · exact sound_broken (List.mem_append_left _ ht) hb
    rcases ih hread with ⟨t, ht, hb⟩ | ⟨gs, is, hsplit', hlex', hread'⟩
    · exact sound_broken (List.mem_append_right _ ht) hb
    refine .inr ⟨es ++ gs, is, ?_, hlex.append hlex', hread'⟩
    rw [List.append_assoc, ← hsplit', ← List.append_assoc, ← hsplit]
    simp

/-- The machine ends between lexemes or behind a number, or it puts out a broken token. -/
theorem sound_finish {l : Lexer} {cs : List Char} (h : Reading l cs) :
    (∃ t ∈ l.finish, t.IsBroken) ∨
      ∃ ds ss, cs = ds ++ ss ∧ Lexes l.finish ds ∧ IsSpaces ss := by
  obtain ⟨ss, ds, hs, rfl, hwithin⟩ := h
  cases hwithin with
  | between => exact .inr ⟨[], ss, by simp, .nil, hs⟩
  | @numeral stage n _ hb =>
    rw [finish]
    split_ifs with hwhole
    · exact .inr ⟨ss ++ ds, [], by simp, .single hs (.number (isNumeral_of_begun hb hwhole)),
        List.forall_mem_nil _⟩
    · exact .inl ⟨_, List.mem_singleton_self _, trivial⟩
  | _ => exact .inl ⟨_, List.mem_singleton_self _, trivial⟩

/-- A text without a broken token is made of the lexemes of its tokens. -/
theorem exists_lexes {cs : List Char} (h : ∀ t ∈ Scan.run cs, ¬t.IsBroken) :
    ∃ ds ss, cs = ds ++ ss ∧ Lexes (Scan.run cs) ds ∧ IsSpaces ss := by
  rw [run_eq] at h ⊢
  rcases sound_reads Within.between.reading cs with ⟨t, ht, hb⟩ | ⟨ds, es, hsplit, hlex, hread⟩
  · exact absurd hb (h t (List.mem_append_left _ ht))
  rcases sound_finish hread with ⟨t, ht, hb⟩ | ⟨fs, ss, rfl, hlex', hs⟩
  · exact absurd hb (h t (List.mem_append_right _ ht))
  exact ⟨ds ++ fs, ss, by simpa using hsplit, hlex.append hlex', hs⟩

end Lexer

end TokenTariff.Json
