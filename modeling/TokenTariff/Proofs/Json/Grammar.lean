import Mathlib
import TokenTariff.Json.Doc

/-!
# The grammar of JSON texts

What is a JSON text, said without a machine. Characters make up lexemes, which blanks may stand
between; lexemes make up a value. A text may be the text of a value although no reader wants that
value: a number may be too large for a float, and half of a surrogate pair may stand alone. Such a
part says a fault in the place of a number or a string.
-/

namespace TokenTariff.Json

/-! ### Numerals -/

def IsDigits (cs : List Char) : Prop := cs ≠ [] ∧ ∀ c ∈ cs, c.isDigit = true

/-- Digits of which the first is no zero, unless it is alone. -/
def IsWhole (cs : List Char) : Prop := IsDigits cs ∧ (cs.head? = some '0' → cs = ['0'])

def digitsValue (cs : List Char) : ℕ := Nat.ofDigitChars 10 cs 0

def signChars (negative : Bool) : List Char := if negative then ['-'] else []

inductive Positional : Numeral → List Char → Prop
  | whole (negative : Bool) {ds : List Char} : IsWhole ds →
      Positional { negative, mantissa := digitsValue ds } (signChars negative ++ ds)
  | places (negative : Bool) {ds es : List Char} : IsWhole ds → IsDigits es →
      Positional
        { negative, mantissa := digitsValue (ds ++ es), places := es.length, whole := false }
        (signChars negative ++ ds ++ '.' :: es)

/-- The letter of an exponent and its sign, which tells whether it counts down. -/
inductive PowerMark : Bool → List Char → Prop
  | bare {e : Char} : e = 'e' ∨ e = 'E' → PowerMark false [e]
  | signed (down : Bool) {e : Char} : e = 'e' ∨ e = 'E' →
      PowerMark down [e, if down then '-' else '+']

def withPower (n : Numeral) (down : Bool) (ds : List Char) : Numeral :=
  { n with
    exponent := if down then -(digitsValue ds : ℤ) else digitsValue ds
    whole := false }

inductive IsNumeral : Numeral → List Char → Prop
  | positional {n : Numeral} {cs : List Char} : Positional n cs → IsNumeral n cs
  | scientific {n : Numeral} {cs ms ds : List Char} {down : Bool} :
      Positional n cs → PowerMark down ms → IsDigits ds →
      IsNumeral (withPower n down ds) (cs ++ ms ++ ds)

/-! ### Quoted texts -/

inductive Piece where
  | char (c : Char)
  | unit (code : ℕ)

namespace Piece

/-- The letters after a backslash, and what they stand for. -/
def escapes : List (Char × Char) :=
  [('"', '"'), ('\\', '\\'), ('/', '/'), ('b', '\x08'), ('f', '\x0c'), ('n', '\n'), ('r', '\r'),
    ('t', '\t')]

inductive Written : Piece → List Char → Prop
  | plain {c : Char} : 0x20 ≤ c.toNat → c ≠ '"' → c ≠ '\\' → Written (.char c) [c]
  | letter {c d : Char} : (c, d) ∈ escapes → Written (.char d) ['\\', c]
  | code {a b c d : Char} {v₁ v₂ v₃ v₄ : ℕ} : hexDigit? a = some v₁ → hexDigit? b = some v₂ →
      hexDigit? c = some v₃ → hexDigit? d = some v₄ →
      Written (.unit (((v₁ * 16 + v₂) * 16 + v₃) * 16 + v₄)) ['\\', 'u', a, b, c, d]

def IsHigh (u : ℕ) : Prop := 0xD800 ≤ u ∧ u ≤ 0xDBFF

def IsLow (u : ℕ) : Prop := 0xDC00 ≤ u ∧ u ≤ 0xDFFF

instance (u : ℕ) : Decidable (IsHigh u) := inferInstanceAs (Decidable (_ ∧ _))

instance (u : ℕ) : Decidable (IsLow u) := inferInstanceAs (Decidable (_ ∧ _))

def paired (high low : ℕ) : Char :=
  Char.ofNat (0x10000 + (high - 0xD800) * 0x400 + (low - 0xDC00))

/-- The characters that pieces stand for. Both halves of a pair stand for one character, and a half
that is alone stands for none. -/
def joined : List Piece → Except Fault (List Char)
  | [] => .ok []
  | .char c :: ps => (joined ps).map (c :: ·)
  | .unit u :: ps =>
    if IsLow u then .error .loneSurrogate
    else if IsHigh u then
      match ps with
      | .unit v :: ps =>
        if IsLow v then (joined ps).map (paired u v :: ·) else .error .loneSurrogate
      | _ => .error .unpairedSurrogate
    else (joined ps).map (Char.ofNat u :: ·)

end Piece

/-- A quoted text says this string, or has this fault. -/
def Quotes (s : Except Fault String) (cs : List Char) : Prop :=
  ∃ (ps : List Piece) (css : List (List Char)), List.Forall₂ Piece.Written ps css ∧
    s = (Piece.joined ps).map String.ofList ∧ cs = '"' :: (css.flatten ++ ['"'])

/-! ### Lexemes -/

def IsSpace (c : Char) : Prop := c = ' ' ∨ c = '\t' ∨ c = '\n' ∨ c = '\r'

def IsSpaces (cs : List Char) : Prop := ∀ c ∈ cs, IsSpace c

inductive Lexeme : Token → List Char → Prop
  | openList : Lexeme .openList ['[']
  | closeList : Lexeme .closeList [']']
  | openObject : Lexeme .openObject ['\x7b']
  | closeObject : Lexeme .closeObject ['\x7d']
  | colon : Lexeme .colon [':']
  | comma : Lexeme .comma [',']
  | null : Lexeme .null ['n', 'u', 'l', 'l']
  | true : Lexeme (.bool true) ['t', 'r', 'u', 'e']
  | false : Lexeme (.bool false) ['f', 'a', 'l', 's', 'e']
  | number {n : Numeral} {cs : List Char} : IsNumeral n cs → Lexeme (.number n) cs
  | text {s : Except Fault String} {cs : List Char} : Quotes s cs → Lexeme (.text s) cs

/-- Lexemes one after the other, with blanks before each. -/
inductive Lexes : List Token → List Char → Prop
  | nil : Lexes [] []
  | cons {t : Token} {ts : List Token} {ss cs rest : List Char} :
      IsSpaces ss → Lexeme t cs → Lexes ts rest → Lexes (t :: ts) (ss ++ (cs ++ rest))

/-! ### Values -/

/-- The tokens between brackets, from those of each part. -/
def separated : List (List Token) → List Token := [Token.comma].intercalate

def memberTokens (m : (Except Fault String × Doc) × List Token) : List Token :=
  .text m.1.1 :: .colon :: m.2

/-- The tokens make up one whole value. -/
inductive Spells : Doc → List Token → Prop
  | null : Spells .null [.null]
  | bool (b : Bool) : Spells (.bool b) [.bool b]
  | number (n : Numeral) : Spells (Builder.numberDoc n) [.number n]
  | text (s : Except Fault String) : Spells (.text s) [.text s]
  | list (items : List (Doc × List Token)) : (∀ i ∈ items, Spells i.1 i.2) →
      Spells (.list (items.map (·.1)) .closed)
        (.openList :: (separated (items.map (·.2)) ++ [.closeList]))
  | object (members : List ((Except Fault String × Doc) × List Token)) :
      (∀ m ∈ members, Spells m.1.2 m.2) →
      Spells (.object (members.map (·.1)) .closed)
        (.openObject :: (separated (members.map memberTokens) ++ [.closeObject]))

/-- The text is the text of one value, with blanks around it. -/
def Says (text : String) (d : Doc) : Prop :=
  ∃ ts cs ss, text.toList = cs ++ ss ∧ Lexes ts cs ∧ IsSpaces ss ∧ Spells d ts

/-! ### Pieces put together -/

theorem IsSpaces.append {cs ds : List Char} (hc : IsSpaces cs) (hd : IsSpaces ds) :
    IsSpaces (cs ++ ds) := by
  rintro c hmem
  rcases List.mem_append.1 hmem with h | h
  · exact hc c h
  · exact hd c h

theorem Lexes.single {t : Token} {ss cs : List Char} (hs : IsSpaces ss) (ht : Lexeme t cs) :
    Lexes [t] (ss ++ cs) := by
  simpa using Lexes.cons hs ht .nil

theorem Lexes.append {ts us : List Token} {cs ds : List Char} (ht : Lexes ts cs)
    (hu : Lexes us ds) : Lexes (ts ++ us) (cs ++ ds) := by
  induction ht with
  | nil => exact hu
  | cons hs hlex _ ih =>
    simpa only [List.append_assoc, List.cons_append] using Lexes.cons hs hlex ih

theorem Lexes.exists_lexeme {ts : List Token} {cs : List Char} (h : Lexes ts cs) :
    ∀ t ∈ ts, ∃ ds, Lexeme t ds := by
  induction h with
  | nil => exact List.forall_mem_nil _
  | cons _ hlex _ ih => exact List.forall_mem_cons.2 ⟨⟨_, hlex⟩, ih⟩

/-- Parts with commas between them. -/
theorem lexes_separated {α : Type} {xs : List α} {tokens : α → List Token} {text : α → List Char}
    (h : ∀ x ∈ xs, Lexes (tokens x) (text x)) :
    Lexes (separated (xs.map tokens)) ([','].intercalate (xs.map text)) := by
  induction xs with
  | nil => exact .nil
  | cons x xs ih =>
    obtain ⟨hx, hxs⟩ := List.forall_mem_cons.1 h
    cases xs with
    | nil => simpa [separated] using hx
    | cons y ys =>
      have hcomma : Lexes [.comma] [','] := Lexes.single (List.forall_mem_nil _) .comma
      simpa [separated] using hx.append (hcomma.append (ih hxs))

/-- Something between brackets, with blanks before the second bracket. -/
theorem Lexes.bracketed {t u : Token} {c d : Char} (ht : Lexeme t [c]) (hu : Lexeme u [d])
    {ts : List Token} {cs ss : List Char} (h : Lexes ts cs) (hs : IsSpaces ss) :
    Lexes (t :: (ts ++ [u])) (c :: (cs ++ (ss ++ [d]))) :=
  .cons (List.forall_mem_nil _) ht (h.append (.single hs hu))

theorem Spells.list_map {α : Type} {xs : List α} {item : α → Doc} {tokens : α → List Token}
    (h : ∀ x ∈ xs, Spells (item x) (tokens x)) :
    Spells (.list (xs.map item) .closed)
      (.openList :: (separated (xs.map tokens) ++ [.closeList])) := by
  have hitems : ∀ i ∈ xs.map fun x => (item x, tokens x), Spells i.1 i.2 :=
    List.forall_mem_map.2 h
  simpa [Function.comp_def] using Spells.list _ hitems

theorem Spells.object_map {α : Type} {xs : List α} {member : α → Except Fault String × Doc}
    {tokens : α → List Token} (h : ∀ x ∈ xs, Spells (member x).2 (tokens x)) :
    Spells (.object (xs.map member) .closed)
      (.openObject :: (separated (xs.map fun x => memberTokens (member x, tokens x)) ++
        [.closeObject])) := by
  have hmembers : ∀ m ∈ xs.map fun x => (member x, tokens x), Spells m.1.2 m.2 :=
    List.forall_mem_map.2 h
  simpa [Function.comp_def] using Spells.object _ hmembers

theorem IsDigits.append {cs ds : List Char} (hc : IsDigits cs) (hd : ∀ c ∈ ds, c.isDigit = true) :
    IsDigits (cs ++ ds) := by
  refine ⟨by simp [hc.1], fun c hmem => ?_⟩
  rcases List.mem_append.1 hmem with h | h
  · exact hc.2 c h
  · exact hd c h

theorem isDigits_singleton {c : Char} (hc : c.isDigit = true) : IsDigits [c] :=
  ⟨List.cons_ne_nil _ _, by simpa using hc⟩

theorem digitsValue_concat (cs : List Char) (c : Char) :
    digitsValue (cs ++ [c]) = digitsValue cs * 10 + (c.toNat - '0'.toNat) := by
  simp [digitsValue, Nat.ofDigitChars_append, Nat.ofDigitChars_cons, Nat.mul_comm]

end TokenTariff.Json
