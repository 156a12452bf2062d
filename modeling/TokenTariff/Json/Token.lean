import TokenTariff.Json.Fault
import TokenTariff.Text.Digits

/-!
# Tokens of a JSON text

The characters of a text drive a small machine that puts out tokens. A token that cannot be finished
is the last one. It carries two faults, since a text that is read and a text that is merely skipped
do not fail alike: skipping accepts unpaired surrogates and reals of any size, and it does not tell
a broken number from one that was cut off.
-/

namespace TokenTariff.Json

inductive Token where
  | openList
  | closeList
  | openObject
  | closeObject
  | colon
  | comma
  | null
  | bool (b : Bool)
  | number (n : Numeral)
  | text (s : Except Fault String)
  /-- Text that opens with a quote and is not finished. -/
  | brokenText (onRead onSkip : Fault)
  | broken (onRead onSkip : Fault)

inductive Stage where
  | sign
  | zero
  | whole
  | point
  | places
  | mark
  | markSign (down : Bool)
  | power (down : Bool)

/-- What has been read of a quoted text: its characters, the last one first, the first fault that
only a reader minds, and the first half of a surrogate pair that waits for the second. -/
structure OpenText where
  chars : List Char := []
  fault : Option Fault := none
  high : Option Nat := none

namespace OpenText

/-- The fault is kept unless there is an earlier one. -/
def blame (q : OpenText) (f : Fault) : OpenText := { q with fault := q.fault.or (some f) }

/-- A waiting half of a pair that is followed by something else stays alone. -/
def unpaired (q : OpenText) : OpenText :=
  if q.high.isSome then { q.blame .unpairedSurrogate with high := none } else q

def push (q : OpenText) (c : Char) : OpenText := { q with chars := c :: q.chars }

/-- The code of an escape: a character, or half of a pair. -/
def pushCode (q : OpenText) (code : Nat) : OpenText :=
  let low := 0xDC00 ≤ code ∧ code ≤ 0xDFFF
  match q.high with
  | some high =>
    if low then
      { q with high := none }.push (Char.ofNat (0x10000 + (high - 0xD800) * 0x400 + (code - 0xDC00)))
    else { q.blame .loneSurrogate with high := none }
  | none =>
    if low then q.blame .loneSurrogate
    else if 0xD800 ≤ code ∧ code ≤ 0xDBFF then { q with high := some code }
    else q.push (Char.ofNat code)

def finish (q : OpenText) : Token :=
  match q.unpaired.fault with
  | some f => .text (.error f)
  | none => .text (.ok (String.ofList q.chars.reverse))

def stop (q : OpenText) (f : Fault) : Token := .brokenText (q.fault.getD f) f

end OpenText

def escaped? : Char → Option Char
  | '"' => some '"'
  | '\\' => some '\\'
  | '/' => some '/'
  | 'b' => some '\x08'
  | 'f' => some '\x0c'
  | 'n' => some '\n'
  | 'r' => some '\r'
  | 't' => some '\t'
  | _ => none

inductive Lexer where
  | between
  /-- A word of which `next` and then `later` are still to come. -/
  | word (next : Char) (later : List Char) (token : Token)
  | numeral (stage : Stage) (n : Numeral)
  | text (q : OpenText)
  | escape (q : OpenText)
  /-- An escape by code. It takes four bytes, whatever they are, before it is judged. -/
  | code (bytes : Nat) (code : Option Nat) (q : OpenText)
  | stopped

namespace Lexer

def start (c : Char) : List Token × Lexer :=
  match c with
  | ' ' | '\t' | '\n' | '\r' => ([], between)
  | '[' => ([.openList], between)
  | ']' => ([.closeList], between)
  | '\x7b' => ([.openObject], between)
  | '\x7d' => ([.closeObject], between)
  | ':' => ([.colon], between)
  | ',' => ([.comma], between)
  | '"' => ([], text {})
  | 'n' => ([], word 'u' ['l', 'l'] .null)
  | 't' => ([], word 'r' ['u', 'e'] (.bool true))
  | 'f' => ([], word 'a' ['l', 's', 'e'] (.bool false))
  | '-' => ([], numeral .sign { negative := true })
  | '0' => ([], numeral .zero {})
  | c =>
    if c.isDigit then ([], numeral .whole { mantissa := c.toNat - '0'.toNat })
    else ([.broken .noValue .noValue], stopped)

def addDigit (n : Numeral) (c : Char) : Numeral :=
  { n with mantissa := n.mantissa * 10 + (c.toNat - '0'.toNat) }

def addPower (down : Bool) (n : Numeral) (c : Char) : Numeral :=
  let d : Int := (c.toNat - '0'.toNat : Nat)
  { n with exponent := if down then n.exponent * 10 - d else n.exponent * 10 + d }

def badNumeral : List Token × Lexer := ([.broken .badNumber .badNumber], stopped)

/-- The numeral is over, and `c` opens what follows. -/
def endNumeral (n : Numeral) (c : Char) : List Token × Lexer :=
  let (tokens, next) := start c
  (.number n :: tokens, next)

/-- A character where a numeral may end, go on with a point, or go on with an exponent. -/
def afterWhole (n : Numeral) (c : Char) : List Token × Lexer :=
  if c = '.' then ([], numeral .point { n with whole := false })
  else if c = 'e' ∨ c = 'E' then ([], numeral .mark { n with whole := false })
  else endNumeral n c

def numeralStep (stage : Stage) (n : Numeral) (c : Char) : List Token × Lexer :=
  match stage with
  | .sign =>
    if c = '0' then ([], numeral .zero n)
    else if c.isDigit then ([], numeral .whole (addDigit n c)) else badNumeral
  | .zero => if c.isDigit then badNumeral else afterWhole n c
  | .whole => if c.isDigit then ([], numeral .whole (addDigit n c)) else afterWhole n c
  | .point =>
    if c.isDigit then ([], numeral .places { addDigit n c with places := n.places + 1 })
    else badNumeral
  | .places =>
    if c.isDigit then ([], numeral .places { addDigit n c with places := n.places + 1 })
    else if c = 'e' ∨ c = 'E' then ([], numeral .mark n)
    else endNumeral n c
  | .mark =>
    if c = '+' then ([], numeral (.markSign false) n)
    else if c = '-' then ([], numeral (.markSign true) n)
    else if c.isDigit then ([], numeral (.power false) (addPower false n c)) else badNumeral
  | .markSign down =>
    if c.isDigit then ([], numeral (.power down) (addPower down n c)) else badNumeral
  | .power down =>
    if c.isDigit then ([], numeral (.power down) (addPower down n c)) else endNumeral n c

def isWhole : Stage → Bool
  | .zero | .whole | .places | .power _ => true
  | _ => false

def textStep (q : OpenText) (c : Char) : List Token × Lexer :=
  if c = '\\' then ([], escape q)
  else if c = '"' then ([q.finish], between)
  else if c.toNat < 0x20 then ([q.unpaired.stop .controlCharacter], stopped)
  else ([], text (q.unpaired.push c))

def escapeStep (q : OpenText) (c : Char) : List Token × Lexer :=
  if c = 'u' then ([], code 0 (some 0) q)
  else
    match escaped? c with
    | some d => ([], text (q.unpaired.push d))
    | none => ([q.unpaired.stop .badEscape], stopped)

def codeStep (bytes : Nat) (value : Option Nat) (q : OpenText) (c : Char) : List Token × Lexer :=
  let bytes := bytes + c.utf8Size
  let value := value.bind fun v => (hexDigit? c).map (v * 16 + ·)
  if bytes < 4 then ([], code bytes value q)
  else
    match value with
    | some v => ([], text (q.pushCode v))
    | none => ([q.stop .badEscape], stopped)

/-- The tokens that a character completes, and the machine after it. -/
def step : Lexer → Char → List Token × Lexer
  | between, c => start c
  | word next later token, c =>
    if c ≠ next then ([.broken .badWord .badWord], stopped)
    else
      match later with
      | [] => ([token], between)
      | d :: later => ([], word d later token)
  | numeral stage n, c => numeralStep stage n c
  | text q, c => textStep q c
  | escape q, c => escapeStep q c
  | code bytes value q, c => codeStep bytes value q c
  | stopped, _ => ([], stopped)

def finish : Lexer → List Token
  | between | stopped => []
  | word .. => [.broken .endInValue .endInValue]
  | numeral stage n => if isWhole stage then [.number n] else [.broken .endInValue .badNumber]
  | text q | escape q | code _ _ q => [q.stop .endInString]

end Lexer

/-- The tokens so far, the last one first, and the machine that goes on. -/
structure Scan where
  tokens : List Token := []
  lexer : Lexer := .between

namespace Scan

def step (s : Scan) (c : Char) : Scan :=
  let (tokens, lexer) := s.lexer.step c
  ⟨tokens.reverse ++ s.tokens, lexer⟩

def run (cs : List Char) : List Token :=
  let s := cs.foldl step {}
  (s.lexer.finish.reverse ++ s.tokens).reverse

end Scan

end TokenTariff.Json
