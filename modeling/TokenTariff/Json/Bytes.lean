import TokenTariff.Json.Reader
import TokenTariff.Text.Utf8

/-!
# JSON in bytes

Only a quoted text that is read has to be made of characters. A byte that belongs to none is a
letter like any other as long as the text is merely skipped, and the last fault of the text if it is
read; between quoted texts no value begins with it.
-/

namespace TokenTariff.Json

/-- What the machine is given for a byte that belongs to no character: one byte that may stand in a
quoted text, and nowhere else. -/
def standIn : Char := '\x7f'

/-- The token of a quoted text with bytes that are no characters. -/
def Token.spoil : Token → Token
  | .text (.ok _) => .text (.error .noText)
  | t => t

/-- A scan that remembers whether a byte that is no character came since the last token. -/
structure ByteScan extends Scan where
  spoiled : Bool := false

namespace ByteScan

def step (s : ByteScan) (c : Option Char) : ByteScan :=
  let spoiled := s.spoiled || c.isNone
  let (tokens, lexer) := s.lexer.step (c.getD standIn)
  if tokens.isEmpty then ⟨⟨s.tokens, lexer⟩, spoiled⟩
  else
    let tokens := if spoiled then tokens.map Token.spoil else tokens
    ⟨⟨tokens.reverse ++ s.tokens, lexer⟩, false⟩

def run (cs : List (Option Char)) : List Token :=
  let s := cs.foldl step {}
  (s.lexer.finish.reverse ++ s.tokens).reverse

end ByteScan

def Doc.ofBytes (bytes : List UInt8) : Doc × Bool :=
  ((ByteScan.run (Utf8.symbols bytes)).foldl Builder.step (.value [])).finish

def Reader.parseBytes {α : Type} (r : Reader α) (bytes : List UInt8) : Except Fault α :=
  r.alone (Doc.ofBytes bytes)

end TokenTariff.Json
