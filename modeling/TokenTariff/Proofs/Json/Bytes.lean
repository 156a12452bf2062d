import Mathlib
import TokenTariff.Json.Bytes
import TokenTariff.Proofs.Json.Structure
import TokenTariff.Proofs.Text.Utf8

/-!
# Values in bytes

Bytes are scanned like the text in which a stand-in shows each byte that is no character. Step by
step the same tokens come out of both, but for quoted texts that say nothing when they are read. So
what is read from bytes is spelled by the lexemes of the text that shows them.
-/

namespace TokenTariff.Json

/-- The first token as it is read when some of its bytes may be no characters. -/
inductive Token.Heard : Token → Token → Prop
  | same (t : Token) : Heard t t
  | spoiled (s : String) : Heard (.text (.ok s)) (.text (.error .noText))

def shown (bytes : List UInt8) : List Char := (Utf8.symbols bytes).map (·.getD standIn)

/-- The bytes are those of one value, with blanks around it. What is no character stands in quoted
texts, which then say nothing. -/
def Conveys (bytes : List UInt8) (d : Doc) : Prop :=
  ∃ ts us cs ss, shown bytes = cs ++ ss ∧ Lexes ts cs ∧ IsSpaces ss ∧
    List.Forall₂ Token.Heard ts us ∧ Spells d us

/-! ### Tokens of bytes -/

theorem Token.heard_spoil (t : Token) : t.Heard t.spoil := by
  match t with
  | .text (.ok s) => exact .spoiled s
  | .text (.error f) => exact .same _
  | .openList | .closeList | .openObject | .closeObject | .colon | .comma | .null | .bool _
  | .number _ | .brokenText .. | .broken .. => exact .same _

theorem Token.Heard.isBroken {t u : Token} (h : t.Heard u) (ht : t.IsBroken) : u.IsBroken := by
  cases h with
  | same => exact ht
  | spoiled s => exact ht

/-- No token is broken that is heard whole. -/
theorem not_isBroken_of_heard {ts us : List Token} (h : List.Forall₂ Token.Heard ts us)
    (hus : ∀ u ∈ us, ¬u.IsBroken) : ∀ t ∈ ts, ¬t.IsBroken := by
  induction h with
  | nil => exact hus
  | cons htu _ ih =>
    obtain ⟨hu, hus⟩ := List.forall_mem_cons.1 hus
    exact List.forall_mem_cons.2 ⟨fun ht => hu (htu.isBroken ht), ih hus⟩

namespace ByteScan

theorem step_some (s : Scan) (c : Char) : step ⟨s, false⟩ (some c) = ⟨s.step c, false⟩ := by
  rw [step, Scan.step]
  dsimp only [Option.getD_some]
  obtain ⟨_ | ⟨t, ts⟩, lexer⟩ := s.lexer.step c <;> rfl

/-- Bytes that are characters throughout are scanned as a text. -/
theorem run_map_some (cs : List Char) : run (cs.map some) = Scan.run cs := by
  have hfold (s : Scan) : (cs.map some).foldl step ⟨s, false⟩ = ⟨cs.foldl Scan.step s, false⟩ := by
    induction cs generalizing s with
    | nil => rfl
    | cons c cs ih => rw [List.map_cons, List.foldl_cons, step_some, ih, List.foldl_cons]
  rw [run, hfold, Scan.run]

/-- The scan has come as far as another one, with tokens that are heard. -/
structure Follows (b : ByteScan) (s : Scan) : Prop where
  lexer : b.lexer = s.lexer
  tokens : List.Forall₂ Token.Heard s.tokens b.tokens

theorem Follows.step {b : ByteScan} {s : Scan} (h : b.Follows s) (c : Option Char) :
    (b.step c).Follows (s.step (c.getD standIn)) := by
  have hsame (ts : List Token) : List.Forall₂ Token.Heard ts ts :=
    List.forall₂_same.2 fun t _ => .same t
  have hspoil (ts : List Token) : List.Forall₂ Token.Heard ts (ts.map Token.spoil) :=
    List.forall₂_map_right_iff.2 (List.forall₂_same.2 fun t _ => t.heard_spoil)
  rw [ByteScan.step, Scan.step, h.lexer]
  obtain ⟨ts, lexer⟩ := s.lexer.step (c.getD standIn)
  dsimp only
  split
  · rename_i hts
    obtain rfl := List.isEmpty_iff.1 hts
    exact ⟨rfl, h.tokens⟩
  · refine ⟨rfl, List.rel_append (List.rel_reverse ?_) h.tokens⟩
    split
    · exact hspoil ts
    · exact hsame ts

theorem heard_run (cs : List (Option Char)) :
    List.Forall₂ Token.Heard (Scan.run (cs.map (·.getD standIn))) (run cs) := by
  have hfold {b : ByteScan} {s : Scan} (h : b.Follows s) :
      (cs.foldl step b).Follows ((cs.map (·.getD standIn)).foldl Scan.step s) := by
    induction cs generalizing b s with
    | nil => exact h
    | cons c cs ih => exact ih (h.step c)
  have hend := hfold (b := {}) (s := {}) ⟨rfl, .nil⟩
  rw [run, Scan.run, hend.lexer]
  refine List.rel_reverse (List.rel_append ?_ hend.tokens)
  exact List.forall₂_same.2 fun t _ => .same t

end ByteScan

/-! ### Documents of bytes -/

theorem Doc.ofBytes_encode (text : String) :
    Doc.ofBytes (Utf8.encode text.toList) = Doc.ofText text := by
  rw [Doc.ofBytes, Utf8.symbols_encode, ByteScan.run_map_some]
  rfl

/-- Bytes convey every document that is read from them in form, with nothing behind it. -/
theorem conveys_of_ofBytes {bytes : List UInt8} {d : Doc} (h : Doc.ofBytes bytes = (d, false))
    (hd : d.onSkip = none) : Conveys bytes d := by
  have hspells : Spells d (ByteScan.run (Utf8.symbols bytes)) :=
    Builder.spells_of_finish (Builder.taken_foldl (.value .nil) _) h hd
  have hheard := ByteScan.heard_run (Utf8.symbols bytes)
  obtain ⟨cs, ss, hsplit, hlex, hs⟩ :=
    Lexer.exists_lexes (not_isBroken_of_heard hheard hspells.not_isBroken)
  exact ⟨_, _, cs, ss, hsplit, hlex, hs, hheard, hspells⟩

end TokenTariff.Json
