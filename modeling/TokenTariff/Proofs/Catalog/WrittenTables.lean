import Mathlib
import TokenTariff.Catalog.FlatBook
import TokenTariff.Proofs.Json.Readers
import TokenTariff.Proofs.Json.Written

/-!
# Written tables read back

A table of finite floats is written as a JSON object, with blanks that put each entry on a line of
its own. Reading that object gives the table again, whatever its names, with its numbers as their
texts are read.
-/

namespace TokenTariff

open Json

namespace FlatBook

def member (e : String × Float) : Except Fault String × Doc :=
  (.ok e.1, .number (.ok (.real (reread e.2))))

theorem exists_entry {e : String × Float} (he : e.2.isFinite = true) :
    ∃ ts, Lexes (memberTokens (member e, ts)) (writeEntry e).toList ∧ Spells (member e).2 ts := by
  have hvalue := ofNumeral?_of_toFloat? (whole_numeralOf e.2) (toFloat?_numeralOf he)
  have htext : (writeEntry e).toList = ['\n', ' ', ' '] ++ ((writeText e.1).toList ++
      ([] ++ ([':'] ++ ([' '] ++ (Value.real e.2).write.toList)))) := by
    simp [writeEntry]
  have hbreak : IsSpaces ['\n', ' ', ' '] := by simp [IsSpaces, IsSpace]
  have hblank : IsSpaces [' '] := by simp [IsSpaces, IsSpace]
  refine ⟨[.number (numeralOf e.2)], ?_, ?_⟩
  · rw [htext]
    exact .cons hbreak (.text (quotes_writeText e.1)) <|
      .cons (List.forall_mem_nil _) .colon (.single hblank (.number (isNumeral_write he)))
  · have hspells := Spells.number (numeralOf e.2)
    rwa [numberDoc_of_ofNumeral? hvalue] at hspells

/-- The text of a table says an object with its entries. -/
theorem says_writeTable {t : Table Float} (ht : ∀ e ∈ t.entries, e.2.isFinite = true) :
    Says (writeTable t) (.object (t.entries.map member) .closed) := by
  choose! tokens hlexes hspells using fun e he => exists_entry (ht e he)
  have hdoc := Spells.object_map hspells
  have hentries := lexes_separated hlexes
  have hbreak : IsSpaces ['\n'] := by simp [IsSpaces, IsSpace]
  refine ⟨_, _, [], (List.append_nil _).symm, ?_, List.forall_mem_nil _, hdoc⟩
  unfold writeTable
  split
  · rename_i hempty
    rw [List.isEmpty_iff.1 hempty] at hentries ⊢
    simpa using hentries.bracketed .openObject .closeObject (List.forall_mem_nil _)
  · simpa [Function.comp_def] using hentries.bracketed .openObject .closeObject hbreak

theorem ofText_writeTable {t : Table Float} (ht : ∀ e ∈ t.entries, e.2.isFinite = true) :
    Doc.ofText (writeTable t) = (.object (t.entries.map member) .closed, false) :=
  (says_iff.1 (says_writeTable ht)).1

/-- Reading a written table gives the table with its numbers as their texts are read. -/
theorem parse_writeTable {t : Table Float} (ht : ∀ e ∈ t.entries, e.2.isFinite = true) :
    (Reader.table Reader.real).parse (writeTable t) = .ok (t.map reread) := by
  have hmembers : Reader.members Reader.real .text (.object (t.entries.map member) .closed) =
      .ok (t.map reread).entries := Reader.members_map fun _ _ => rfl
  rw [Reader.parse_eq (ofText_writeTable ht), Reader.table, Reader.map, hmembers]
  exact congrArg Except.ok (Table.ofList_entries _)

theorem isBlank_writeTable (t : Table Float) : isBlank (writeTable t) = false := by
  have hbrace : isBlankChar '\x7b' = false := by decide
  unfold writeTable isBlank
  split <;> simp [hbrace]

theorem readTable_writeTable (key : String) {t : Table Float}
    (ht : ∀ e ∈ t.entries, e.2.isFinite = true) :
    readTable key (writeTable t) = .ok (t.map reread) := by
  simp [readTable, isBlank_writeTable, parse_writeTable ht]

end FlatBook

end TokenTariff
