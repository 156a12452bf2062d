import Mathlib
import TokenTariff.Proofs.Text.Utf8

/-!
# The order of bytes

Texts compare as their bytes do. A greater character begins with a greater byte, or needs as many
bytes as the smaller one and is ahead in the first that differs. So an order of names is the order
of what is sent for them.
-/

namespace TokenTariff.Utf8

variable {a b : ℕ} {l l' : List UInt8} {cs ds : List Char}

/-- A smaller byte comes first, and after equal ones the rest counts. -/
theorem cons_lt_cons (hb : b < 256) (hle : a ≤ b) (h : a = b → l < l') :
    UInt8.ofNat a :: l < UInt8.ofNat b :: l' := by
  rw [List.cons_lt_cons_iff, UInt8.lt_iff_toNat_lt, toNat_ofNat hb, toNat_ofNat (by omega)]
  rcases hle.lt_or_eq with hlt | rfl
  · exact .inl hlt
  · exact .inr ⟨rfl, h rfl⟩

/-- The bytes of two characters are ordered as the characters are, whatever follows. -/
theorem encodeChar_lt {c d : Char} (h : c < d) (l l' : List UInt8) :
    String.utf8EncodeChar c ++ l < String.utf8EncodeChar d ++ l' := by
  have hvalid : d.val.toNat < 0xD800 ∨ 0xDFFF < d.val.toNat ∧ d.val.toNat < 0x110000 := d.valid
  have hlt : c.val.toNat < d.val.toNat := h
  unfold String.utf8EncodeChar
  generalize c.val.toNat = v at hlt
  generalize d.val.toNat = w at hlt hvalid
  dsimp only
  -- A character of more bytes begins with a greater one; the others are compared byte by byte.
  split_ifs <;> first | omega | simp only [List.cons_append, List.nil_append]
  all_goals
    repeat' refine cons_lt_cons (by omega) (by omega) fun _ => ?_
  all_goals omega

theorem encodeChar_ne_nil (c : Char) : String.utf8EncodeChar c ≠ [] := by
  rw [← List.length_pos_iff, String.length_utf8EncodeChar]
  exact c.utf8Size_pos

theorem encode_cons (c : Char) (cs : List Char) :
    encode (c :: cs) = String.utf8EncodeChar c ++ encode cs := rfl

theorem encode_lt_of_lt (h : cs < ds) : encode cs < encode ds := by
  induction h with
  | @nil d ds =>
    obtain ⟨b, bs, hb⟩ := List.exists_cons_of_ne_nil (encodeChar_ne_nil d)
    rw [encode_cons, hb]
    exact List.nil_lt_cons _ _
  | rel h => exact encodeChar_lt h _ _
  | cons h ih =>
    rw [encode_cons, encode_cons]
    exact List.append_left_lt ih

/-- Texts compare as their bytes do. -/
theorem lt_iff_encode_lt (s t : String) : s < t ↔ encode s.toList < encode t.toList := by
  have hbytes {s t : String} (h : s < t) : encode s.toList < encode t.toList :=
    encode_lt_of_lt (String.lt_iff_toList_lt.1 h)
  refine ⟨hbytes, fun h => ?_⟩
  rcases lt_trichotomy s t with hlt | rfl | hgt
  · exact hlt
  · exact absurd h (List.lt_irrefl _)
  · exact absurd h (List.lt_asymm (hbytes hgt))

end TokenTariff.Utf8
