import Mathlib
import TokenTariff.Proofs.Text.ByteOrder
import TokenTariff.Web.Target

/-!
# Text comes back from percent coding

An escape says one byte, and a character that stands for itself says its own bytes. So decoding
gives the bytes of the text whichever characters are escaped, as long as the percent sign is one of
them.
-/

namespace TokenTariff.Percent

variable {stands : Char → Bool} {cs ds : List Char}

theorem decode_cons_of_ne {c : Char} (h : c ≠ '%') (rest : List Char) :
    decode (c :: rest) = String.utf8EncodeChar c ++ decode rest := by
  rw [decode]
  exact fun a b rest hc _ => h hc

theorem decode_escapeByte (b : UInt8) (rest : List Char) :
    decode (escapeByte b ++ rest) = b :: decode rest := by
  have hlt : b.toNat < 256 := b.toNat_lt
  have hdigits : 16 * (b.toNat / 16) + b.toNat % 16 = b.toNat := Nat.div_add_mod _ _
  rw [escapeByte]
  simp only [List.cons_append, List.nil_append]
  rw [decode, hexDigit?_hexChar _ (by omega), hexDigit?_hexChar _ (by omega)]
  dsimp only
  rw [hdigits, UInt8.ofNat_toNat]

theorem decode_escape (bs : List UInt8) (rest : List Char) :
    decode (bs.flatMap escapeByte ++ rest) = bs ++ decode rest := by
  induction bs with
  | nil => rfl
  | cons b bs ih =>
    rw [List.flatMap_cons, List.append_assoc, decode_escapeByte, ih, List.cons_append]

theorem decode_encode (h : stands '%' = false) (cs : List Char) :
    decode (encode stands cs) = Utf8.encode cs := by
  induction cs with
  | nil => rfl
  | cons c cs ih =>
    have hcons : encode stands (c :: cs) = encodeChar stands c ++ encode stands cs := rfl
    rw [hcons, encodeChar, Utf8.encode_cons, ← ih]
    split
    · rename_i hc
      exact decode_cons_of_ne (fun hp => by rw [hp, h] at hc; cases hc) _
    · exact decode_escape _ _

theorem encode_injective (h : stands '%' = false) : Function.Injective (encode stands) := by
  intro cs ds heq
  have hbytes : Utf8.encode cs = Utf8.encode ds := by
    rw [← decode_encode h, ← decode_encode h, heq]
  exact Utf8.encode_injective hbytes

/-- Besides the characters that stand for themselves there are only those of escapes. -/
theorem of_mem_encode {c : Char} (h : c ∈ encode stands cs) :
    stands c = true ∨ c = '%' ∨ ∃ n < 16, c = hexChar n := by
  obtain ⟨d, -, hd⟩ := List.mem_flatMap.1 h
  rw [encodeChar] at hd
  split at hd
  · rename_i hstands
    obtain rfl := List.mem_singleton.1 hd
    exact .inl hstands
  · obtain ⟨b, -, hb⟩ := List.mem_flatMap.1 hd
    have hlt : b.toNat < 256 := b.toNat_lt
    rw [escapeByte, List.mem_cons, List.mem_pair] at hb
    rcases hb with hb | hb | hb
    · exact .inr (.inl hb)
    · exact .inr (.inr ⟨_, by omega, hb⟩)
    · exact .inr (.inr ⟨_, by omega, hb⟩)

/-- A part of a path that was written for a text is read as that text. -/
theorem decodeSegment?_encode (h : stands '%' = false) (cs : List Char) :
    Web.Target.decodeSegment? (encode stands cs) = some (String.ofList cs) := by
  rw [Web.Target.decodeSegment?, decode_encode h, Utf8.decode?_encode]
  rfl

end TokenTariff.Percent
