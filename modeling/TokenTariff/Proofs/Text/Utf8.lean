import Mathlib
import TokenTariff.Text.Utf8

/-!
# Text comes back from its bytes

The first byte of a character tells how many follow, each with six bits of the character. Reading
them collects the bits again. The ranges of the second byte leave out what could be said in fewer
bytes and the numbers that no character has.
-/

namespace TokenTariff.Utf8

variable {n bits owed low high k : ℕ} {rest : List UInt8}

theorem toNat_ofNat (h : n < 256) : (UInt8.ofNat n).toNat = n := by
  rw [UInt8.toNat_ofNat', Nat.mod_eq_of_lt h]

/-! ### Bytes one by one -/

theorem read_whole {b : UInt8} {c : Char} (h : opening b = .whole c) :
    read none (b :: rest) = .ok c :: read none rest := by
  rw [read, h]

theorem read_begun {b : UInt8} {p : Begun} (h : opening b = .begun p) :
    read none (b :: rest) = read (some (p, 1)) rest := by
  rw [read, h]

/-- The last byte of a character. -/
theorem read_last (h : low ≤ n ∧ n ≤ high) (hn : n < 256) :
    read (some (⟨bits, 0, low, high⟩, k)) (UInt8.ofNat n :: rest) =
      .ok (Char.ofNat (bits * 64 + (n - 0x80))) :: read none rest := by
  rw [read, Begun.next, toNat_ofNat hn]
  dsimp only
  rw [if_pos h]

theorem read_further (h : low ≤ n ∧ n ≤ high) (hn : n < 256) :
    read (some (⟨bits, owed + 1, low, high⟩, k)) (UInt8.ofNat n :: rest) =
      read (some (⟨bits * 64 + (n - 0x80), owed, 0x80, 0xBF⟩, k + 1)) rest := by
  rw [read, Begun.next, toNat_ofNat hn]
  dsimp only
  rw [if_pos h]

theorem opening_small (h : n < 0x80) : opening (UInt8.ofNat n) = .whole (Char.ofNat n) := by
  rw [opening, toNat_ofNat (h.trans (by decide))]
  rw [if_pos h]

theorem opening_two (h : 2 ≤ n) (h' : n < 32) :
    opening (UInt8.ofNat (n + 0xC0)) = .begun ⟨n, 0, 0x80, 0xBF⟩ := by
  rw [opening, toNat_ofNat (by omega)]
  rw [if_neg (by omega), if_neg (by omega), if_pos (by omega), Nat.add_sub_cancel]

/-- The second of three bytes may be any that follows, but for two of the first bytes. -/
theorem opening_three (h : n < 16) : ∃ low high,
    opening (UInt8.ofNat (n + 0xE0)) = .begun ⟨n, 1, low, high⟩ ∧
      ∀ m, 0x80 ≤ m → m ≤ 0xBF → (n = 0 → 0xA0 ≤ m) → (n = 13 → m ≤ 0x9F) → low ≤ m ∧ m ≤ high := by
  rw [opening, toNat_ofNat (by omega)]
  rw [if_neg (by omega), if_neg (by omega), if_neg (by omega)]
  by_cases h0 : n = 0
  · subst h0
    exact ⟨0xA0, 0xBF, rfl, fun m _ hm hlow _ => ⟨hlow rfl, hm⟩⟩
  by_cases h13 : n = 13
  · subst h13
    exact ⟨0x80, 0x9F, rfl, fun m hm _ _ hhigh => ⟨hm, hhigh rfl⟩⟩
  · rw [if_neg (by omega), if_neg (by omega), if_pos (by omega), Nat.add_sub_cancel]
    exact ⟨0x80, 0xBF, rfl, fun m hm hm' _ _ => ⟨hm, hm'⟩⟩

/-- The second of four bytes likewise. -/
theorem opening_four (h : n < 5) : ∃ low high,
    opening (UInt8.ofNat (n + 0xF0)) = .begun ⟨n, 2, low, high⟩ ∧
      ∀ m, 0x80 ≤ m → m ≤ 0xBF → (n = 0 → 0x90 ≤ m) → (n = 4 → m ≤ 0x8F) → low ≤ m ∧ m ≤ high := by
  rw [opening, toNat_ofNat (by omega)]
  rw [if_neg (by omega), if_neg (by omega), if_neg (by omega), if_neg (by omega),
    if_neg (by omega), if_neg (by omega)]
  by_cases h0 : n = 0
  · subst h0
    exact ⟨0x90, 0xBF, rfl, fun m _ hm hlow _ => ⟨hlow rfl, hm⟩⟩
  by_cases h4 : n = 4
  · subst h4
    exact ⟨0x80, 0x8F, rfl, fun m hm _ _ hhigh => ⟨hm, hhigh rfl⟩⟩
  · rw [if_neg (by omega), if_pos (by omega), Nat.add_sub_cancel]
    exact ⟨0x80, 0xBF, rfl, fun m hm hm' _ _ => ⟨hm, hm'⟩⟩

/-! ### Characters -/

theorem read_encodeChar (c : Char) (rest : List UInt8) :
    read none (String.utf8EncodeChar c ++ rest) = .ok c :: read none rest := by
  have hvalid : c.val.toNat < 0xD800 ∨ 0xDFFF < c.val.toNat ∧ c.val.toNat < 0x110000 := c.valid
  obtain ⟨v, hv⟩ : ∃ v, v = c.val.toNat := ⟨_, rfl⟩
  have hchar : Char.ofNat v = c := hv ▸ c.ofNat_toNat
  rw [← hv] at hvalid
  unfold String.utf8EncodeChar
  rw [← hv]
  dsimp only
  split_ifs with h1 h2 h3
  · rw [List.singleton_append, read_whole (opening_small (by omega)), hchar]
  · rw [Nat.mod_eq_of_lt (by omega : v / 64 < 32)]
    simp only [List.cons_append, List.nil_append]
    rw [read_begun (opening_two (by omega) (by omega)),
      read_last ⟨by omega, by omega⟩ (by omega), Nat.add_sub_cancel, Nat.div_add_mod' v 64, hchar]
  · rw [Nat.mod_eq_of_lt (by omega : v / 4096 < 16)]
    obtain ⟨low, high, hopen, hrange⟩ := opening_three (by omega : v / 4096 < 16)
    simp only [List.cons_append, List.nil_append]
    rw [read_begun hopen,
      read_further (hrange _ (by omega) (by omega) (by omega) (by omega)) (by omega),
      read_last ⟨by omega, by omega⟩ (by omega), Nat.add_sub_cancel, Nat.add_sub_cancel]
    have hbits : (v / 4096 * 64 + v / 64 % 64) * 64 + v % 64 = v := by omega
    rw [hbits, hchar]
  · rw [Nat.mod_eq_of_lt (by omega : v / 262144 < 8)]
    obtain ⟨low, high, hopen, hrange⟩ := opening_four (by omega : v / 262144 < 5)
    simp only [List.cons_append, List.nil_append]
    rw [read_begun hopen,
      read_further (hrange _ (by omega) (by omega) (by omega) (by omega)) (by omega),
      read_further ⟨by omega, by omega⟩ (by omega),
      read_last ⟨by omega, by omega⟩ (by omega), Nat.add_sub_cancel, Nat.add_sub_cancel,
      Nat.add_sub_cancel]
    have hbits : ((v / 262144 * 64 + v / 4096 % 64) * 64 + v / 64 % 64) * 64 + v % 64 = v := by
      omega
    rw [hbits, hchar]

theorem read_encode (cs : List Char) : read none (encode cs) = cs.map .ok := by
  induction cs with
  | nil => rfl
  | cons c cs ih =>
    have hcons : encode (c :: cs) = String.utf8EncodeChar c ++ encode cs := rfl
    rw [hcons, read_encodeChar, ih, List.map_cons]

/-- Text comes back from its bytes. -/
theorem decode?_encode (cs : List Char) : decode? (encode cs) = some cs := by
  rw [decode?, read_encode]
  induction cs with
  | nil => rfl
  | cons c cs ih =>
    rw [List.map_cons, List.mapM_cons, ih]
    rfl

/-- A text has no bytes but those of its characters. -/
theorem symbols_encode (cs : List Char) : symbols (encode cs) = cs.map some := by
  rw [symbols, read_encode, List.flatMap_map]
  exact List.flatMap_pure_eq_map some cs

theorem encode_injective : Function.Injective encode := fun cs ds h =>
  Option.some.inj ((decode?_encode cs).symm.trans (h ▸ decode?_encode ds))

end TokenTariff.Utf8
