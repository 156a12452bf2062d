import TokenTariff.Text.Digits

/-!
# Text in bytes

Text travels as UTF-8. Bytes are read one at a time; what has been read of a character tells how
many bytes it is still owed and in which range the next one has to be. Bytes that are no text are
refused, or stand for the replacement character, once for each longest beginning of a character, or
are kept as what they are.

Characters that may not stand in a part of an address are written as their bytes, each as a percent
sign and two digits. A percent sign that no two digits follow stands for itself.
-/

namespace TokenTariff.Utf8

def encode (cs : List Char) : List UInt8 := cs.flatMap String.utf8EncodeChar

/-- The beginning of a character: its bits so far, how many bytes follow the next one, and the
range of the next one. -/
structure Begun where
  bits : Nat
  owed : Nat
  low : Nat
  high : Nat

/-- What a byte does where a character begins. -/
inductive Opening where
  | whole (c : Char)
  | begun (b : Begun)
  | wrong

def opening (b : UInt8) : Opening :=
  let n := b.toNat
  if n < 0x80 then .whole (Char.ofNat n)
  else if n < 0xC2 then .wrong
  else if n < 0xE0 then .begun ⟨n - 0xC0, 0, 0x80, 0xBF⟩
  else if n = 0xE0 then .begun ⟨0, 1, 0xA0, 0xBF⟩
  else if n = 0xED then .begun ⟨0xD, 1, 0x80, 0x9F⟩
  else if n < 0xF0 then .begun ⟨n - 0xE0, 1, 0x80, 0xBF⟩
  else if n = 0xF0 then .begun ⟨0, 2, 0x90, 0xBF⟩
  else if n < 0xF4 then .begun ⟨n - 0xF0, 2, 0x80, 0xBF⟩
  else if n = 0xF4 then .begun ⟨4, 2, 0x80, 0x8F⟩
  else .wrong

/-- What a byte does after the beginning of a character. -/
def Begun.next (p : Begun) (b : UInt8) : Opening :=
  let n := b.toNat
  if p.low ≤ n ∧ n ≤ p.high then
    let bits := p.bits * 64 + (n - 0x80)
    match p.owed with
    | 0 => .whole (Char.ofNat bits)
    | k + 1 => .begun ⟨bits, k, 0x80, 0xBF⟩
  else .wrong

/-- The characters of a list of bytes; where there is none, the number of bytes that stand there. -/
def read : Option (Begun × Nat) → List UInt8 → List (Except Nat Char)
  | none, [] => []
  | some (_, k), [] => [.error k]
  | none, b :: rest =>
    match opening b with
    | .whole c => .ok c :: read none rest
    | .begun p => read (some (p, 1)) rest
    | .wrong => .error 1 :: read none rest
  | some (p, k), b :: rest =>
    match p.next b with
    | .whole c => .ok c :: read none rest
    | .begun p => read (some (p, k + 1)) rest
    | .wrong =>
      match opening b with
      | .whole c => .error k :: .ok c :: read none rest
      | .begun p => .error k :: read (some (p, 1)) rest
      | .wrong => .error k :: .error 1 :: read none rest

def decode? (bytes : List UInt8) : Option (List Char) := (read none bytes).mapM Except.toOption

def decodeLossy (bytes : List UInt8) : List Char :=
  (read none bytes).map (·.toOption.getD '\uFFFD')

/-- The characters of a list of bytes, and `none` for each byte that belongs to none of them. -/
def symbols (bytes : List UInt8) : List (Option Char) :=
  (read none bytes).flatMap fun
    | .ok c => [some c]
    | .error k => List.replicate k none

end TokenTariff.Utf8

namespace TokenTariff.Percent

def decode : List Char → List UInt8
  | [] => []
  | '%' :: a :: b :: rest =>
    match hexDigit? a, hexDigit? b with
    | some x, some y => UInt8.ofNat (16 * x + y) :: decode rest
    | _, _ => 0x25 :: decode (a :: b :: rest)
  | c :: rest => String.utf8EncodeChar c ++ decode rest

def escapeByte (b : UInt8) : List Char := ['%', hexChar (b.toNat / 16), hexChar (b.toNat % 16)]

def encodeChar (stands : Char → Bool) (c : Char) : List Char :=
  if stands c then [c] else (String.utf8EncodeChar c).flatMap escapeByte

def encode (stands : Char → Bool) (cs : List Char) : List Char := cs.flatMap (encodeChar stands)

end TokenTariff.Percent
