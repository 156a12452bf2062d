import TokenTariff.Text.Digits
import TokenTariff.Text.Pieces

/-!
# Addresses of four bytes

Four bytes with points between them, in decimal digits and without leading zeros.
-/

namespace TokenTariff.Net

structure Ipv4 where
  a : UInt8
  b : UInt8
  c : UInt8
  d : UInt8
deriving DecidableEq

namespace Ipv4

/-- A byte in decimal digits. Only zero starts with a zero. -/
def readByte? (cs : List Char) : Option UInt8 :=
  if areDigits cs && cs.length ≤ 3 && decimalValue cs < 256 && (cs.head? != some '0' || cs.length = 1) then
    some (UInt8.ofNat (decimalValue cs))
  else none

def parse? (cs : List Char) : Option Ipv4 :=
  match splitAll '.' cs with
  | [a, b, c, d] => do
    let a ← readByte? a
    let b ← readByte? b
    let c ← readByte? c
    let d ← readByte? d
    return ⟨a, b, c, d⟩
  | _ => none

def write (x : Ipv4) : String := s!"{x.a.toNat}.{x.b.toNat}.{x.c.toNat}.{x.d.toNat}"

/-- The address that a number stands for, its lowest byte last. -/
def ofNat (n : Nat) : Ipv4 :=
  ⟨UInt8.ofNat (n >>> 24), UInt8.ofNat (n >>> 16), UInt8.ofNat (n >>> 8), UInt8.ofNat n⟩

end Ipv4

end TokenTariff.Net
