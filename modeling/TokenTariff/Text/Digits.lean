/-!
# Digits

Whole numbers are read from decimal digits, from the left. The first thing wrong is reported: a
character that is no digit, or a digit with which the number becomes too large. A hexadecimal digit
is read in either case and written as a capital.
-/

namespace TokenTariff

def digitValue (c : Char) : Nat := c.toNat - '0'.toNat

def decimalValue (cs : List Char) : Nat := cs.foldl (fun n c => n * 10 + digitValue c) 0

def areDigits (cs : List Char) : Bool := !cs.isEmpty && cs.all Char.isDigit

inductive WholeFault where
  | empty
  | badDigit
  | tooLarge
deriving DecidableEq

def WholeFault.message : WholeFault → String
  | empty => "cannot parse integer from empty string"
  | badDigit => "invalid digit found in string"
  | tooLarge => "number too large to fit in target type"

/-- Reads one more digit of a number below `limit`. -/
def addDigit (limit n : Nat) (c : Char) : Except WholeFault Nat :=
  if !c.isDigit then .error .badDigit
  else if limit ≤ n * 10 + digitValue c then .error .tooLarge
  else .ok (n * 10 + digitValue c)

/-- A number below `limit`. A plus sign may stand before its digits. -/
def readWhole (limit : Nat) (cs : List Char) : Except WholeFault Nat :=
  match cs with
  | [] => .error .empty
  | '+' :: c :: rest => (c :: rest).foldlM (addDigit limit) 0
  | _ => cs.foldlM (addDigit limit) 0

def hexDigit? (c : Char) : Option Nat :=
  if '0' ≤ c ∧ c ≤ '9' then some (c.toNat - '0'.toNat)
  else if 'a' ≤ c ∧ c ≤ 'f' then some (c.toNat - 'a'.toNat + 10)
  else if 'A' ≤ c ∧ c ≤ 'F' then some (c.toNat - 'A'.toNat + 10)
  else none

def hexChar (n : Nat) : Char :=
  Char.ofNat (if n < 10 then '0'.toNat + n else 'A'.toNat + (n - 10))

theorem hexDigit?_hexChar : ∀ n < 16, hexDigit? (hexChar n) = some n := by decide

end TokenTariff
