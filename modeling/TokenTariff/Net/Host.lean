import TokenTariff.Net.Domain
import TokenTariff.Net.Ipv6
import TokenTariff.Text.Utf8

/-!
# Hosts of addresses

The host of an address is a domain name or a numeric address. Under a scheme that we know, numbers
are understood in many spellings; under another one the host is taken as it is.
-/

namespace TokenTariff.Net

inductive AddressError where
  | relative
  | emptyHost
  | badNumber
  | badFour
  | badEight
  | badHostChar
  | badDomain
deriving DecidableEq

def AddressError.message : AddressError → String
  | relative => "relative URL without a base"
  | emptyHost => "empty host"
  | badNumber => "invalid port number"
  | badFour => "invalid IPv4 address"
  | badEight => "invalid IPv6 address"
  | badHostChar => "invalid domain character"
  | badDomain => "invalid international domain name"

inductive Host where
  | domain (name : List Char)
  | four (x : Ipv4)
  | eight (x : Ipv6)

namespace Host

def bracketed (rest : List Char) : Except AddressError Host :=
  if rest.getLast? = some ']' then
    match Ipv6.parse? rest.dropLast with
    | some x => .ok (eight x)
    | none => .error .badEight
  else .error .badEight

def digitsIn? (base : Nat) (cs : List Char) : Option Nat := do
  let ds ← cs.mapM hexDigit?
  if ds.all (· < base) then some (ds.foldl (fun n d => n * base + d) 0) else none

/-- A part of a numeric address: hexadecimal behind `0x`, octal behind `0`, else decimal. -/
def numberPart? (cs : List Char) : Option Nat :=
  match cs with
  | [] => none
  | '0' :: 'x' :: rest | '0' :: 'X' :: rest => digitsIn? 16 rest
  | '0' :: d :: rest => digitsIn? 8 (d :: rest)
  | _ => digitsIn? 10 cs

/-- The parts of a name; a full stop at its end closes it. -/
def parts (name : List Char) : List (List Char) :=
  let ps := splitAll '.' name
  if ps.getLast? = some [] then ps.dropLast else ps

/-- The last part is a number, so that the name has to be a numeric address. -/
def endsInNumber (name : List Char) : Bool :=
  match (parts name).getLast? with
  | none => false
  | some part => areDigits part || (numberPart? part).isSome

/-- The number of a list of parts: each is a byte, and the last one fills what is left. -/
def numberOf? (ns : List Nat) : Option Nat :=
  match ns.getLast? with
  | none => none
  | some last =>
    let bytes := ns.dropLast
    if 4 < ns.length || bytes.any (255 < ·) || 1 <<< (8 * (4 - bytes.length)) ≤ last then none
    else some (bytes.zipIdx.foldl (fun n p => n + (p.1 <<< (8 * (3 - p.2)))) last)

def numeric (name : List Char) : Except AddressError Host :=
  match (parts name).mapM numberPart? >>= numberOf? with
  | some n => .ok (four (Ipv4.ofNat n))
  | none => .error .badFour

def known (cs : List Char) : Except AddressError Host :=
  match cs with
  | '[' :: rest => bracketed rest
  | _ =>
    match (Utf8.decode? (Percent.decode cs)) >>= Domain.toAscii? with
    | none => .error .badDomain
    | some [] => .error .emptyHost
    | some name => if endsInNumber name then numeric name else .ok (domain name)

/-- Characters that a host taken as it is may not have. -/
def isForbidden (c : Char) : Bool := "\x00\t\n\r #/:<>?@[\\]^|".toList.contains c

/-- Characters that may stand where only control characters are escaped. -/
def isNoControl (c : Char) : Bool := 0x20 ≤ c.toNat && c.toNat < 0x7F

def opaqueHost (cs : List Char) : Except AddressError Host :=
  match cs with
  | '[' :: rest => bracketed rest
  | _ =>
    if cs.any isForbidden then .error .badHostChar
    else .ok (domain (Percent.encode isNoControl cs))

def write : Host → String
  | domain name => String.ofList name
  | four x => x.write
  | eight x => s!"[{x.write}]"

end Host

end TokenTariff.Net
