import TokenTariff.Net.Ipv6

/-!
# Where to listen

A numeric address and the number behind it. An address of eight groups stands in brackets and may
name a scope, which is written unless it is zero.
-/

namespace TokenTariff.Net

inductive NumericHost where
  | four (x : Ipv4)
  | eight (x : Ipv6) (scope : UInt32)

namespace NumericHost

def readScope? (cs : List Char) : Option UInt32 :=
  if areDigits cs && decimalValue cs < UInt32.size then some (UInt32.ofNat (decimalValue cs)) else none

def parseInner? (cs : List Char) : Option NumericHost := do
  let x ← Ipv6.parse? (cs.takeWhile (· != '%'))
  match cs.dropWhile (· != '%') with
  | [] => some (eight x 0)
  | _ :: scope => (readScope? scope).map (eight x)

def parse? (cs : List Char) : Option NumericHost :=
  match cs with
  | '[' :: rest =>
    if rest.getLast? = some ']' then parseInner? rest.dropLast else none
  | _ => (Ipv4.parse? cs).map four

def write : NumericHost → String
  | four x => x.write
  | eight x scope => if scope = 0 then s!"[{x.write}]" else s!"[{x.write}%{scope.toNat}]"

end NumericHost

structure SocketAddress where
  host : NumericHost
  number : UInt16

namespace SocketAddress

def ofHost? (host : String) (number : UInt16) : Option SocketAddress :=
  (NumericHost.parse? host.toList).map (⟨·, number⟩)

def write (x : SocketAddress) : String := s!"{x.host.write}:{x.number.toNat}"

end SocketAddress

end TokenTariff.Net
