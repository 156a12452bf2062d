import TokenTariff.Net.Ipv4
import TokenTariff.Text.Digits

/-!
# Addresses of eight groups

Eight groups of sixteen bits in hexadecimal digits, with colons between them. Two colons stand for
as many zero groups as are missing, and the last two groups may be written as an address of four
bytes.
-/

namespace TokenTariff.Net

structure Ipv6 where
  groups : List UInt16
  length_eq : groups.length = 8

namespace Ipv6

def ofGroups? (groups : List UInt16) : Option Ipv6 :=
  if h : groups.length = 8 then some ⟨groups, h⟩ else none

def readGroup? (cs : List Char) : Option UInt16 :=
  if cs.isEmpty || 4 < cs.length then none
  else (cs.mapM hexDigit?).map fun ds => UInt16.ofNat (ds.foldl (fun n d => n * 16 + d) 0)

def groupsOf (x : Ipv4) : List UInt16 :=
  [x.a.toUInt16 * 256 + x.b.toUInt16, x.c.toUInt16 * 256 + x.d.toUInt16]

/-- The groups of pieces between colons; the last piece may be four bytes. -/
def readPieces? : List (List Char) → Option (List UInt16)
  | [] => some []
  | [piece] => ((readGroup? piece).map ([·])).or ((Ipv4.parse? piece).map groupsOf)
  | piece :: rest => do
    let group ← readGroup? piece
    let groups ← readPieces? rest
    return group :: groups

def readSide? (cs : List Char) : Option (List UInt16) :=
  if cs.isEmpty then some [] else readPieces? (splitAll ':' cs)

/-- The text before the first two colons in a row, and the text after them. -/
def splitGap : List Char → Option (List Char × List Char)
  | ':' :: ':' :: rest => some ([], rest)
  | c :: rest => (splitGap rest).map fun (front, back) => (c :: front, back)
  | [] => none

def parse? (cs : List Char) : Option Ipv6 :=
  match splitGap cs with
  | none => readPieces? (splitAll ':' cs) >>= ofGroups?
  | some (front, back) =>
    if front.contains '.' then none
    else do
      let front ← readSide? front
      let back ← readSide? back
      if 8 ≤ front.length + back.length then none
      else ofGroups? (front ++ List.replicate (8 - front.length - back.length) 0 ++ back)

structure Run where
  start : Nat := 0
  length : Nat := 0

/-- The first of the longest runs of zeros; `now` is the run that ends before position `i`. -/
def longestFrom (i : Nat) (now best : Run) : List UInt16 → Run
  | [] => best
  | g :: rest =>
    if g = 0 then
      let now : Run := if now.length = 0 then ⟨i, 1⟩ else { now with length := now.length + 1 }
      longestFrom (i + 1) now (if best.length < now.length then now else best) rest
    else longestFrom (i + 1) {} best rest

def writeGroups (groups : List UInt16) : String :=
  ":".intercalate (groups.map fun g => String.ofList (Nat.toDigits 16 g.toNat))

/-- The address of four bytes that the last groups hold, if the groups before say so. -/
def mapped? (x : Ipv6) : Option Ipv4 :=
  match x.groups with
  | [0, 0, 0, 0, 0, 0xFFFF, g, h] => some (Ipv4.ofNat (g.toNat * 65536 + h.toNat))
  | _ => none

/-- The first of the longest runs of zeros is left out, unless it is a single group. -/
def write (x : Ipv6) : String :=
  match x.mapped? with
  | some y => "::ffff:" ++ y.write
  | none =>
    let run := longestFrom 0 {} {} x.groups
    if 1 < run.length then
      writeGroups (x.groups.take run.start) ++ "::" ++
        writeGroups (x.groups.drop (run.start + run.length))
    else writeGroups x.groups

end Ipv6

end TokenTariff.Net
