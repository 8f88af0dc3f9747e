import Turnstile.Text.Blank
import Turnstile.Json.Reader

/-!
# Internet addresses

**Reading.**  Version 4 as four decimal numbers without leading zeros; version 6 as
eight groups of up to four hexadecimal digits, one run of groups left out for a double
colon, the last two groups written as a version 4 address if wanted, and a scope after
a percent sign.

**Public addresses.**  Neither private, reserved, loopback, link-local, unspecified nor
multicast.  Each of these classes is a list of networks, and private networks have
public exceptions.
-/

namespace Turnstile

/-- An internet address. -/
inductive Address where
  | v4 (number : Nat)
  | v6 (number : Nat)
  deriving DecidableEq, Repr

namespace Address

/-- A number of one to three decimal digits without leading zero, at most 255. -/
def octet? (cs : List Char) : Option Nat :=
  if cs.isEmpty || 3 < cs.length || !cs.all Json.isDecimal then none
  else if cs.head? = some '0' && cs != ['0'] then none
  else if Json.digitsValue cs ≤ 255 then some (Json.digitsValue cs)
  else none

/-- The number of a version 4 address. -/
def number4? (cs : List Char) : Option Nat :=
  match (Text.pieces '.' cs).map octet? with
  | [some a, some b, some c, some d] => some (((a * 256 + b) * 256 + c) * 256 + d)
  | _ => none

/-- A group of one to four hexadecimal digits. -/
def group? (cs : List Char) : Option Nat :=
  if cs.isEmpty || 4 < cs.length then none
  else cs.foldlM (fun n c => (Json.hexDigit? c).map (16 * n + ·)) 0

/-- A part of a version 6 address between colons. -/
inductive Part where
  | empty
  | group (value : Nat)

/-- The part that a text writes. -/
def part? (cs : List Char) : Option Part :=
  if cs.isEmpty then some .empty else (group? cs).map .group

/-- The parts of a version 6 address, a version 4 address at the end being two of them. -/
def parts? (cs : List Char) : Option (List Part) :=
  let texts := Text.pieces ':' cs
  let last := texts.getLastD []
  if texts.length < 3 then none
  else if last.contains '.' then do
    let number ← number4? last
    let before ← texts.dropLast.mapM part?
    return before ++ [.group (number / 65536), .group (number % 65536)]
  else texts.mapM part?

/-- The groups of parts without an empty one. -/
def groups? (parts : List Part) : Option (List Nat) :=
  parts.mapM fun part =>
    match part with
    | .group value => some value
    | .empty => none

/-- The groups on one side of a double colon; at the outer end stands another empty part. -/
def sideGroups? (outer : List Part) : Option (List Nat) :=
  match outer with
  | [.empty] => some []
  | parts => groups? parts

/-- The parts before the first inner empty part, and those after it. -/
def splitAtGap (first : Part) : List Part → Option (List Part × List Part)
  | [] => none
  | [_] => none
  | .empty :: rest => some ([first], rest)
  | part :: rest => (splitAtGap part rest).map fun (before, after) => (first :: before, after)

/-- The eight groups of a version 6 address. -/
def eightGroups? (parts : List Part) : Option (List Nat) :=
  match parts with
  | [] => none
  | first :: rest =>
    if 9 < parts.length then none
    else
      match splitAtGap first rest with
      | none => do
        let groups ← groups? parts
        if groups.length = 8 then some groups else none
      | some (before, after) => do
        let high ← sideGroups? before
        let low ← sideGroups? after
        if high.length + low.length < 8 then
          some (high ++ List.replicate (8 - (high.length + low.length)) 0 ++ low)
        else none

/-- The number of a version 6 address without scope. -/
def number6? (cs : List Char) : Option Nat := do
  let groups ← eightGroups? (← parts? cs)
  return groups.foldl (fun n g => 65536 * n + g) 0

/-- The text before a scope; the scope is there after a percent sign and holds none. -/
def withoutScope? (cs : List Char) : Option (List Char) :=
  match Text.cut '%' cs with
  | (address, none) => some address
  | (address, some scope) => if scope.isEmpty || scope.contains '%' then none else some address

/-- The address that a text writes. -/
def read? (cs : List Char) : Option Address :=
  match number4? cs with
  | some n => some (.v4 n)
  | none => if cs.contains '/' then none else ((withoutScope? cs).bind number6?).map .v6

/-- The address with the four numbers. -/
def quad (a b c d : Nat) : Nat := ((a * 256 + b) * 256 + c) * 256 + d

/-- The address whose first groups are given. -/
def leading (groups : List Nat) : Nat :=
  (groups ++ List.replicate (8 - groups.length) 0).foldl (fun n g => 65536 * n + g) 0

/-- A network: its first address, and the number of bits that differ in it. -/
structure Network where
  first : Nat
  hostBits : Nat

/-- A network of version 4 by its first address and the length of what its members share. -/
def net4 (first length : Nat) : Network := ⟨first, 32 - length⟩

/-- A network of version 6 by its first groups and the length of what its members share. -/
def net6 (groups : List Nat) (length : Nat) : Network := ⟨leading groups, 128 - length⟩

/-- An address lies in a network. -/
def Network.contains (net : Network) (number : Nat) : Bool :=
  let size := Nat.pow 2 net.hostBits
  number / size == net.first / size

/-- An address lies in one of some networks. -/
def inSome (nets : List Network) (number : Nat) : Bool := nets.any (·.contains number)

/-- Private networks of version 4. -/
def private4 : List Network :=
  [net4 (quad 0 0 0 0) 8, net4 (quad 10 0 0 0) 8, net4 (quad 127 0 0 0) 8,
    net4 (quad 169 254 0 0) 16, net4 (quad 172 16 0 0) 12, net4 (quad 192 0 0 0) 24,
    net4 (quad 192 0 0 170) 31, net4 (quad 192 0 2 0) 24, net4 (quad 192 168 0 0) 16,
    net4 (quad 198 18 0 0) 15, net4 (quad 198 51 100 0) 24, net4 (quad 203 0 113 0) 24,
    net4 (quad 240 0 0 0) 4, net4 (quad 255 255 255 255) 32]

/-- Public addresses inside private networks of version 4. -/
def privateExceptions4 : List Network :=
  [net4 (quad 192 0 0 9) 32, net4 (quad 192 0 0 10) 32]

/-- Networks of version 4 that are reserved, loopback, link-local or multicast. -/
def special4 : List Network :=
  [net4 (quad 240 0 0 0) 4, net4 (quad 127 0 0 0) 8, net4 (quad 169 254 0 0) 16,
    net4 (quad 224 0 0 0) 4]

/-- Private networks of version 6. -/
def private6 : List Network :=
  [net6 [0, 0, 0, 0, 0, 0, 0, 1] 128, net6 [] 128, net6 [0, 0, 0, 0, 0, 0xffff] 96,
    net6 [0x64, 0xff9b, 1] 48, net6 [0x100] 64, net6 [0x2001] 23, net6 [0x2001, 0xdb8] 32,
    net6 [0x2002] 16, net6 [0xfc00] 7, net6 [0xfe80] 10]

/-- Public networks inside private networks of version 6. -/
def privateExceptions6 : List Network :=
  [net6 [0x2001, 1, 0, 0, 0, 0, 0, 1] 128, net6 [0x2001, 1, 0, 0, 0, 0, 0, 2] 128,
    net6 [0x2001, 3] 32, net6 [0x2001, 4, 0x112] 48, net6 [0x2001, 0x20] 28,
    net6 [0x2001, 0x30] 28]

/-- Networks of version 6 that are reserved, link-local or multicast. -/
def special6 : List Network :=
  [net6 [] 8, net6 [0x100] 8, net6 [0x200] 7, net6 [0x400] 6, net6 [0x800] 5, net6 [0x1000] 4,
    net6 [0x4000] 3, net6 [0x6000] 3, net6 [0x8000] 3, net6 [0xa000] 3, net6 [0xc000] 3,
    net6 [0xe000] 4, net6 [0xf000] 5, net6 [0xf800] 6, net6 [0xfe00] 9, net6 [0xfe80] 10,
    net6 [0xff00] 8]

/-- An address that can be reached from everywhere. -/
def isPublic : Address → Bool
  | .v4 n =>
    !(inSome private4 n && !inSome privateExceptions4 n) && !inSome special4 n && n != 0
  | .v6 n => !(inSome private6 n && !inSome privateExceptions6 n) && !inSome special6 n

/-- A text writes a public address. -/
def isPublicText (s : String) : Bool := (read? s.toList).any isPublic

/-- The local networks. -/
def localNetworks : List Network :=
  [net4 (quad 10 0 0 0) 8, net4 (quad 192 168 0 0) 16, net4 (quad 172 16 0 0) 12]

/-- A text is a usual loopback address, or writes an address of a local network. -/
def isLocalText (s : String) : Bool :=
  s == "127.0.0.1" || s == "::1" ||
    match read? (Text.trimmed s.toList) with
    | some (.v4 n) => inSome localNetworks n
    | _ => false

end Address

end Turnstile
