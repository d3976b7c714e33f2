import RouteWatch.Ip.Address

/-!
# The canonical text of an address

Octets are decimal and separated by dots. Groups are hexadecimal in lower case, without leading
zeros, and separated by colons; the first of the longest runs of at least two zero groups is written
as `::`. An address of eight groups that wraps one of four octets is written with a dotted end.
-/

namespace RouteWatch

/-- The decimal digits of a number. -/
def decimal (n : Nat) : List Char :=
  Nat.toDigits 10 n

/-- The pieces with the separator between neighbours. -/
def joinWith (sep : Char) : List (List Char) → List Char
  | [] => []
  | [piece] => piece
  | piece :: rest => piece ++ sep :: joinWith sep rest

/-- The canonical text. -/
def Ipv4.chars (ip : Ipv4) : List Char :=
  joinWith '.' (ip.octets.map fun o => decimal o.toNat)

/-- The number of zero groups at the start. -/
def zeroRun (groups : List UInt16) : Nat :=
  (groups.takeWhile (· == 0)).length

/-- The start and the length of the first of the longest runs of zero groups. The first group stands
at the given index. -/
def longestZeroRun (index : Nat) : List UInt16 → Nat × Nat
  | [] => (index, 0)
  | g :: rest =>
    let later := longestZeroRun (index + 1) rest
    if zeroRun (g :: rest) < later.2 then later else (index, zeroRun (g :: rest))

/-- Groups in hexadecimal, with colons between them. -/
def hexGroups (groups : List UInt16) : List Char :=
  joinWith ':' (groups.map fun g => Nat.toDigits 16 g.toNat)

/-- The address of four octets that the address wraps, if its first five groups are zero and the
sixth is all ones. -/
def Ipv6.wrapped? (ip : Ipv6) : Option Ipv4 :=
  match ip.groups with
  | [0, 0, 0, 0, 0, 0xFFFF, high, low] =>
    some ⟨(high >>> 8).toUInt8, high.toUInt8, (low >>> 8).toUInt8, low.toUInt8⟩
  | _ => none

/-- The canonical text. -/
def Ipv6.chars (ip : Ipv6) : List Char :=
  match ip.wrapped? with
  | some inner => [':', ':', 'f', 'f', 'f', 'f', ':'] ++ inner.chars
  | none =>
    let (start, length) := longestZeroRun 0 ip.groups
    if 1 < length then
      hexGroups (ip.groups.take start) ++ [':', ':'] ++ hexGroups (ip.groups.drop (start + length))
    else hexGroups ip.groups

def Ip.chars : Ip → List Char
  | .v4 ip => ip.chars
  | .v6 ip => ip.chars

def Ipv4.text (ip : Ipv4) : String :=
  String.ofList ip.chars

def Ip.text (ip : Ip) : String :=
  String.ofList ip.chars

instance : ToString Ip :=
  ⟨Ip.text⟩

instance : ToString Family :=
  ⟨Family.name⟩

end RouteWatch
