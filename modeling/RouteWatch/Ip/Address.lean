/-!
# Internet addresses

An address belongs to one of two families: four octets, or eight groups of sixteen bits.
-/

namespace RouteWatch

/-- The two families of internet addresses. -/
inductive Family where
  /-- Addresses of four octets. -/
  | v4
  /-- Addresses of eight groups. -/
  | v6
  deriving DecidableEq

/-- The families, in the order in which everything lists them. -/
def Family.all : List Family :=
  [.v4, .v6]

/-- The place of the family in that order. -/
def Family.rank : Family → Nat
  | .v4 => 0
  | .v6 => 1

theorem Family.rank_inj {a b : Family} : a.rank = b.rank ↔ a = b := by
  cases a <;> cases b <;> decide

/-- The name of the family in router configurations and messages. -/
def Family.name : Family → String
  | .v4 => "ipv4"
  | .v6 => "ipv6"

/-- An address of four octets. -/
structure Ipv4 where
  a : UInt8
  b : UInt8
  c : UInt8
  d : UInt8
  deriving DecidableEq

def Ipv4.octets (ip : Ipv4) : List UInt8 :=
  [ip.a, ip.b, ip.c, ip.d]

/-- An address of eight groups of sixteen bits. -/
structure Ipv6 where
  /-- The groups, from the first one on. -/
  (g0 g1 g2 g3 g4 g5 g6 g7 : UInt16)
  deriving DecidableEq

def Ipv6.groups (ip : Ipv6) : List UInt16 :=
  [ip.g0, ip.g1, ip.g2, ip.g3, ip.g4, ip.g5, ip.g6, ip.g7]

def Ipv6.ofGroups? : List UInt16 → Option Ipv6
  | [g0, g1, g2, g3, g4, g5, g6, g7] => some ⟨g0, g1, g2, g3, g4, g5, g6, g7⟩
  | _ => none

/-- An internet address. -/
inductive Ip where
  | v4 (ip : Ipv4)
  | v6 (ip : Ipv6)
  deriving DecidableEq

def Ip.family : Ip → Family
  | .v4 _ => .v4
  | .v6 _ => .v6

/-- The address that stands for any address of its family. -/
def Ip.unspecified : Family → Ip
  | .v4 => .v4 ⟨0, 0, 0, 0⟩
  | .v6 => .v6 ⟨0, 0, 0, 0, 0, 0, 0, 0⟩

@[simp] theorem Ip.family_unspecified (f : Family) : (Ip.unspecified f).family = f := by
  cases f <;> rfl

end RouteWatch
