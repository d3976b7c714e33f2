import RouteWatch.Ip.Address

/-!
# The address families of a cluster

A cluster uses one family of addresses or both. Which ones, is read off the text of its service
networks by counting colons and dots.
-/

namespace RouteWatch

/-- The families that a cluster uses. -/
inductive Stack where
  /-- Addresses of four octets only. -/
  | v4
  /-- Addresses of eight groups only. -/
  | v6
  | dual
  deriving DecidableEq

namespace Stack

/-- The families, those of four octets first. -/
def families : Stack → List Family
  | .v4 => [.v4]
  | .v6 => [.v6]
  | .dual => [.v4, .v6]

def has (stack : Stack) (family : Family) : Bool :=
  stack.families.contains family

/-- The name of the choice of families. -/
def text : Stack → String
  | .v4 => "ipv4single"
  | .v6 => "ipv6single"
  | .dual => "dualstack"

instance : ToString Stack :=
  ⟨text⟩

/-- The families of a list of networks, given as text. -/
def ofNetworks? (networks : String) : Option Stack :=
  let colons := networks.toList.count ':'
  let dots := networks.toList.count '.'
  if 2 ≤ colons && 2 ≤ dots then some .dual
  else if 0 < colons && dots = 0 then some .v6
  else if colons = 0 && 0 < dots then some .v4
  else none

end Stack

end RouteWatch
