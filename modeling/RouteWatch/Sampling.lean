import RouteWatch.Ip.Printer
import RouteWatch.Time.Timed

/-!
# Taking samples

A sample is the text that a command prints on the external router or on a node of the cluster. A
query selects one address family and stands for one command.
-/

namespace RouteWatch

/-- Where a sample is taken. -/
inductive Target where
  | external
  | node (name : String)
  deriving DecidableEq

def Target.text : Target → String
  | .external => "external router"
  | .node name => s!"node {name}"

instance : ToString Target :=
  ⟨Target.text⟩

/-- A command that is run to take a sample. -/
inductive QueryCommand where
  /-- A command for the shell of the routing daemon. -/
  | daemon (line : String)
  /-- A command line for the shell of the machine. -/
  | shell (line : String)
  deriving DecidableEq

def QueryCommand.text : QueryCommand → String
  | .daemon line => s!"vtysh -c \"{line}\""
  | .shell line => line

instance : ToString QueryCommand :=
  ⟨QueryCommand.text⟩

/-- What a sample is about. -/
inductive Query where
  | neighbor (peer : Ip)
  /-- The table of the routing daemon. -/
  | table (family : Family)
  | kernel (family : Family)
  deriving DecidableEq

namespace Query

/-- The family that the query selects. -/
def family : Query → Family
  | .neighbor peer => peer.family
  | .table family => family
  | .kernel family => family

/-- The command of the query. That no route is found is no failure of it. -/
def command : Query → QueryCommand
  | .neighbor (.v4 peer) => .daemon s!"show bgp neighbor {Ip.v4 peer}"
  | .neighbor (.v6 peer) => .daemon s!"show bgp ipv6 neighbor {Ip.v6 peer}"
  | .table .v4 => .daemon "show ip bgp"
  | .table .v6 => .daemon "show bgp ipv6"
  | .kernel .v4 => .shell "ip route show | grep bgp || true"
  | .kernel .v6 => .shell "ip -6 route show | grep bgp || true"

end Query

/-- The text that was printed at one place at one time. -/
structure Sample where
  target : Target
  command : String
  text : String
  deriving DecidableEq

/-- A way to take samples, which may fail. -/
abbrev Sampler (σ ε : Type) := Target → Query → Action σ ε Sample

end RouteWatch
