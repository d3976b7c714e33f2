import RouteWatch.Ip.Subnet
import RouteWatch.NetworkName
import RouteWatch.Text.Quoted

/-!
# What can be wrong with a topology
-/

namespace RouteWatch

/-- Why something is no topology, or no part of one. -/
inductive TopologyError where
  /-- The service networks have no address from which the stack can be told. -/
  | unknownStack (networks : String)
  | invalidNetworkName (text : String)
  | noNodes
  /-- Two nodes have this name. -/
  | duplicateNode (node : String)
  /-- The node lacks an address of a family that the cluster uses. -/
  | missingAddress (node : String) (family : Family)
  /-- The node has a subnet of that family in the network already. -/
  | duplicateSubnet (node : String) (network : NetworkName) (family : Family)
    (existing rejected : Subnet)
  deriving DecidableEq

def TopologyError.message : TopologyError → String
  | .unknownStack networks =>
    s!"Cannot derive the stack type from the service network {Text.quoted networks}"
  | .invalidNetworkName text =>
    s!"Invalid network name {Text.quoted text}, expected `default` or `<namespace>/<name>`"
  | .noNodes => "The topology does not contain any node"
  | .duplicateNode node => s!"Node {node} appears twice"
  | .missingAddress node family => s!"Node {node} has no {family} address"
  | .duplicateSubnet node network family existing rejected =>
    s!"Node {node} already has the {family} subnet {existing} in network {network} " ++
      s!"(cannot assign {rejected})"

end RouteWatch
