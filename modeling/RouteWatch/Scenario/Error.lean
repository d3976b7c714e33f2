import RouteWatch.Convergence
import RouteWatch.LabSampling

/-!
# Why a scenario fails
-/

namespace RouteWatch

/-- Why something asked of the lab failed. -/
inductive LabError where
  | host (e : HostError)
  | router (e : RouterError)
  | cluster (e : ClusterError)
  | topology (e : TopologyError)
  deriving DecidableEq

def LabError.message : LabError → String
  | .host e => s!"Session error: {e.message}"
  | .router e => s!"Router error: {e.message}"
  | .cluster e => s!"Cluster error: {e.message}"
  | .topology e => s!"Topology error: {e.message}"

/-- Why a scenario failed. -/
inductive ScenarioError where
  | lab (e : LabError)
  | advertisementsDisabled
  | noSubnets (network : NetworkName)
  /-- No node holds the egress address. -/
  | noEgressAssignment (name : String)
  /-- There is no other node for the egress address. -/
  | noFailoverTarget (node : String)
  | unknownNode (node : String)
  /-- The scenario makes no sense with these options. -/
  | invalid (reason : String)
  /-- A plan did not converge. -/
  | unverified (description : String) (attempts : Nat) (details : String)
  deriving DecidableEq

def ScenarioError.message : ScenarioError → String
  | .lab e => e.message
  | .advertisementsDisabled => "Route advertisements are not enabled on the cluster"
  | .noSubnets network => s!"No node has a pod subnet in network {network}"
  | .noEgressAssignment name => s!"Egress IP {name} is not assigned to any node"
  | .noFailoverTarget node => s!"No node to move the egress IP away from {node}"
  | .unknownNode node => s!"Node {node} is not part of the topology"
  | .invalid reason => s!"Invalid scenario: {reason}"
  | .unverified description attempts details =>
    s!"{description} did not converge after {attempts} attempts: {details}"

/-- That the plan converged. -/
def Convergence.ensure (plan : Plan) (c : Convergence) : Except ScenarioError Unit :=
  if c.converged then .ok () else .error (.unverified plan.description c.attempts c.details)

end RouteWatch
