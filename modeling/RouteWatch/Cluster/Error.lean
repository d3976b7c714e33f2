import RouteWatch.Command
import RouteWatch.Topology.Error

/-!
# What can go wrong with a cluster
-/

namespace RouteWatch

/-- Why something asked of the cluster failed. -/
inductive ClusterError where
  /-- There is no program that talks to the cluster. -/
  | launch (fault : LaunchFault)
  | command (line : String) (code : Nat) (complaint : String)
  | notText (fault : Text.Utf8.Fault)
  /-- What the program wrote is not the JSON that was asked for. -/
  | json
  /-- A value in what the program wrote cannot be read. -/
  | unreadable (what value : String)
  | topology (e : TopologyError)
  | noAgentPod (node : String)
  /-- What was awaited did not come. -/
  | timeout (what last : String)
  | label (kind name change : String)
  /-- An object is there after it was deleted. -/
  | stillPresent (kind name : String)
  deriving DecidableEq

def ClusterError.message : ClusterError → String
  | .launch fault => s!"Cannot execute the cluster CLI: {fault.message}"
  | .command line code complaint => s!"`{line}` exited with code {code}: {complaint}"
  | .notText fault => s!"Cannot parse output as UTF-8: {fault.message}"
  | .json => "Cannot parse the JSON output"
  | .unreadable what value => s!"Cannot parse {what}: {Text.quoted value}"
  | .topology e => s!"Invalid topology: {e.message}"
  | .noAgentPod node => s!"No BGP agent pod runs on node {node}"
  | .timeout what last => s!"Timeout while waiting for {what}. Last observation: {last}"
  | .label kind name change => s!"Cannot apply label {change} on {kind} {name}"
  | .stillPresent kind name => s!"{kind} {name} still exists after deleting it"

end RouteWatch
