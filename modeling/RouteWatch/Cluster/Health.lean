import RouteWatch.Cluster.Drivers

/-!
# Health of the cluster

Route advertisements depend on the operator of the network, on the routing agents and their webhook,
and on the network's own pods. All of them can be waited for, and the pods can be restarted.
-/

namespace RouteWatch.Cluster

variable {σ : Type}

def networkOperator : String :=
  "network"

def operatorStatus (rn : Runner σ) (c : ClusterConfig) (name : String) :
    Action σ ClusterError OperatorStatus := do
  Action.ofExcept
    (OperatorStatus.ofJson (← field rn c "clusteroperator" none name "\x7b.status.conditions\x7d"))

/-- The operator has nothing to do any more. -/
def awaitOperator (rn : Runner σ) (c : ClusterConfig) (name : String) :
    Action σ ClusterError Unit :=
  await Poll.Settings.operatorRollout s!"cluster operator {name} to settle" OperatorStatus.text do
    let status ← operatorStatus rn c name
    return if status.settled then .ready () else .pending status

/-- The path of the states of all pods in a list. -/
def readinessPath : String :=
  "-ojsonpath=\x7b.items[*].status.conditions[?(@.type==\"Ready\")].status\x7d"

/-- The states of the pods with the labels, as words. -/
def podReadiness (rn : Runner σ) (c : ClusterConfig) (space labels : String) :
    Action σ ClusterError String := do
  return Text.trim (← run rn c ["get", "pods", "-n", space, "-l", labels, readinessPath])

/-- There are pods with the labels, and all are ready. -/
def awaitPods (rn : Runner σ) (c : ClusterConfig) (space labels : String) :
    Action σ ClusterError Unit :=
  await Poll.Settings.podsReady s!"pods {labels} in {space} to be ready" (id : String → String) do
    let states ← podReadiness rn c space labels
    return if podsReady states then .ready ()
      else if states.isEmpty then .pending "no pods"
      else .pending s!"ready: {states}"

/-- The routing agents and their webhook are ready. -/
def awaitFrr (rn : Runner σ) (c : ClusterConfig) : Action σ ClusterError Unit := do
  awaitPods rn c c.frrNamespace c.frrPods
  awaitPods rn c c.frrNamespace c.frrWebhook

/-- The pods with the labels are deleted; they will be made again. -/
def deletePods (rn : Runner σ) (c : ClusterConfig) (space labels : String) :
    Action σ ClusterError Unit := do
  discard <| run rn c ["delete", "pods", "-n", space, "-l", labels]

/-- The routing agents and their webhook are restarted and ready again. -/
def restartFrr (rn : Runner σ) (c : ClusterConfig) : Action σ ClusterError Unit := do
  deletePods rn c c.frrNamespace c.frrPods
  deletePods rn c c.frrNamespace c.frrWebhook
  awaitFrr rn c

/-- The network's own pods are restarted and ready again, and the network has settled. -/
def restartOvn (rn : Runner σ) (c : ClusterConfig) : Action σ ClusterError Unit := do
  deletePods rn c c.ovnNamespace c.ovnPods
  awaitPods rn c c.ovnNamespace c.ovnPods
  awaitOperator rn c networkOperator

end RouteWatch.Cluster
