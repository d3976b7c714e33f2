import RouteWatch.Cluster.Manifest
import RouteWatch.Cluster.Objects
import RouteWatch.Cluster.Session
import RouteWatch.Poll

/-!
# Changing the cluster

Every change is checked: an object is declared until the cluster takes it, a deleted object must be
gone, and a label must have its new value. What takes time is polled for. What is declared twice or
deleted twice is no error.
-/

namespace RouteWatch.Cluster

variable {σ ο α : Type}

/-- Attempts until one is ready. That none was is the only failure. -/
def await (settings : Poll.Settings) (what : String) (describe : ο → String)
    (attempt : Action σ ClusterError (Poll.Attempt ο α)) : Action σ ClusterError α := do
  let history ← Action.time (poll settings attempt)
  match history.outcome what ClusterError.message with
  | .ok polled => return polled.value
  | .error t => throw (.timeout t.what (t.last describe))

/-- The object is declared, as soon as the cluster takes it. -/
def declare (rn : Runner σ) (c : ClusterConfig) (r : Resource) : Action σ ClusterError Unit :=
  await Poll.Settings.resourceCreate s!"{r.kind} {r.name} to be declared" (id : String → String) do
    discard <| runWith rn c ["apply", "-f", "-"] (some r.manifest.compact)
    return .ready ()

/-- The first condition of the object, in JSON. -/
def firstCondition (rn : Runner σ) (c : ClusterConfig) (kind : String) (space : Option String)
    (name : String) : Action σ ClusterError (Option Condition) := do
  Action.ofExcept
    (Condition.ofJson (← field rn c kind space name "\x7b.status.conditions[0]\x7d"))

/-- The message of the object's first condition, once it is met for the desired reason. -/
def awaitCondition (rn : Runner σ) (c : ClusterConfig) (kind : String) (space : Option String)
    (name desired : String) : Action σ ClusterError String :=
  await Poll.Settings.resourceCondition s!"{kind} {name} to be {desired}" (id : String → String) do
    match ← firstCondition rn c kind space name with
    | some condition =>
      return if condition.isMet desired then .ready condition.message else .pending condition.text
    | none => return .pending "no condition reported"

def names (rn : Runner σ) (c : ClusterConfig) (kind : String) (space : Option String) :
    Action σ ClusterError (List String) := do
  return Text.words (← run rn c (["get", kind, namesPath] ++ inNamespace space))

/-- The object is gone, whether or not it was there. -/
def delete (rn : Runner σ) (c : ClusterConfig) (kind : String) (space : Option String)
    (name : String) : Action σ ClusterError Unit := do
  if (← names rn c kind space).contains name then
    discard <| run rn c (["delete", kind, name, "--wait=true"] ++ inNamespace space)
    if (← names rn c kind space).contains name then
      throw (.stillPresent kind name)

def deleteResource (rn : Runner σ) (c : ClusterConfig) (r : Resource) :
    Action σ ClusterError Unit :=
  delete rn c r.kind r.space r.name

def labels (rn : Runner σ) (c : ClusterConfig) (kind : String) (space : Option String)
    (name : String) : Action σ ClusterError (Table String String) := do
  Action.ofExcept (labelsOfJson (← field rn c kind space name "\x7b.metadata.labels\x7d"))

def label (rn : Runner σ) (c : ClusterConfig) (kind : String) (space : Option String)
    (name key value : String) : Action σ ClusterError Unit := do
  let change := s!"{key}={value}"
  discard <| run rn c (["label", kind, name, change, "--overwrite"] ++ inNamespace space)
  unless (← labels rn c kind space name).get? key = some value do
    throw (.label kind name change)

def unlabel (rn : Runner σ) (c : ClusterConfig) (kind : String) (space : Option String)
    (name key : String) : Action σ ClusterError Unit := do
  let change := s!"{key}-"
  discard <| run rn c (["label", kind, name, change] ++ inNamespace space)
  if (← labels rn c kind space name).contains key then
    throw (.label kind name change)

end RouteWatch.Cluster
