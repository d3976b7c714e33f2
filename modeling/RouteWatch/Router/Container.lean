import RouteWatch.Cluster.Objects
import RouteWatch.Host.Session
import RouteWatch.Router.Daemons
import RouteWatch.Router.Document
import RouteWatch.Shell.Quote

/-!
# The external router as a container

The router runs in a container on the host, with its two files in a staging directory there. From
the moment the directory is made until the router has been removed, the handle is active: a failure
to start the router removes both again, and so does `release`, which is what happens to a handle
that is given up.
-/

namespace RouteWatch

/-- Why something asked of the external router failed. -/
inductive RouterError where
  /-- A command on the host failed. -/
  | host (e : HostError)
  /-- The router cannot be configured as specified. -/
  | render (e : RenderError)
  /-- There is no container of that name after it was started. -/
  | notRunning (name : String)
  /-- The host has no address towards the node. -/
  | noSource (node : Ip)
  /-- What the command printed cannot be read. -/
  | unreadable (line : String)
  deriving DecidableEq

def RouterError.message : RouterError → String
  | .host e => e.message
  | .render e => s!"Cannot render the router configuration: {e.message}"
  | .notRunning name => s!"Container {name} is not running"
  | .noSource node => s!"The host has no source address towards {node}"
  | .unreadable line => s!"Cannot parse the output of `{line}`"

/-- The external router on a host. -/
structure ExternalRouter where
  host : HostSession
  runtime : String
  elevated : Bool
  name : String
  id : String
  /-- The directory on the host with the files of the router. -/
  stagingDir : String
  /-- What the router was made to be. -/
  spec : RouterSpec
  /-- Whether there is something to remove. -/
  active : Bool
  deriving DecidableEq

namespace ExternalRouter

variable {σ : Type}

/-- The command, with `sudo` if that is configured. -/
def asRoot (r : ExternalRouter) (args : List String) : List String :=
  if r.elevated then "sudo" :: args else args

/-- The command to the program that runs containers. -/
def runtimeCommand (r : ExternalRouter) (args : List String) : List String :=
  r.asRoot (r.runtime :: args)

def removeContainer (r : ExternalRouter) : List String :=
  r.runtimeCommand ["rm", "-f", r.name]

def removeStaging (r : ExternalRouter) : List String :=
  r.asRoot ["rm", "-rf", r.stagingDir]

/-- The command line that removes both. -/
def removalLine (r : ExternalRouter) : String :=
  " ".intercalate r.removeContainer ++ "; " ++ " ".intercalate r.removeStaging

/-- The handle is given up: what there is to remove is removed, whether or not that succeeds. -/
def release (rn : Runner σ) (r : ExternalRouter) : Timed σ Unit :=
  if r.active then discard <| r.host.shellStatus rn r.removalLine else pure ()

/-- The container and the staging directory are removed. It is no failure if they are gone. -/
def deprovision (rn : Runner σ) (r : ExternalRouter) : Action σ RouterError ExternalRouter := do
  if r.active then
    discard <| Action.mapError .host (r.host.execStatus rn r.removeContainer)
    discard <| Action.mapError .host (r.host.execStatus rn r.removeStaging)
  return { r with active := false }

/-- The command that starts the container. -/
def startContainer (r : ExternalRouter) (image : String) : List String :=
  r.runtimeCommand ["run", "-d", "--privileged", "--network", "host", "--rm", "--ulimit", "core=-1",
    "--name", r.name, "--volume", s!"{r.stagingDir}:/etc/frr", image]

/-- The format in which the program that runs containers prints one field of each. -/
def listFormat (name : String) : String :=
  s!"'\x7b\x7b.{name}\x7d\x7d'"

/-- The identifier of the container of that name. -/
def lookupId (rn : Runner σ) (r : ExternalRouter) : Action σ RouterError String := do
  let printed ← Action.mapError .host <| r.host.execText rn <|
    r.runtimeCommand ["ps", "--filter", s!"name=^{r.name}$", "--format", listFormat "ID"]
  Action.ofOption (.notRunning r.name) (Text.trimmedLines printed).head?

/-- The local file is copied into the staging directory. -/
def stage (rn : Runner σ) (r : ExternalRouter) (localDir file content : String) :
    Action σ RouterError Unit :=
  Action.mapError .host (r.host.upload rn s!"{localDir}/{file}" content s!"{r.stagingDir}/{file}")

/-- The local files are copied into the staging directory and the container is started. -/
def start (rn : Runner σ) (r : ExternalRouter) (image localDir conf : String) :
    Action σ RouterError ExternalRouter := do
  r.stage rn localDir "frr.conf" conf
  r.stage rn localDir "daemons" Router.daemons
  discard <| Action.mapError .host (r.host.execText rn (r.startContainer image))
  return { r with id := ← r.lookupId rn }

/-- The router runs on the host. The suffix makes the names of its container and its directory
differ from those of other routers; the local directory holds its files before they are copied. -/
def provision (rn : Runner σ) (host : HostSession) (hostConfig : HostConfig)
    (config : RouterConfig) (spec : RouterSpec) (suffix localDir : String) :
    Action σ RouterError ExternalRouter := do
  let conf ← Action.ofExcept (spec.render.mapError .render)
  let r : ExternalRouter := {
    host, spec
    runtime := config.runtime
    elevated := config.elevated
    name := config.containerPrefix ++ suffix
    id := ""
    stagingDir := hostConfig.stagingPrefix ++ suffix
    active := true }
  discard <| Action.mapError .host (host.exec rn ["mkdir", "-p", r.stagingDir])
  match ← (r.start rn config.image localDir conf).outcome with
  | .ok r => return r
  | .error e => do
    Action.time (r.release rn)
    throw e

/-- What a command of the daemon's shell prints in the container. -/
def daemonShell (rn : Runner σ) (r : ExternalRouter) (line : String) : Action σ HostError String :=
  r.host.execText rn (r.runtimeCommand ["exec", r.id, "vtysh", "-c", Shell.quote line])

/-- What a command line prints on the host, which shares its network with the router. -/
def hostShell (rn : Runner σ) (r : ExternalRouter) (line : String) : Action σ HostError String :=
  r.host.shell rn line

end ExternalRouter

namespace HostSession

variable {σ : Type}

/-- The first source address in a list of routes. -/
def sourceOfJson (text : String) : Option (Option Ip) := do
  let route? (j : Json) := do
    let [source] ← j.record? ["prefsrc"] | none
    Json.optional? Json.ip? source
  return (← Json.listOf? route? (← Json.parse? text)).findSome? id

/-- The address of the host towards the node. -/
def sourceTowards (rn : Runner σ) (host : HostSession) (node : Ip) : Action σ RouterError Ip := do
  let family := match node.family with
    | .v4 => []
    | .v6 => ["-6"]
  let args := ["ip", "-j"] ++ family ++ ["route", "get", node.text]
  let printed ← Action.mapError .host (host.execText rn args)
  let source ← Action.ofOption (.unreadable (" ".intercalate args)) (sourceOfJson printed)
  Action.ofOption (.noSource node) source

/-- The names of the containers on the host that look like external routers. -/
def runningRouters (rn : Runner σ) (host : HostSession) (config : RouterConfig) :
    Action σ RouterError (List String) := do
  let args := (if config.elevated then ["sudo"] else []) ++ [config.runtime, "ps", "--filter",
    s!"name=^{config.containerPrefix}", "--format", ExternalRouter.listFormat "Names"]
  return Text.trimmedLines (← Action.mapError .host (host.execText rn args))

end HostSession

end RouteWatch
