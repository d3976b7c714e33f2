import RouteWatch.Lab

/-!
# Workbenches

A workbench holds what one works with: a session with the host, a router, and a lab. Each is made from
one configuration. A router or a lab that is replaced or put away is given up, so that nothing that
was started is forgotten.
-/

namespace RouteWatch

/-- What one works with. -/
structure Workbench where
  config : LabConfig
  host : Option HostSession := none
  router : Option ExternalRouter := none
  lab : Option Lab := none

/-- Work at a workbench: it takes time and may fail. -/
abbrev Work (σ ε α : Type) := ExceptT ε (StateT Workbench (Timed σ)) α

namespace Workbench

variable {σ ε α : Type}

/-- An action as work. -/
def act (x : Action σ ε α) : Work σ ε α :=
  ExceptT.mk (StateT.lift x.run)

/-- Something that cannot fail as work. -/
def time (x : Timed σ α) : Work σ ε α :=
  ExceptT.lift (StateT.lift x)

/-- A session with the host is opened. -/
def connect (rn : Runner σ) : Work σ HostError HostSession := do
  let host ← act (HostSession.connect rn (← get).config.host)
  modify ({ · with host := some host })
  return host

/-- The router is put away. -/
def dropRouter (rn : Runner σ) : Work σ ε Bool := do
  let bench ← get
  if let some router := bench.router then time (router.release rn)
  set { bench with router := none }
  return bench.router.isSome

/-- A router is started, and the former one put away. -/
def provision (rn : Runner σ) (host : HostSession) (spec : RouterSpec) (suffix localDir : String) :
    Work σ RouterError ExternalRouter := do
  let config := (← get).config
  let router ← act <|
    ExternalRouter.provision rn host config.host config.router spec suffix localDir
  discard <| dropRouter rn
  modify ({ · with router := some router })
  return router

/-- The router is removed, and stays on the workbench. -/
def deprovision (rn : Runner σ) (router : ExternalRouter) : Work σ RouterError ExternalRouter := do
  let router ← act (router.deprovision rn)
  modify ({ · with router := some router })
  return router

/-- The lab is put away. -/
def dropLab (rn : Runner σ) : Work σ ε Bool := do
  let bench ← get
  if let some lab := bench.lab then time (lab.release rn)
  set { bench with lab := none }
  return bench.lab.isSome

/-- A lab is set up, and the former one put away. -/
def setup (rn : Runner σ) (enable : Bool) (suffix localDir : String) :
    Work σ ScenarioError Lab := do
  let lab ← act (Lab.setup rn (← get).config enable suffix localDir)
  discard <| dropLab rn
  modify ({ · with lab := some lab })
  return lab

/-- The lab is torn down and not on the workbench any more. -/
def teardown (rn : Runner σ) (lab : Lab) : Work σ ScenarioError Unit := do
  modify ({ · with lab := none })
  act (lab.teardown rn)

/-- Everything is put away. -/
def clear (rn : Runner σ) : Work σ ε Unit := do
  discard <| dropRouter rn
  discard <| dropLab rn

end Workbench

end RouteWatch
