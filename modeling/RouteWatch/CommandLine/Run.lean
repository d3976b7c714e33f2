import RouteWatch.CommandLine.Options
import RouteWatch.Config.Reader
import RouteWatch.Lab
import RouteWatch.Report

/-!
# Carrying out a command line

A command line prints a file of the external router, or sets a lab up, runs a scenario in it, tears it
down and leaves a report. The lab is torn down and the report is left even if the scenario fails.
-/

namespace RouteWatch

/-- The name of the scenario in reports. -/
def ScenarioChoice.name : ScenarioChoice → String
  | .defaultNetwork _ => "default-network"
  | .selector _ => "selector"
  | .failover _ => "failover"
  | .recovery _ => "recovery"

namespace CommandLine

/-- What a command line finds around it. -/
structure Surroundings where
  env : Variables
  /-- The contents of the files that can be read. -/
  file? : String → Option String
  /-- Whether a report can be left in a file whose name starts like this. -/
  writable : String → Bool
  started : String
  /-- The end of the names of the router's container and directory. -/
  suffix : String
  /-- A directory for the files of the router before they are copied. -/
  localDir : String

/-- Why a command line was not carried out as it should. -/
inductive Fault where
  /-- It was not even begun. -/
  | refused (r : Refusal)
  | failed (complaint : String)
  deriving DecidableEq

/-- What a command line leaves. -/
structure Outcome where
  /-- Whether all went well; otherwise, what went wrong. -/
  result : Except Fault Unit := .ok ()
  printed : String := ""
  /-- The report, with the start of the name of its file. -/
  report : Option (String × Report) := none

/-- The outcome of something that failed before it left anything. -/
def Outcome.failed (complaint : String) : Outcome :=
  { result := .error (.failed complaint) }

/-- The code with which the program ends. To ask for help is no failure, and another command line
that is not written as it should be is told from one that fails. -/
def Outcome.exitCode (o : Outcome) : Nat :=
  match o.result with
  | .ok _ => 0
  | .error (.refused .help) => 0
  | .error (.refused .usage) => 2
  | .error (.failed _) => 1

def Printing.spec (p : Printing) (config : RouterConfig) : RouterSpec :=
  let spec := (RouterSpec.ofConfig config).withPeers p.peers
  let spec := p.routerId.elim spec spec.withRouterId
  match p.vrf with
  | some name =>
    spec.withVrf ⟨name, RouterSpec.ofFamily .v4 p.vrfPeers, RouterSpec.ofFamily .v6 p.vrfPeers⟩
  | none => spec

/-- The configuration of the router that is to be printed. Variables do not change it. -/
def printingConfig (s : Surroundings) : Option String → Except ConfigError RouterConfig
  | some file =>
    match s.file? file with
    | some content => (·.router) <$> LabConfig.parse content
    | none => .error (.unreadable file)
  | none => .ok {}

def Printing.text (s : Surroundings) (config : Option String) (p : Printing) :
    Except String String := do
  let router ← (printingConfig s config).mapError ConfigError.message
  match p.file with
  | .configuration => (p.spec router).render.mapError RenderError.message
  | .daemons => return Router.daemons

def labConfig (s : Surroundings) : Option String → Except ConfigError LabConfig
  | some file => LabConfig.ofFile s.env file (s.file? file)
  | none => LabConfig.ofVariables s.env s.file?

variable {σ : Type}

/-- The scenario runs in a lab that is set up for it, and torn down after it. -/
def runScenario (rn : Runner σ) (s : Surroundings) (config : LabConfig) (enable : Bool)
    (choice : ScenarioChoice) : Action σ ScenarioError (Except ScenarioError Unit × Report) := do
  let lab ← Lab.setup rn config enable s.suffix s.localDir
  let report := Report.ofTopology choice.name s.started lab.topology
  let ended ← Action.time ((choice.scenario (lab.environment rn)).run.run report)
  -- the scenario tells how it went, whatever becomes of the lab
  discard (lab.teardown rn).outcome
  return ended

/-- What a scenario leaves that ended like this. That its report cannot be left is the worse
failure. -/
def Outcome.ofScenario (s : Surroundings) (start : Option String)
    (result : Except ScenarioError Unit) (report : Report) : Outcome :=
  let result := result.mapError fun e => Fault.failed e.message
  match start with
  | none => { result }
  | some start =>
    if s.writable start then { result, report := some (start, report) }
    else .failed "the report cannot be written"

def Options.run (rn : Runner σ) (s : Surroundings) (o : Options) : Timed σ Outcome := do
  match o.command with
  | .print what =>
    return match what.text s o.config with
      | .ok printed => { printed }
      | .error complaint => .failed complaint
  | .run enable choice =>
    match labConfig s o.config with
    | .error e => return .failed e.message
    | .ok config =>
      match ← (runScenario rn s config enable choice).run with
      | .error e => return .failed e.message
      | .ok (result, report) => return .ofScenario s o.report result report

/-- The command line is carried out. -/
def run (rn : Runner σ) (s : Surroundings) (args : List String) : Timed σ Outcome :=
  match Options.parse args with
  | .ok o => o.run rn s
  | .error refusal => return { result := .error (.refused refusal) }

end CommandLine

end RouteWatch
