import RouteWatch.Ip.Reader
import RouteWatch.Scenario.Run

/-!
# Options of the command line

A command line is a list of general options, the name of a command, and the options of that command.
Options have a long name and perhaps a letter. A value follows in the next argument, after an equals
sign, or right after the letter; it starts with a hyphen only in the latter two cases.
-/

namespace RouteWatch.CommandLine

/-- Why a command line is not carried out. -/
inductive Refusal where
  /-- It asks how to write command lines. -/
  | help
  /-- It is not written as it should. -/
  | usage
  deriving DecidableEq

/-- What an option does to the record of the options. -/
inductive Effect (ρ : Type) where
  | flag (set : ρ → ρ)
  /-- It has a value, which may be unacceptable. -/
  | value (read : String → ρ → Option ρ)

/-- An option of a record. -/
structure Opt (ρ : Type) where
  name : String
  /-- The letter, for an option with a value. -/
  letter : Option Char := none
  /-- It may be there more than once. -/
  repeats : Bool := false
  effect : Effect ρ

/-- An argument, as far as its first characters tell what it is. -/
inductive Arg where
  /-- Only a separator of options from other things. -/
  | separator
  /-- A long name, perhaps with a value. -/
  | long (name : String) (value : Option String)
  /-- A letter, with what follows it. -/
  | short (letter : Char) (rest : String)
  /-- Something that is no option. -/
  | plain (text : String)

def Arg.parse (s : String) : Arg :=
  match s.toList with
  | ['-', '-'] => .separator
  | '-' :: '-' :: rest =>
    match Text.splitOnce '=' (String.ofList rest) with
    | some (name, value) => .long name (some value)
    | none => .long (String.ofList rest) none
  | '-' :: letter :: rest => .short letter (String.ofList rest)
  | _ => .plain s

/-- The text can be the value of the option before it. -/
def isValue (s : String) : Bool :=
  Arg.parse s matches .plain _

/-- The value that follows a letter in the same argument, if there is one. -/
def attached? (rest : String) : Option String :=
  match rest.toList with
  | [] => none
  | '=' :: value => some (String.ofList value)
  | _ => some rest

variable {ρ : Type}

/-- The options of a record, so far, and which ones were there. -/
structure Reading (ρ : Type) where
  record : ρ
  seen : List String := []

inductive Found (ρ : Type) where
  | complete (r : Reading ρ)
  /-- An option whose value is the next argument. -/
  | open_ (take : String → Option (Reading ρ))
  | plain (text : String)
  | separator

/-- The reading with one more option, if it may be there once more. -/
def Reading.add (r : Reading ρ) (o : Opt ρ) (record : Option ρ) : Option (Reading ρ) :=
  if r.seen.contains o.name && !o.repeats then none
  else record.map fun record => ⟨record, o.name :: r.seen⟩

/-- The option with a value, if that is given, or is yet to come. -/
def Reading.valued (r : Reading ρ) (o : Opt ρ) (read : String → ρ → Option ρ)
    (value : Option String) : Except Refusal (Found ρ) :=
  let take (v : String) := r.add o (read v r.record)
  match value with
  | some v => (take v).elim (.error .usage) fun r => .ok (.complete r)
  | none => .ok (.open_ take)

/-- What the argument is. -/
def Reading.find (opts : List (Opt ρ)) (r : Reading ρ) (arg : String) :
    Except Refusal (Found ρ) :=
  match Arg.parse arg with
  | .separator => .ok .separator
  | .plain text => .ok (.plain text)
  | .long "help" none => .error .help
  | .short 'h' _ => .error .help
  | .long name value =>
    match opts.find? (·.name == name), value with
    | some o, value =>
      match o.effect, value with
      | .flag set, none => (r.add o (some (set r.record))).elim (.error .usage) (.ok <| .complete ·)
      | .flag _, some _ => .error .usage
      | .value read, value => r.valued o read value
    | none, _ => .error .usage
  | .short letter rest =>
    match opts.find? (·.letter == some letter) with
    | some o =>
      match o.effect with
      | .value read => r.valued o read (attached? rest)
      | .flag _ => .error .usage
    | none => .error .usage

/-- The record of the options at the start of the arguments, and the other arguments. A separator
may stand at the end. -/
def readOptions (opts : List (Opt ρ)) (r : Reading ρ) :
    List String → Except Refusal (Reading ρ × List String)
  | [] => .ok (r, [])
  | arg :: rest => do
    match ← r.find opts arg with
    | .complete r => readOptions opts r rest
    | .plain _ => return (r, arg :: rest)
    | .separator => if rest.isEmpty then return (r, []) else throw .usage
    | .open_ take =>
      match rest with
      | value :: rest =>
        match if isValue value then take value else none with
        | some r => readOptions opts r rest
        | none => throw .usage
      | [] => throw .usage

/-- The record of options when there is nothing but options. -/
def onlyOptions (opts : List (Opt ρ)) (record : ρ) (args : List String) :
    Except Refusal ρ := do
  let (r, rest) ← readOptions opts { record } args
  unless rest.isEmpty do throw .usage
  return r.record

/-- The option with a value that is taken as it is. -/
def textOption (name : String) (put : String → ρ → ρ) (letter : Option Char := none) : Opt ρ :=
  { name, letter, effect := .value fun v r => some (put v r) }

/-- The option with a value that has to be read. -/
def readOption {α : Type} (name : String) (read : String → Option α) (put : α → ρ → ρ)
    (letter : Option Char := none) (repeats : Bool := false) : Opt ρ :=
  { name, letter, repeats, effect := .value fun v r => (read v).map (put · r) }

/-- Which file of the external router to print. -/
inductive RouterFile where
  | configuration
  | daemons
  deriving DecidableEq

def RouterFile.parse? (s : String) : Option RouterFile :=
  if s = "frr-conf" then some .configuration
  else if s = "daemons" then some .daemons
  else none

/-- What to print about an external router. -/
structure Printing where
  peers : List Ip := []
  routerId : Option Ipv4 := none
  /-- The VRF of the second routing instance. -/
  vrf : Option String := none
  vrfPeers : List Ip := []
  file : RouterFile := .configuration

/-- The options that say what to print. -/
def printingOptions : List (Opt Printing) :=
  [readOption "peer" Ip.parse? (fun ip r => { r with peers := r.peers ++ [ip] }) (some 'p') true,
   readOption "router-id" Ipv4.parse? fun ip r => { r with routerId := some ip },
   textOption "vrf" fun name r => { r with vrf := some name },
   readOption "vrf-peer" Ip.parse? (fun ip r => { r with vrfPeers := r.vrfPeers ++ [ip] }) none true,
   readOption "file" RouterFile.parse? (fun file r => { r with file }) (some 'f')]

/-- What the options of a scenario say. -/
structure ScenarioOptions where
  /-- Route advertisements are enabled if they are not. -/
  enable : Bool := false
  name : Option String := none
  /-- The label that selects networks. -/
  label : Label := ⟨"advertise", "true"⟩
  selected : Option String := none
  /-- The network that is not selected. -/
  other : Option String := none
  egress : Option String := none
  /-- The node to which the egress address is moved. -/
  target : Option String := none
  /-- The part of the cluster that is restarted. -/
  disruption : Disruption := .frr

def commonOptions : List (Opt ScenarioOptions) :=
  [{ name := "enable", effect := .flag fun r => { r with enable := true } },
   textOption "name" fun name r => { r with name := some name }]

def selectorOptions : List (Opt ScenarioOptions) :=
  commonOptions ++
    [readOption "label" (fun s => (Label.parse s).toOption) (fun label r => { r with label })
        (some 'l'),
      textOption "selected" fun name r => { r with selected := some name },
      textOption "other" fun name r => { r with other := some name }]

def failoverOptions : List (Opt ScenarioOptions) :=
  commonOptions ++
    [textOption "egress-ip" fun name r => { r with egress := some name },
      textOption "to" fun name r => { r with target := some name }]

def recoveryOptions : List (Opt ScenarioOptions) :=
  commonOptions ++
    [readOption "disrupt" (fun s => (Disruption.parse s).toOption)
      fun disruption r => { r with disruption }]

/-- What is to be done. -/
inductive Command where
  /-- A file of the external router is printed. -/
  | print (what : Printing)
  /-- A scenario is run in a lab. -/
  | run (enable : Bool) (scenario : ScenarioChoice)

def commandNames : List String :=
  ["render-config", "default-network", "selector", "failover", "recovery"]

/-- What is there, or else the command line is not written as it should. -/
def needed {α : Type} (a : Option α) : Except Refusal α :=
  a.elim (.error .usage) .ok

/-- The command of that name, with these arguments. -/
def Command.parse (name : String) (args : List String) : Except Refusal Command := do
  match name with
  | "render-config" =>
    let what ← onlyOptions printingOptions {} args
    if !what.vrfPeers.isEmpty && what.vrf.isNone then throw .usage
    return .print what
  | "default-network" =>
    let o ← onlyOptions commonOptions {} args
    return .run o.enable (.defaultNetwork (o.name.getD "default"))
  | "selector" =>
    let o ← onlyOptions selectorOptions {} args
    return .run o.enable <| .selector {
      name := o.name.getD "selected", label := o.label
      selected := ← needed o.selected, other := ← needed o.other }
  | "failover" =>
    let o ← onlyOptions failoverOptions {} args
    return .run o.enable <| .failover {
      name := o.name.getD "egress", egress := ← needed o.egress, target := o.target }
  | "recovery" =>
    let o ← onlyOptions recoveryOptions {} args
    return .run o.enable <| .recovery {
      name := o.name.getD "default", disruption := o.disruption }
  | "help" =>
    throw (if args.length ≤ 1 && args.all ("help" :: commandNames).contains then .help else .usage)
  | _ => throw .usage

structure Options where
  config : Option String := none
  /-- The start of the name of the file of the report. -/
  report : Option String := none
  command : Command

/-- The name of a file, which is not empty. -/
def fileName? (s : String) : Option String :=
  if s.isEmpty then none else some s

/-- The general options: the file with the configuration and the start of the name of the report. -/
def generalOptions : List (Opt (Option String × Option String)) :=
  [readOption "config" fileName? (fun file r => (some file, r.2)) (some 'c'),
   textOption "report" (fun start r => (r.1, some start)) (some 'r')]

def Options.parse (args : List String) : Except Refusal Options := do
  let (r, rest) ← readOptions generalOptions { record := (none, none) } args
  match rest with
  | name :: args => return ⟨r.record.1, r.record.2, ← Command.parse name args⟩
  | [] => throw .usage

end RouteWatch.CommandLine
