import RouteWatch.Command
import RouteWatch.Text.Search

/-!
# Scripted programs

A world in which programs answer by rules. The first rule whose pattern occurs in the line of a call
answers it; each rule gives its answers one after the other and repeats the last one. The world keeps
the calls.
-/

namespace RouteWatch.Simulation

/-- What a program does that is called. -/
inductive Reaction where
  | ends (reply : Reply)
  /-- It never ends by itself. -/
  | hangs
  deriving DecidableEq

/-- How programs react to calls with a pattern. -/
structure Rule where
  pattern : String
  next : Reaction
  /-- The reactions to the calls after that. -/
  later : List Reaction

/-- The rule after its next reaction was given, unless that is the last one. -/
def Rule.advance (r : Rule) : Rule :=
  match r.later with
  | [] => r
  | next :: later => { r with next, later }

/-- A world of scripted programs. -/
structure CommandWorld where
  /-- The rules, as far as they were not used up. -/
  rules : List Rule
  /-- The calls, the latest first. -/
  calls : List Invocation := []

namespace CommandWorld

/-- The reaction to a line, and the rules after that. Without a rule, a program ends well and says
nothing. -/
def react (line : String) : List Rule → Reaction × List Rule
  | [] => (.ends {}, [])
  | rule :: rest =>
    if Text.contains line rule.pattern then (rule.next, rule.advance :: rest)
    else
      let (reaction, rest) := react line rest
      (reaction, rule :: rest)

/-- The reaction to a call, and the world after that. -/
def call (i : Invocation) (w : CommandWorld) : Reaction × CommandWorld :=
  let (reaction, rules) := react i.line w.rules
  (reaction, { rules, calls := i :: w.calls })

def programs : List String :=
  ["oc", "kubectl", "ssh", "scp"]

/-- Why the program cannot be run, if so. -/
def fault? (i : Invocation) : Option LaunchFault :=
  if (i.program :: i.args).any fun arg => arg.toList.contains '\x00' then some .nulInArgument
  else if programs.contains i.program then none
  else some .notFound

/-- The programs of the world. -/
def runner : Runner CommandWorld := fun i =>
  match fault? i with
  | some fault => return .error fault
  | none => do
    match ← Timed.act fun _ w => w.call i with
    | .ends reply => return .ok reply
    | .hangs => Timed.hang

end CommandWorld

/-- The items, each with the number of times that it stands there in a row. -/
def runs {α : Type} [DecidableEq α] : List α → List (α × Nat)
  | [] => []
  | a :: rest =>
    match runs rest with
    | (b, n) :: more => if a = b then (b, n + 1) :: more else (a, 1) :: (b, n) :: more
    | [] => [(a, 1)]

end RouteWatch.Simulation
