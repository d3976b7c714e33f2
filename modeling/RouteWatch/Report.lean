import RouteWatch.Convergence
import RouteWatch.Json.Printer
import RouteWatch.Mesh
import RouteWatch.Time.Seconds

/-!
# Reports

A report lists the checks that a scenario made and how each of them went. It is written as JSON to a
file of its own, whose name tells the time.
-/

namespace RouteWatch

/-- A check that was made. -/
structure CheckRecord where
  description : String
  expectations : Nat
  /-- How often and for how long it was tried. -/
  settings : Poll.Settings
  /-- Whether the plan converged. -/
  converged : Bool
  attempts : Nat
  /-- The time that they took. -/
  elapsed : Millis
  /-- The expectations that did not hold at last. -/
  mismatches : List String
  deriving DecidableEq

namespace CheckRecord

/-- The check of a plan that went like this. -/
def ofOutcome (plan : Plan) (settings : Poll.Settings) (c : Convergence) : CheckRecord where
  description := plan.description
  expectations := plan.size
  settings := settings
  converged := c.converged
  attempts := c.attempts
  elapsed := c.elapsed
  mismatches := c.mismatches.map Mismatch.headline

/-- The check in a report. Times are in seconds, those of the settings in whole ones. -/
def json (r : CheckRecord) : Json :=
  .struct [
    ("description", .text r.description),
    ("expectations", .nat r.expectations),
    ("interval_secs", .nat r.settings.interval.seconds),
    ("timeout_secs", .nat r.settings.timeout.seconds),
    ("converged", .bool r.converged),
    ("attempts", .nat r.attempts),
    ("elapsed_secs", .number (Seconds.text r.elapsed)),
    ("mismatches", .array (r.mismatches.map .text))]

end CheckRecord

/-- What is known about the run of a scenario. -/
structure Report where
  scenario : String
  started : String
  stack : Stack
  nodes : List String
  checks : List CheckRecord := []
  deriving DecidableEq

namespace Report

/-- The report of a scenario that starts. -/
def ofTopology (scenario started : String) (topology : Topology) : Report :=
  { scenario, started, stack := topology.stack, nodes := topology.nodes.map (·.name) }

/-- The report with one more check. -/
def record (r : Report) (plan : Plan) (settings : Poll.Settings) (c : Convergence) : Report :=
  { r with checks := r.checks ++ [.ofOutcome plan settings c] }

/-- All checks went as they should. -/
def passed (r : Report) : Bool :=
  r.checks.all (·.converged)

def json (r : Report) : Json :=
  .struct [
    ("scenario", .text r.scenario),
    ("started", .text r.started),
    ("stack", .text r.stack.text),
    ("nodes", .array (r.nodes.map .text)),
    ("checks", .array (r.checks.map CheckRecord.json))]

/-- The content of the file of the report. -/
def fileText (r : Report) : String :=
  r.json.pretty ++ "\n"

/-- The name of a file with this number, if it has one. -/
def fileName (start stamp : String) : Option Nat → String
  | none => s!"{start}_{stamp}.json"
  | some n => s!"{start}_{stamp}_{n}.json"

/-- The first of the candidates, from this one on, that is no file yet. The files that there are
bound the search. -/
def freshNameFrom (files : String → Bool) (start stamp : String) : Nat → Option Nat → String
  | 0, number => fileName start stamp number
  | fuel + 1, number =>
    let name := fileName start stamp number
    if files name then freshNameFrom files start stamp fuel (some (number.getD 0 + 1)) else name

/-- A directory: the names of its files and what they hold. -/
abbrev Files := Table String String

/-- The name of a file that is not there yet: with the time, and with a number if that is taken. -/
def freshName (files : Files) (start stamp : String) : String :=
  freshNameFrom files.contains start stamp files.entries.length none

/-- The directory with the report in a file of its own, and the name of that file. -/
def writeStamped (files : Files) (start stamp : String) (r : Report) : Files × String :=
  let name := freshName files start stamp
  (files.insert name r.fileText, name)

end Report

end RouteWatch
