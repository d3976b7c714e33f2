import RouteWatch.CommandLine.Relay
import RouteWatch.CommandLine.Run
import RouteWatch.Time.Calendar

/-!
# The program

The command line is carried out. Other programs are not started from here: each call is written to
the output as a line of JSON, and what it left is read from the input as another one. Files that are
to be copied lie where the calls name them.
-/

namespace RouteWatch.CommandLine

/-- How command lines are written. -/
def usage : String :=
  "Usage: bgp-e2e [-c FILE] [-r REPORT] COMMAND [OPTIONS]\nCommands: "
    ++ ", ".intercalate commandNames ++ "\n"

def readVariables : IO Variables := do
  let names := [configVariable, hostVariable, keyVariable]
  let values ← names.mapM fun name => return (name, ← IO.getEnv name)
  return fun name => (values.lookup name).join

def readFile? (file : String) : IO (Option String) :=
  try some <$> IO.FS.readFile file catch _ => return none

/-- The end of the names of a router. -/
def randomSuffix : IO String := do
  let letters := "abcdefghijklmnopqrstuvwxyz0123456789".toList
  let picks ← (List.range 8).mapM fun _ => IO.rand 0 (letters.length - 1)
  return String.ofList (picks.filterMap (letters[·]?))

/-- The files that the command line or the environment name. -/
def namedFiles (env : Variables) (args : List String) : List String :=
  let named := match Options.parse args with
    | .ok o => o.config
    | .error _ => none
  (named.or (env configVariable)).toList

/-- What the program finds around it, and the time since 1970 in seconds. -/
def findSurroundings (args : List String) : IO (Surroundings × Nat) := do
  let env ← readVariables
  let files ← (namedFiles env args).mapM fun file => return (file, ← readFile? file)
  let dir ← IO.FS.createTempDir
  let seconds := (← dir.metadata).modified.sec.toNat
  let started := (CalendarTime.ofSeconds seconds).text
  return ({
    env, started
    file? := fun file => (files.lookup file).join
    writable := fun _ => true
    suffix := ← randomSuffix
    localDir := dir.toString }, seconds)

/-- The file that a call copies lies where the call names it. -/
def placeFile (call : Invocation) : IO Unit := do
  let file : Option String := call.args.reverse[1]?
  match call.file, file with
  | some content, some file => IO.FS.writeFile file content
  | _, _ => return

/-- The call is written, and what it left is read. -/
def relay (input output : IO.FS.Stream) (start : Nat) (r : Request) : IO Relayed := do
  let passed := (← IO.monoMsNow) - start
  IO.sleep (r.at_ - passed).toUInt32
  placeFile r.call
  let asked ← IO.monoMsNow
  output.putStr (r.line ++ "\n")
  output.flush
  match replyOfLine? (← input.getLine) with
  | some reply => return ⟨reply, (← IO.monoMsNow) - asked⟩
  | none => throw (IO.userError "the reply cannot be read")

/-- The run is made until all its calls are answered. -/
partial def relayAll (run : Timed RelayWorld Outcome) (input output : IO.FS.Stream) (start : Nat)
    (answers : List Relayed) : IO Outcome := do
  let ending := run.run none 0 { answers }
  match ending.world.request, ending.value? with
  | some request, _ => relayAll run input output start (answers ++ [← relay input output start request])
  | none, some outcome => return outcome
  | none, none => throw (IO.userError "the run does not end")

/-- The report is written to a file of its own. -/
def writeReport (start : String) (seconds : Nat) (r : Report) : IO Unit := do
  let stamp := (CalendarTime.ofSeconds seconds).stamp
  let exists_ (name : String) : IO Bool := return (← readFile? name).isSome
  let candidates := none :: (List.range 1000).map (some <| · + 1)
  for number in candidates do
    let name := Report.fileName start stamp number
    unless ← exists_ name do
      IO.FS.writeFile name r.fileText
      return

/-- What went wrong is told. -/
def complain : Fault → IO Unit
  | .refused .help => IO.print usage
  | .refused .usage => IO.eprint usage
  | .failed complaint => IO.eprintln s!"Error: {complaint}"

/-- The command line is carried out; the result is the code with which the program ends. -/
def carryOut (args : List String) : IO UInt32 := do
  let (surroundings, seconds) ← findSurroundings args
  let start ← IO.monoMsNow
  let outcome ←
    try relayAll (run relayRunner surroundings args) (← IO.getStdin) (← IO.getStdout) start []
    finally IO.FS.removeDirAll surroundings.localDir
  IO.print outcome.printed
  if let some (start, report) := outcome.report then writeReport start seconds report
  if let .error fault := outcome.result then complain fault
  return outcome.exitCode.toUInt32

end RouteWatch.CommandLine

open RouteWatch.CommandLine in
def main (args : List String) : IO UInt32 := do
  try carryOut args
  catch e =>
    IO.eprintln s!"Error: {e}"
    return 1
