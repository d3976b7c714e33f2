import RouteWatch.Command.Json
import RouteWatch.Json.Printer
import RouteWatch.Json.Reader

/-!
# Relayed programs

A world in which the calls of programs are answered from outside, one after the other. What has been
answered so far is given; at the first call without an answer, time stands still, and the call is
kept. A run is made again with one more answer until all its calls are answered.
-/

namespace RouteWatch.CommandLine

/-- An answer from outside: what the program left, and the time that it took. -/
structure Relayed where
  reply : Reply
  took : Millis

/-- A call that is not answered yet, and when it is made. -/
structure Request where
  call : Invocation
  at_ : Millis

/-- A world of relayed programs. -/
structure RelayWorld where
  answers : List Relayed
  /-- The first call without an answer. -/
  request : Option Request := none

/-- The programs of the world. -/
def relayRunner : Runner RelayWorld := fun call => do
  let answer ← Timed.act fun now w =>
    match w.answers with
    | answer :: rest => (some answer, { w with answers := rest })
    | [] => (none, { w with request := w.request.or (some ⟨call, now⟩) })
  match answer with
  | some answer => do
    Timed.wait answer.took
    return .ok answer.reply
  | none => Timed.hang

/-- The call as a line of JSON. -/
def Request.line (r : Request) : String :=
  (Json.map r.call.fields).compact

/-- What a program left, as a line of JSON says it. -/
def replyOfLine? (line : String) : Option Reply := do
  Reply.ofJson? (← Json.parse? line)

end RouteWatch.CommandLine
