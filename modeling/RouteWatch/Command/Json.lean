import RouteWatch.Command
import RouteWatch.Json.Value
import RouteWatch.Text.Hex

/-!
# Calls and replies as JSON

A call is told with its arguments, with what it reads from its standard input if its last argument
says that it does, and with the content of the file that it copies. A reply is told with its output,
as text or in hexadecimal, and with the code or the signal that ended the program.
-/

namespace RouteWatch

def Invocation.readsInput (i : Invocation) : Bool :=
  i.args.getLast? == some "-"

/-- The fields that tell a call. -/
def Invocation.fields (i : Invocation) : List (String × Json) :=
  let input := if i.readsInput then [("stdin", Json.text (i.input.getD ""))] else []
  let file := i.file.toList.map fun content => ("file", Json.text content)
  ("argv", Json.ofTexts (i.program :: i.args)) :: input ++ file

namespace Reply

/-- The integer in a field; zero if there is none. -/
def integer? : Option Json → Option Int
  | some (.number digits) => digits.toInt?
  | some .null | none => some 0
  | _ => none

/-- The octets of a text, or else those that are told in hexadecimal. -/
def octets? : (text hex : Option Json) → Option (List UInt8)
  | _, some (.string (some digits)) => Text.Hex.octets? digits.toList
  | some (.string (some s)), none => some s.toUTF8.toList
  | none, none => some []
  | _, _ => none

/-- The way in which a program ended. Codes are told modulo 256. -/
def status? (code signal : Option Json) : Option ExitStatus := do
  match ← integer? signal with
  | 0 => return .exited ((← integer? code) % 256).toNat
  | n => return .killed n.toNat

def ofJson? (j : Json) : Option Reply := do
  let [stdout, stdoutHex, stderr, stderrHex, code, signal] ←
    j.record? ["stdout", "stdout_hex", "stderr", "stderr_hex", "code", "signal"] | none
  return ⟨← octets? stdout stdoutHex, ← octets? stderr stderrHex, ← status? code signal⟩

end Reply

end RouteWatch
