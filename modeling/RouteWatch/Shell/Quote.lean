/-!
# Arguments for a shell

A command reaches the host as one line, which a shell there splits into arguments. An argument is
left as it is if all its characters are plain; otherwise it stands in single quotes, within which
only the single quote itself has a meaning, so that it is written outside of them.
-/

namespace RouteWatch.Shell

/-- The character means nothing but itself to a shell. -/
def isPlain (c : Char) : Bool :=
  c.isAlphanum || ['-', '_', '.', '/', ':', '=', '@', '%', '+', ','].contains c

/-- The characters of the argument between single quotes. -/
def quotedChars (cs : List Char) : List Char :=
  cs.flatMap fun c => if c = '\'' then ['\'', '\\', '\'', '\''] else [c]

/-- The argument as it has to stand in the line. -/
def quoteOf (cs : List Char) : List Char :=
  if !cs.isEmpty && cs.all isPlain then cs else '\'' :: quotedChars cs ++ ['\'']

def quote (s : String) : String :=
  String.ofList (quoteOf s.toList)

end RouteWatch.Shell
