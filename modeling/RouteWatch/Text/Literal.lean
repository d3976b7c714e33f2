/-!
# Texts as patterns

The pattern that matches exactly one text: characters with a meaning in patterns stand behind a
backslash.
-/

namespace RouteWatch.Text

/-- Characters that mean something else than themselves in patterns. -/
def patternMarks : List Char :=
  ['\\', '.', '+', '*', '?', '(', ')', '|', '[', ']', '\x7b', '\x7d', '^', '$', '#', '&', '-', '~']

/-- The characters of the pattern that matches just the text. -/
def literalOf (cs : List Char) : List Char :=
  cs.flatMap fun c => if patternMarks.contains c then ['\\', c] else [c]

def literal (s : String) : String :=
  String.ofList (literalOf s.toList)

end RouteWatch.Text
