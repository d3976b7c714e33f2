import RouteWatch.Json.Value

/-!
# Writing JSON

`Json.compact` writes without spaces, `Json.pretty` over several lines with two spaces for each
level. Only quotes, backslashes and control characters are escaped.
-/

namespace RouteWatch.Json

/-- One character as it stands in a string. -/
def escapedChar (c : Char) : List Char :=
  match c with
  | '"' => ['\\', '"']
  | '\\' => ['\\', '\\']
  | '\x08' => ['\\', 'b']
  | '\x0c' => ['\\', 'f']
  | '\n' => ['\\', 'n']
  | '\r' => ['\\', 'r']
  | '\t' => ['\\', 't']
  | c =>
    if c.toNat < 0x20 then
      ['\\', 'u', '0', '0', (c.toNat / 16).digitChar, (c.toNat % 16).digitChar]
    else [c]

/-- The string in quotes. -/
def quotedChars (s : String) : List Char :=
  '"' :: s.toList.flatMap escapedChar ++ ['"']

/-- The string in quotes; one without characters is left empty. -/
def textChars (s : Option String) : List Char :=
  quotedChars (s.getD "")

/-- Parts with commas between them. -/
def commas : List (List Char) → List Char
  | [] => []
  | [part] => part
  | part :: rest => part ++ ',' :: commas rest

mutual

/-- The value without spaces. -/
def chars : Json → List Char
  | .null => "null".toList
  | .bool b => (if b then "true" else "false").toList
  | .number literal => literal.toList
  | .string s => textChars s
  | .array items => '[' :: commas (itemsChars items) ++ [']']
  | .object fields => '\x7b' :: commas (fieldsChars fields) ++ ['\x7d']

def itemsChars : List Json → List (List Char)
  | [] => []
  | j :: rest => chars j :: itemsChars rest

def fieldsChars : List (Option String × Json) → List (List Char)
  | [] => []
  | (name, j) :: rest => (textChars name ++ ':' :: chars j) :: fieldsChars rest

end

/-- The value without spaces. -/
def compact (j : Json) : String :=
  String.ofList j.chars

/-- A line feed and the space before a line of the level. -/
def newline (level : Nat) : List Char :=
  '\n' :: List.replicate (2 * level) ' '

/-- Parts in brackets, each on a line of its own one level further in. -/
def block (level : Nat) (opening closing : Char) (parts : List (List Char)) : List Char :=
  if parts.isEmpty then [opening, closing]
  else opening :: commas (parts.map (newline (level + 1) ++ ·)) ++ newline level ++ [closing]

mutual

/-- The value over several lines, the first of which is at the level. -/
def prettyChars (level : Nat) : Json → List Char
  | .null => "null".toList
  | .bool b => (if b then "true" else "false").toList
  | .number literal => literal.toList
  | .string s => textChars s
  | .array items => block level '[' ']' (itemsPretty (level + 1) items)
  | .object fields => block level '\x7b' '\x7d' (fieldsPretty (level + 1) fields)

def itemsPretty (level : Nat) : List Json → List (List Char)
  | [] => []
  | j :: rest => prettyChars level j :: itemsPretty level rest

def fieldsPretty (level : Nat) : List (Option String × Json) → List (List Char)
  | [] => []
  | (name, j) :: rest =>
    (textChars name ++ ':' :: ' ' :: prettyChars level j) :: fieldsPretty level rest

end

/-- The value over several lines. -/
def pretty (j : Json) : String :=
  String.ofList (j.prettyChars 0)

end RouteWatch.Json
