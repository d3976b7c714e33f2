import RouteWatch.Toml.Number
import RouteWatch.Toml.Value

/-!
# Reading TOML text

A document is a list of sections, each under a header except perhaps the first, and a section is a
list of pairs. Readers take tokens from the front of a list. The nesting of values is bounded by the
number of tokens, which serves as fuel.
-/

namespace RouteWatch.Toml

/-- The pairs under a header. -/
structure Section where
  /-- The keys in the header. -/
  path : List String
  /-- The header is that of one table among others in a list. -/
  isItem : Bool
  pairs : List (String × Toml)

/-- Something at the front of the tokens. -/
abbrev Reader := StateT (List Token) Option

namespace Reader

def next : Reader Token := do
  match ← get with
  | t :: rest => do
    set rest
    return t
  | [] => failure

/-- The token comes next, and is taken. -/
def eat (t : Token) : Reader Bool := do
  match ← get with
  | head :: rest =>
    if head = t then do
      set rest
      return true
    else return false
  | [] => return false

/-- The token comes next. -/
def expect (t : Token) : Reader Unit := do
  unless ← eat t do failure

/-- A bare word comes next. -/
def word : Reader (List Char) := do
  match ← next with
  | .bare word => return word
  | _ => failure

/-- Blanks are left out. -/
def skipBlank : Reader Unit :=
  modify (List.dropWhile fun | .blank _ => true | _ => false)

/-- Blanks, comments and line ends are left out. -/
def skipLines : Reader Unit :=
  modify (List.dropWhile fun | .blank _ | .comment | .newline => true | _ => false)

/-- The line ends here, perhaps with a comment. -/
def lineEnd : Reader Unit := do
  skipBlank
  discard (eat .comment)
  match ← get with
  | [] => return
  | t :: rest => if t = .newline then set rest else failure

def keyPart : Reader String := do
  match ← next with
  | .bare word => return String.ofList word
  | .text content false => return String.ofList content
  | _ => failure

/-- A key, perhaps with dots. -/
def key : (fuel : Nat) → Reader (List String)
  | 0 => failure
  | fuel + 1 => do
    skipBlank
    let part ← keyPart
    skipBlank
    if ← eat (.mark '.') then return part :: (← key fuel) else return [part]

/-- What follows a word that begins with a date or a time of day. -/
def moment (colon : Bool) : Reader Toml := do
  match ← get with
  | .blank [' '] :: .bare _ :: rest => set rest
  | _ => pure ()
  if colon || (← eat (.mark ':')) then
    discard word
    expect (.mark ':')
    discard word
    if ← eat (.mark '.') then discard word
    if ← eat (.mark '+') then discard word
    if ← eat (.mark ':') then discard word
  return .moment

/-- The exponent at the rest of a word, or none. -/
def exponent (rest : List Char) : Reader Number.Whole := do
  match rest with
  | [] => return ⟨false, [], []⟩
  | c :: rest =>
    if c != 'e' && c != 'E' then failure
    let w ← if rest.isEmpty then do
        discard (eat (.mark '+'))
        (Number.whole? 10 false true (← word) : Option _)
      else (Number.whole? 10 true true rest : Option _)
    if w.rest.isEmpty then return w else failure

/-- A number that need not be whole, of a word and perhaps a word after the point. -/
def float (before : List Char) (after : Option (List Char)) : Reader Toml := do
  let whole ← (Number.whole? 10 true false before : Option _)
  let (fraction, rest) ← match after with
    | none => pure ([], whole.rest)
    | some after => do
      unless whole.rest.isEmpty do failure
      let w ← (Number.whole? 10 false true after : Option _)
      pure (w.digits, w.rest)
  let e ← exponent rest
  let power : Int := Ip.numeral 10 e.digits
  let power := (if e.negative then -power else power) - fraction.length
  if Number.isFinite (whole.digits ++ fraction) power then return .float else failure

/-- The number that a word begins. -/
def number (w : List Char) : Reader Toml := do
  match w with
  | '0' :: 'x' :: digits => .integer <$> (Number.integer? 16 digits : Option _)
  | '0' :: 'o' :: digits => .integer <$> (Number.integer? 8 digits : Option _)
  | '0' :: 'b' :: digits => .integer <$> (Number.integer? 2 digits : Option _)
  | _ =>
    if w.contains 'e' || w.contains 'E' then float w none
    else if ← eat (.mark '.') then do
      let after ← word
      float w (some after)
    else if ["inf".toList, "-inf".toList, "nan".toList, "-nan".toList].contains w then
      return .float
    else .integer <$> (Number.integer? 10 w : Option _)

/-- The word begins a date. -/
def beginsDate (w : List Char) : Bool :=
  w.contains 'T' || w.contains 't' ||
    (w.tail.contains '-' && !Text.containsOf ['e', '-'] w && !Text.containsOf ['E', '-'] w)

/-- The value that a word begins. -/
def wordValue (w : List Char) : Reader Toml := do
  if w = "true".toList then return .boolean true
  else if w = "false".toList then return .boolean false
  else if w = "inf".toList || w = "nan".toList || w.head?.any fun c => c == '-' || c.isDigit then
    if beginsDate w then moment false
    else if ← eat (.mark ':') then moment true
    else number w
  else failure

mutual

def value : (fuel : Nat) → Reader Toml
  | 0 => failure
  | fuel + 1 => do
    match ← next with
    | .text content _ => return .string (String.ofList content)
    | .bare w => wordValue w
    | .mark '+' => do number (← word)
    | .mark '[' => .array <$> items fuel
    | .mark '\x7b' => do
      skipBlank
      if ← eat (.mark '\x7d') then return .table .inline []
      else .table .inline <$> pairs fuel []
    | _ => failure

/-- The items of a list, up to its end. -/
def items : (fuel : Nat) → Reader (List Toml)
  | 0 => failure
  | fuel + 1 => do
    skipLines
    if ← eat (.mark ']') then return []
    let item ← value fuel
    skipLines
    if ← eat (.mark ',') then return item :: (← items fuel)
    expect (.mark ']')
    return [item]

/-- The pairs of a table in braces, up to its end, after those that are read already. -/
def pairs : (fuel : Nat) → List (String × Toml) → Reader (List (String × Toml))
  | 0, _ => failure
  | fuel + 1, before => do
    let path ← key fuel
    expect (.mark '=')
    skipBlank
    let value ← value fuel
    let before ← (addPair path value before : Option _)
    skipBlank
    if ← eat (.mark '\x7d') then return before
    expect (.mark ',')
    pairs fuel before

end

/-- A header, after its first bracket. -/
def header (fuel : Nat) : Reader Section := do
  let isItem ← eat (.mark '[')
  let path ← key fuel
  expect (.mark ']')
  if isItem then expect (.mark ']')
  lineEnd
  return ⟨path, isItem, []⟩

/-- A pair on a line of its own, added to a section. -/
def pairLine (fuel : Nat) (s : Section) : Reader Section := do
  let path ← key fuel
  expect (.mark '=')
  skipBlank
  let value ← value fuel
  lineEnd
  return { s with pairs := ← (addPair path value s.pairs : Option _) }

/-- The sections from this one on. -/
def sections : (fuel : Nat) → Section → Reader (List Section)
  | 0, _ => failure
  | fuel + 1, s => do
    skipLines
    if (← get).isEmpty then return [s]
    if ← eat (.mark '[') then
      let started ← header fuel
      return s :: (← sections fuel started)
    sections fuel (← pairLine fuel s)

end Reader

/-- The sections of a document. The one without a header counts only if it holds something. -/
def Section.ofText? (s : String) : Option (List Section) := do
  let tokens ← Token.ofText? s
  let (sections, _) ← (Reader.sections (2 * tokens.length + 4) ⟨[], false, []⟩).run tokens
  return sections.filter fun s => !s.path.isEmpty || !s.pairs.isEmpty

end RouteWatch.Toml
