import RouteWatch.Ip.Reader

/-!
# The tokens of TOML text

A token is a mark, a bare word, a string, a run of blanks, a comment or the end of a line. The text
is read one character at a time: a state says what has begun, and a character either belongs to it
or ends it and begins the next token.
-/

namespace RouteWatch.Toml

/-- The parts of TOML text. -/
inductive Token where
  | newline
  | blank (run : List Char)
  | comment
  /-- A character that stands for itself. -/
  | mark (c : Char)
  /-- A word without quotes. -/
  | bare (word : List Char)
  /-- A string, whether or not it may go over several lines. -/
  | text (content : List Char) (multiline : Bool)
  deriving DecidableEq

namespace Token

/-- The characters that are tokens of their own. -/
def marks : List Char :=
  ['=', '.', ',', ':', '+', '\x7b', '\x7d', '[', ']']

/-- The character can be part of a word without quotes. -/
def isBare (c : Char) : Bool :=
  c.isAlphanum || c == '-' || c == '_'

/-- The character can be part of a string as it is. -/
def isPrintable (c : Char) : Bool :=
  c == '\t' || (' ' ≤ c && c != '\x7f')

/-- What has begun before a place of the text. -/
inductive State where
  | between
  /-- A word, of which this much is read. -/
  | bare (word : List Char)
  | blank (run : List Char)
  | comment
  /-- A string, of which one or two quotes are read. -/
  | opened (quote : Char) (two : Bool)
  /-- A string of several lines, of which just the three quotes are read. -/
  | fresh (quote : Char)
  | text (quote : Char) (multiline : Bool) (content : List Char)
  /-- A string of several lines, with that many quotes at its end so far. -/
  | closing (quote : Char) (content : List Char) (quotes : Nat)
  | escape (multiline : Bool) (content : List Char)
  /-- A code point in a string, with that many digits to come. -/
  | digits (multiline : Bool) (content : List Char) (missing value : Nat)
  /-- Blanks in a string that belong to an escaped line end, which is read or not. -/
  | join (content : List Char) (ended : Bool)

/-- What a character begins. -/
def begin? (c : Char) : Option (List Token × State) :=
  if c = '\n' then some ([.newline], .between)
  else if c = ' ' || c = '\t' then some ([], .blank [c])
  else if c = '#' then some ([], .comment)
  else if marks.contains c then some ([.mark c], .between)
  else if c = '"' || c = '\'' then some ([], .opened c false)
  else if isBare c then some ([], .bare [c])
  else none

/-- A token that a character ends by beginning the next one. -/
def endBy? (t : Token) (c : Char) : Option (List Token × State) :=
  (begin? c).map fun p => (t :: p.1, p.2)

/-- A character within a string. -/
def inText? (quote : Char) (multiline : Bool) (content : List Char) (c : Char) :
    Option (List Token × State) :=
  if c = quote then
    if multiline then some ([], .closing quote content 1)
    else some ([.text content false], .between)
  else if c = '\n' then
    if multiline then some ([], .text quote true (content ++ [c])) else none
  else if c = '\\' && quote = '"' then some ([], .escape multiline content)
  else if isPrintable c then some ([], .text quote multiline (content ++ [c]))
  else none

/-- The character that an escape of one letter stands for. -/
def escaped? : Char → Option Char
  | '"' => some '"'
  | '\\' => some '\\'
  | 'b' => some '\x08'
  | 'f' => some '\x0c'
  | 'n' => some '\n'
  | 'r' => some '\r'
  | 't' => some '\t'
  | _ => none

/-- A character after a backslash. -/
def inEscape? (multiline : Bool) (content : List Char) (c : Char) :
    Option (List Token × State) :=
  match escaped? c with
  | some e => some ([], .text '"' multiline (content ++ [e]))
  | none =>
    if c = 'u' then some ([], .digits multiline content 4 0)
    else if c = 'U' then some ([], .digits multiline content 8 0)
    else if multiline && (c = ' ' || c = '\t') then some ([], .join content false)
    else if multiline && c = '\n' then some ([], .join content true)
    else none

/-- A digit of a code point. -/
def inDigits? (multiline : Bool) (content : List Char) (missing value : Nat) (c : Char) :
    Option (List Token × State) := do
  let value := value * 16 + (← Ip.hexValue? c)
  if missing = 1 then
    if value.isValidChar then
      some ([], .text '"' multiline (content ++ [Char.ofNat value]))
    else none
  else some ([], .digits multiline content (missing - 1) value)

/-- A character after quotes in a string of several lines. Up to two of them may belong to the
string when it ends. -/
def inClosing? (quote : Char) (content : List Char) (quotes : Nat) (c : Char) :
    Option (List Token × State) :=
  if c = quote then
    if quotes = 4 then some ([.text (content ++ [quote, quote]) true], .between)
    else some ([], .closing quote content (quotes + 1))
  else if quotes < 3 then inText? quote true (content ++ List.replicate quotes quote) c
  else endBy? (.text (content ++ List.replicate (quotes - 3) quote) true) c

/-- The tokens that a character ends, and what has begun after it. -/
def step? (s : State) (c : Char) : Option (List Token × State) :=
  match s with
  | .between => begin? c
  | .bare word => if isBare c then some ([], .bare (word ++ [c])) else endBy? (.bare word) c
  | .blank run =>
    if c = ' ' || c = '\t' then some ([], .blank (run ++ [c])) else endBy? (.blank run) c
  | .comment => if c = '\t' || ' ' ≤ c then some ([], .comment) else endBy? .comment c
  | .opened quote false =>
    if c = quote then some ([], .opened quote true) else inText? quote false [] c
  | .opened quote true =>
    if c = quote then some ([], .fresh quote) else endBy? (.text [] false) c
  | .fresh quote => if c = '\n' then some ([], .text quote true []) else inText? quote true [] c
  | .text quote multiline content => inText? quote multiline content c
  | .closing quote content quotes => inClosing? quote content quotes c
  | .escape multiline content => inEscape? multiline content c
  | .digits multiline content missing value => inDigits? multiline content missing value c
  | .join content ended =>
    if c = ' ' || c = '\t' then some ([], .join content ended)
    else if c = '\n' then some ([], .join content true)
    else if ended then inText? '"' true content c
    else none

/-- The tokens that the end of the text ends. -/
def finish? : State → Option (List Token)
  | .between => some []
  | .bare word => some [.bare word]
  | .blank run => some [.blank run]
  | .comment => some [.comment]
  | .opened _ true => some [.text [] false]
  | .closing quote content quotes =>
    if quotes < 3 then none
    else some [.text (content ++ List.replicate (quotes - 3) quote) true]
  | _ => none

/-- The tokens from a place on. -/
def tokensFrom? (s : State) : List Char → Option (List Token)
  | [] => finish? s
  | c :: rest => do
    let (tokens, s) ← step? s c
    return tokens ++ (← tokensFrom? s rest)

/-- The text with single characters as line ends. -/
def foldLineEnds : List Char → List Char
  | '\r' :: '\n' :: rest => '\n' :: foldLineEnds rest
  | c :: rest => c :: foldLineEnds rest
  | [] => []

/-- The tokens of the text. A byte order mark at its start does not count. -/
def ofText? (s : String) : Option (List Token) :=
  let cs := foldLineEnds s.toList
  tokensFrom? .between (if cs.head? = some '\uFEFF' then cs.tail else cs)

end Token

end RouteWatch.Toml
