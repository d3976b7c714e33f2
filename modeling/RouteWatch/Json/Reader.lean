import RouteWatch.Json.Value
import RouteWatch.Ip.Reader

/-!
# Reading JSON

`Json.tokens?` cuts a text into its marks, strings and literals; `Json.ofTokens?` puts these together
with a stack of the arrays and objects that are still open. Both go once through their input.
-/

namespace RouteWatch.Json

/-- A mark, or a value without parts. -/
inductive Token where
  | openArray
  | closeArray
  | openObject
  | closeObject
  | colon
  | comma
  /-- A string, which may also be a name. -/
  | string (text : Option String)
  /-- A value that is neither a string nor made of others. -/
  | literal (value : Json)

/-- The characters of a string so far, the last one first. -/
structure Unescaped where
  chars : List Char
  /-- The first half of a surrogate pair, if it was the last thing read. -/
  half : Option Nat
  /-- No surrogate stands alone. -/
  sound : Bool

namespace Unescaped

/-- Nothing yet. -/
def start : Unescaped :=
  ⟨[], none, true⟩

/-- One more character. -/
def push (u : Unescaped) (c : Char) : Unescaped :=
  ⟨c :: u.chars, none, u.sound && u.half.isNone⟩

/-- One more unit of sixteen bits. -/
def pushUnit (u : Unescaped) (n : Nat) : Unescaped :=
  if 0xD800 ≤ n && n < 0xDC00 then ⟨u.chars, some n, u.sound && u.half.isNone⟩
  else if 0xDC00 ≤ n && n < 0xE000 then
    match u.half with
    | some high =>
      ⟨Char.ofNat (0x10000 + (high - 0xD800) * 0x400 + (n - 0xDC00)) :: u.chars, none, u.sound⟩
    | none => ⟨u.chars, none, false⟩
  else u.push (Char.ofNat n)

def text? (u : Unescaped) : Option String :=
  if u.sound && u.half.isNone then some (String.ofList u.chars.reverse) else none

end Unescaped

/-- The character that a letter after a backslash stands for. -/
def escaped? : Char → Option Char
  | '"' => some '"'
  | '\\' => some '\\'
  | '/' => some '/'
  | 'b' => some '\x08'
  | 'f' => some '\x0c'
  | 'n' => some '\n'
  | 'r' => some '\r'
  | 't' => some '\t'
  | _ => none

/-- The number that hexadecimal digits denote. -/
def hexNumeral? (digits : List Char) : Option Nat :=
  (digits.mapM Ip.hexValue?).map (Ip.numeral 16)

/-- The characters form digits, of which the first is no zero unless it is alone. -/
def isWholePart (cs : List Char) : Bool :=
  match cs with
  | [] => false
  | ['0'] => true
  | c :: rest => c != '0' && c.isDigit && rest.all Char.isDigit

/-- There is at least one digit and nothing else. -/
def isDigits (cs : List Char) : Bool :=
  !cs.isEmpty && cs.all Char.isDigit

/-- The characters are what may follow the mark of an exponent. -/
def isExponent : List Char → Bool
  | '+' :: rest => isDigits rest
  | '-' :: rest => isDigits rest
  | cs => isDigits cs

/-- The characters are a number: perhaps a minus sign, a whole part, and perhaps a fraction and an
exponent. -/
def isNumber (cs : List Char) : Bool :=
  let unsigned := if cs.head? == some '-' then cs.tail else cs
  let isMark := fun c => c == 'e' || c == 'E'
  let mantissa := unsigned.takeWhile fun c => !isMark c
  let exponent := unsigned.dropWhile fun c => !isMark c
  let whole := mantissa.takeWhile (· != '.')
  let fraction := mantissa.dropWhile (· != '.')
  isWholePart whole && (fraction.isEmpty || isDigits fraction.tail)
    && (exponent.isEmpty || isExponent exponent.tail)

/-- The value that a run of other characters is. -/
def literal? (cs : List Char) : Option Json :=
  match String.ofList cs with
  | "null" => some .null
  | "true" => some (.bool true)
  | "false" => some (.bool false)
  | s => if isNumber cs then some (.number s) else none

/-- The token that a character is on its own. -/
def mark? : Char → Option Token
  | '[' => some .openArray
  | ']' => some .closeArray
  | '\x7b' => some .openObject
  | '\x7d' => some .closeObject
  | ':' => some .colon
  | ',' => some .comma
  | _ => none

/-- The four characters that may stand between tokens. -/
def isSpace (c : Char) : Bool :=
  c == ' ' || c == '\n' || c == '\t' || c == '\r'

/-- The literal that ends here, if one was begun; its characters come last one first. -/
def close? (word : List Char) : Option (List Token) :=
  if word.isEmpty then some [] else (literal? word.reverse).map fun j => [.literal j]

mutual

/-- The tokens of the text, where the characters of `word` were read before it. -/
def tokensAfter? (word : List Char) : List Char → Option (List Token)
  | [] => close? word
  | c :: rest =>
    if isSpace c then do return (← close? word) ++ (← tokensAfter? [] rest)
    else if c = '"' then do return (← close? word) ++ (← stringAfter? .start rest)
    else
      match mark? c with
      | some mark => do return (← close? word) ++ mark :: (← tokensAfter? [] rest)
      | none => tokensAfter? (c :: word) rest

/-- The tokens of a text that begins within a string. -/
def stringAfter? (u : Unescaped) : List Char → Option (List Token)
  | [] => none
  | c :: rest =>
    if c = '"' then (tokensAfter? [] rest).map (.string u.text? :: ·)
    else if c = '\\' then escapeAfter? u rest
    else if c.toNat < 0x20 then none
    else stringAfter? (u.push c) rest

/-- The tokens of a text that begins after a backslash in a string. -/
def escapeAfter? (u : Unescaped) : List Char → Option (List Token)
  | 'u' :: a :: b :: c :: d :: rest =>
    match hexNumeral? [a, b, c, d] with
    | some n => stringAfter? (u.pushUnit n) rest
    | none => none
  | e :: rest =>
    match escaped? e with
    | some c => stringAfter? (u.push c) rest
    | none => none
  | [] => none

end

def tokens? (cs : List Char) : Option (List Token) :=
  tokensAfter? [] cs

/-- An array or object that is still open, with its parts the last one first. -/
inductive Open where
  | array (items : List Json)
  /-- An object, with the name of the value to come. -/
  | object (fields : List (Option String × Json)) (name : Option String)

/-- What the next token has to be. -/
inductive Awaited where
  | value
  /-- A value or the end of the array. -/
  | firstItem
  | name
  /-- A name or the end of the object. -/
  | firstName
  | colon
  /-- A comma or the end of the innermost array or object. -/
  | more
  | nothing (value : Json)

/-- A value of which some tokens were read. -/
structure Building where
  /-- What is open, the innermost first. -/
  stack : List Open
  awaited : Awaited

namespace Building

/-- A complete value goes into the innermost array or object, or is the result. -/
def deliver (stack : List Open) (j : Json) : Building :=
  match stack with
  | [] => ⟨[], .nothing j⟩
  | .array items :: below => ⟨.array (j :: items) :: below, .more⟩
  | .object fields name :: below => ⟨.object ((name, j) :: fields) none :: below, .more⟩

/-- A token where a value may begin. -/
def begin? (stack : List Open) : Token → Option Building
  | .openArray => some ⟨.array [] :: stack, .firstItem⟩
  | .openObject => some ⟨.object [] none :: stack, .firstName⟩
  | .string s => some (deliver stack (.string s))
  | .literal j => some (deliver stack j)
  | _ => none

/-- A string where a name has to be. -/
def name? (stack : List Open) : Token → Option Building
  | .string s =>
    match stack with
    | .object fields _ :: below => some ⟨.object fields s :: below, .colon⟩
    | _ => none
  | _ => none

/-- The end of the innermost array or object. -/
def end? (stack : List Open) : Token → Option Building
  | .closeArray =>
    match stack with
    | .array items :: below => some (deliver below (.array items.reverse))
    | _ => none
  | .closeObject =>
    match stack with
    | .object fields _ :: below => some (deliver below (.object fields.reverse))
    | _ => none
  | _ => none

/-- One token more. -/
def step? (b : Building) (t : Token) : Option Building :=
  match b.awaited with
  | .value => begin? b.stack t
  | .firstItem => begin? b.stack t <|> end? b.stack t
  | .name => name? b.stack t
  | .firstName => name? b.stack t <|> end? b.stack t
  | .colon => if t matches .colon then some ⟨b.stack, .value⟩ else none
  | .more =>
    match t, b.stack with
    | .comma, .array _ :: _ => some ⟨b.stack, .value⟩
    | .comma, .object .. :: _ => some ⟨b.stack, .name⟩
    | _, _ => end? b.stack t
  | .nothing _ => none

end Building

/-- The value that the tokens form. -/
def ofTokens? (tokens : List Token) : Option Json := do
  match (← tokens.foldlM Building.step? ⟨[], .value⟩).awaited with
  | .nothing j => some j
  | _ => none

def parse? (s : String) : Option Json :=
  tokens? s.toList >>= ofTokens?

end RouteWatch.Json
