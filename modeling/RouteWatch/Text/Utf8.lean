/-!
# Octets as text

Command output is a string of octets that should be UTF-8. `pieces` cuts it into characters and
faults; a fault is the longest start of a character that the next octet does not continue, or a
single octet that starts none. `decode` accepts octets without a fault and otherwise names the first
one, `decodeLossy` puts the replacement character in the place of each.
-/

namespace RouteWatch.Text.Utf8

/-- A character of which some octets were read. The next one has to lie between `low` and `high`. -/
structure Partial where
  /-- The bits read so far. -/
  value : Nat
  /-- The number of octets read. -/
  seen : Nat
  /-- The number of octets still to come. -/
  missing : Nat
  /-- The least octet that continues the character. -/
  low : Nat
  /-- The greatest octet that continues the character. -/
  high : Nat

/-- What an octet begins that stands at the start of a character of several octets. The bounds on
the second octet keep out overlong forms, surrogates and code points that are too large. -/
def lead? (b : Nat) : Option Partial :=
  if 0xC2 ≤ b && b ≤ 0xDF then some ⟨b - 0xC0, 1, 1, 0x80, 0xBF⟩
  else if b = 0xE0 then some ⟨0, 1, 2, 0xA0, 0xBF⟩
  else if b = 0xED then some ⟨0xD, 1, 2, 0x80, 0x9F⟩
  else if 0xE1 ≤ b && b ≤ 0xEF then some ⟨b - 0xE0, 1, 2, 0x80, 0xBF⟩
  else if b = 0xF0 then some ⟨0, 1, 3, 0x90, 0xBF⟩
  else if 0xF1 ≤ b && b ≤ 0xF3 then some ⟨b - 0xF0, 1, 3, 0x80, 0xBF⟩
  else if b = 0xF4 then some ⟨4, 1, 3, 0x80, 0x8F⟩
  else none

/-- A stretch of octets that is a character, or none. -/
inductive Piece where
  /-- A character and the number of its octets. -/
  | char (c : Char) (length : Nat)
  /-- Octets that no character starts with. -/
  | invalid (length : Nat)
  /-- The start of a character, at the end of the octets. -/
  | incomplete (length : Nat)
  deriving DecidableEq

/-- What an octet makes at which a character starts: pieces, or the start of a longer character. -/
def start (b : Nat) : List Piece × Option Partial :=
  if b < 0x80 then ([.char (Char.ofNat b) 1], none)
  else
    match lead? b with
    | some p => ([], some p)
    | none => ([.invalid 1], none)

/-- What an octet makes where `pending` was read before it. -/
def step (pending : Option Partial) (b : Nat) : List Piece × Option Partial :=
  match pending with
  | none => start b
  | some p =>
    if p.low ≤ b && b ≤ p.high then
      let value := p.value * 64 + (b - 0x80)
      if p.missing = 1 then ([.char (Char.ofNat value) (p.seen + 1)], none)
      else ([], some ⟨value, p.seen + 1, p.missing - 1, 0x80, 0xBF⟩)
    else
      -- the octet that does not go on with the character may start the next one
      let (pieces, pending) := start b
      (.invalid p.seen :: pieces, pending)

/-- The pieces of the octets, where `pending` was read before them. -/
def piecesFrom (pending : Option Partial) : List UInt8 → List Piece
  | [] => (pending.map fun p => .incomplete p.seen).toList
  | b :: rest =>
    let (pieces, pending) := step pending b.toNat
    pieces ++ piecesFrom pending rest

/-- The characters and faults of the octets. -/
def pieces (octets : List UInt8) : List Piece :=
  piecesFrom none octets

/-- Why octets are no text. -/
inductive Fault where
  /-- Octets at this index that no character starts with. -/
  | invalid (length index : Nat)
  /-- The octets end within a character that starts at this index. -/
  | incomplete (index : Nat)
  deriving DecidableEq

/-- The text of the fault in error messages. -/
def Fault.message : Fault → String
  | .invalid length index => s!"invalid utf-8 sequence of {length} bytes from index {index}"
  | .incomplete index => s!"incomplete utf-8 byte sequence from index {index}"

/-- The characters of pieces that start at an index, or the first fault among them. -/
def charsOf (index : Nat) : List Piece → Except Fault (List Char)
  | [] => .ok []
  | .char c length :: rest => (charsOf (index + length) rest).map (c :: ·)
  | .invalid length :: _ => .error (.invalid length index)
  | .incomplete _ :: _ => .error (.incomplete index)

/-- The text that the octets encode. -/
def decode (octets : List UInt8) : Except Fault String :=
  (charsOf 0 (pieces octets)).map String.ofList

/-- The text that the octets encode, with a replacement character for each fault. -/
def decodeLossy (octets : List UInt8) : String :=
  String.ofList <| (pieces octets).map fun
    | .char c _ => c
    | .invalid _ => '\uFFFD'
    | .incomplete _ => '\uFFFD'

def encode (s : String) : List UInt8 :=
  s.toUTF8.toList

end RouteWatch.Text.Utf8
