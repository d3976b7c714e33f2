import RouteWatch.Ip.Address

/-!
# Reading addresses

A reader takes the longest start of the text that it can and gives the rest. Two rules differ by
`Reading`: addresses on their own are read strictly, addresses of networks loosely.
-/

namespace RouteWatch

namespace Ip

/-- What is accepted in the text of an address beyond its canonical form. -/
structure Reading where
  /-- An octet may have leading zeros. -/
  leadingZeros : Bool
  /-- The mark `::` may stand for no group at all. -/
  emptyGap : Bool

/-- The rule for addresses on their own. -/
def strict : Reading :=
  ⟨false, false⟩

/-- The rule for the addresses of networks. -/
def loose : Reading :=
  ⟨true, true⟩

/-- The value of a hexadecimal digit. -/
def hexValue? (c : Char) : Option Nat :=
  if '0' ≤ c && c ≤ '9' then some (c.toNat - '0'.toNat)
  else if 'a' ≤ c && c ≤ 'f' then some (c.toNat - 'a'.toNat + 10)
  else if 'A' ≤ c && c ≤ 'F' then some (c.toNat - 'A'.toNat + 10)
  else none

def digitValue? (base : Nat) (c : Char) : Option Nat :=
  (hexValue? c).filter (· < base)

/-- The values of the digits at the start of the text, and the rest. -/
def digitRun (base : Nat) : List Char → List Nat × List Char
  | [] => ([], [])
  | c :: rest =>
    match digitValue? base c with
    | some d => let run := digitRun base rest; (d :: run.1, run.2)
    | none => ([], c :: rest)

/-- The number that the digits denote. -/
def numeral (base : Nat) (digits : List Nat) : Nat :=
  digits.foldl (fun n d => n * base + d) 0

/-- The number at the start of the text. All digits there belong to it; it has at least one and at
most `width` of them, and is less than `bound`. -/
def number? (base width bound : Nat) (leadingZeros : Bool) (cs : List Char) :
    Option (Nat × List Char) :=
  let (digits, rest) := digitRun base cs
  let value := numeral base digits
  if digits.isEmpty || width < digits.length || bound ≤ value then none
  else if !leadingZeros && 1 < digits.length && digits.head? == some 0 then none
  else some (value, rest)

/-- What follows the character at the start of the text. -/
def char? (c : Char) : List Char → Option (List Char)
  | [] => none
  | d :: rest => if c = d then some rest else none

/-- The four octets at the start of the text. -/
def v4? (rule : Reading) (cs : List Char) : Option (Ipv4 × List Char) := do
  let octet := number? 10 3 256 rule.leadingZeros
  let (a, cs) ← octet cs
  let (b, cs) ← octet (← char? '.' cs)
  let (c, cs) ← octet (← char? '.' cs)
  let (d, cs) ← octet (← char? '.' cs)
  return (⟨a.toUInt8, b.toUInt8, c.toUInt8, d.toUInt8⟩, cs)

/-- What follows the separator of groups. The first group has none before it. -/
def groupStart? (first : Bool) (cs : List Char) : Option (List Char) :=
  if first then some cs else char? ':' cs

/-- The groups at the start of the text, at most `room` of them, whether the last two were written
as four octets, and the rest. -/
def groups (rule : Reading) : (room : Nat) → (first : Bool) → List Char →
    List UInt16 × Bool × List Char
  | 0, _, cs => ([], false, cs)
  | room + 1, first, cs =>
    -- four octets take the room of two groups
    let dotted := if room = 0 then none else groupStart? first cs >>= v4? rule
    match dotted with
    | some (ip, rest) =>
      ([ip.a.toUInt16 * 256 + ip.b.toUInt16, ip.c.toUInt16 * 256 + ip.d.toUInt16], true, rest)
    | none =>
      match groupStart? first cs >>= number? 16 4 0x10000 true with
      | some (g, rest) =>
        let (gs, dotted, rest) := groups rule room false rest
        (g.toUInt16 :: gs, dotted, rest)
      | none => ([], false, cs)

/-- The eight groups at the start of the text. -/
def v6? (rule : Reading) (cs : List Char) : Option (Ipv6 × List Char) := do
  let (head, dotted, rest) := groups rule 8 true cs
  if head.length = 8 then
    return (← Ipv6.ofGroups? head, rest)
  if dotted then none
  let rest ← char? ':' (← char? ':' rest)
  -- the gap stands for the groups that are missing on both sides
  let room := 8 - head.length - (if rule.emptyGap then 0 else 1)
  let (tail, _, rest) := groups rule room true rest
  let gap := List.replicate (8 - head.length - tail.length) 0
  return (← Ipv6.ofGroups? (head ++ gap ++ tail), rest)

/-- The value that a reader takes from the whole text. -/
def whole? (read? : List Char → Option (α × List Char)) (s : String) : Option α :=
  match read? s.toList with
  | some (a, []) => some a
  | _ => none

/-- The address at the start of the text. -/
def address? (cs : List Char) : Option (Ip × List Char) :=
  match v4? strict cs with
  | some (ip, rest) => some (.v4 ip, rest)
  | none => (v6? strict cs).map fun p => (.v6 p.1, p.2)

/-- The address with this text. -/
def parse? (s : String) : Option Ip :=
  whole? address? s

end Ip

def Ipv4.parse? (s : String) : Option Ipv4 :=
  Ip.whole? (Ip.v4? Ip.strict) s

def Ipv6.parse? (s : String) : Option Ipv6 :=
  Ip.whole? (Ip.v6? Ip.strict) s

end RouteWatch
