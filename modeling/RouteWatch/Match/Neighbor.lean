import RouteWatch.Match.Route

/-!
# Finding an established session in the text about neighbors

The text about the neighbors of a router has a block for each, which starts with a header line that
names the address. A session is established if a block of its peer says so. Text without any header
is about one neighbor only, whose address then has to stand somewhere in it.
-/

namespace RouteWatch.Match

/-- What the block of an established session says. -/
def established : List Char :=
  "BGP state = Established".toList

/-- The address in a header line, as it is written there. -/
def headerAddress? (line : List Char) : Option (List Char) := do
  let rest ← Text.after? "BGP neighbor is ".toList line
  let address := rest.takeWhile isAddressChar
  if !address.isEmpty && (rest.dropWhile isAddressChar).head? == some ',' then some address else none

/-- What is said about one neighbor. -/
structure NeighborBlock where
  /-- The address, as it is written in the header. -/
  address : List Char
  /-- The lines, from the header on. -/
  lines : List (List Char)

/-- The blocks of the lines. Lines before the first header belong to none. -/
def blocksOf : List (List Char) → List NeighborBlock
  | [] => []
  | line :: rest =>
    match headerAddress? line with
    | some address =>
      ⟨address, line :: rest.takeWhile fun l => (headerAddress? l).isNone⟩ :: blocksOf rest
    | none => blocksOf rest

/-- The block is about an established session with the peer. -/
def NeighborBlock.isEstablished (peer : Ip) (block : NeighborBlock) : Bool :=
  Ip.parse? (String.ofList block.address) == some peer &&
    block.lines.any (Text.containsOf established)

/-- The text mentions the address. -/
def mentions (peer : Ip) (text : List Char) : Bool :=
  Text.anywhere
    (fun prev rest =>
      startsAddress prev &&
        (Text.after? peer.chars rest).any fun rest => rest.head?.all fun c => !isAddressChar c)
    none text

/-- The text shows an established session with the peer. -/
def neighbor (peer : Ip) (text : String) : Bool :=
  let blocks := blocksOf (Text.splitBy (· == '\n') text.toList)
  if blocks.isEmpty then mentions peer text.toList && Text.containsOf established text.toList
  else blocks.any (·.isEstablished peer)

end RouteWatch.Match
