import RouteWatch.Ip.Subnet
import RouteWatch.Text.Blank
import RouteWatch.Text.Place
import RouteWatch.Text.WordChar

/-!
# Finding a route in the text of a routing table

The text of a table is not read as a whole. A route is found where its network and its next hop
stand together: in the BGP table one after the other, perhaps on two lines if the network is too
wide for its column; in the kernel's table in a line that starts with the network and goes on with
the next hop and the protocol. The text is gone through from left to right;
`RouteWatch.Proofs.Match.Patterns` has the patterns that are found in that way.
-/

namespace RouteWatch

/-- The table in which a route is looked for. -/
inductive View where
  /-- The table of the routing daemon. -/
  | bgp
  /-- The table of the kernel, where the daemon installs its routes. -/
  | kernel
  deriving DecidableEq

/-- Both tables, in the order in which they are sampled. -/
def View.all : List View :=
  [.bgp, .kernel]

def View.text : View → String
  | .bgp => "BGP table"
  | .kernel => "kernel routing table"

instance : ToString View :=
  ⟨View.text⟩

namespace Match

/-- The character can be part of an address. -/
def isAddressChar (c : Char) : Bool :=
  (Ip.hexValue? c).isSome || c == '.' || c == ':'

/-- No address that goes on at the place has begun before it. -/
def startsAddress (prev : Option Char) : Bool :=
  prev.all fun c => !isAddressChar c

/-- A column of a table ends here. -/
def endsColumn (rest : List Char) : Bool :=
  rest.head?.all Text.isBlank

/-- No word that goes on at the place has begun before it. -/
def startsWord (prev : Option Char) : Bool :=
  prev.all fun c => !Text.isWordChar c

/-- The ways in which a table writes a network. The length of the network of one address may be
left out. -/
def spellings (subnet : Subnet) : List (List Char) :=
  if subnet.isHost then [subnet.trunc.chars, subnet.trunc.addr.chars] else [subnet.trunc.chars]

/-- The text starts with the network, and its rest passes the test. -/
def startsWithNetwork (subnet : Subnet) (test : List Char → Bool) (text : List Char) : Bool :=
  (spellings subnet).any fun spelling => (Text.after? spelling text).any test

/-- Blanks and then the next hop come here, as the next column. -/
def nextColumnIs (nextHop : Ip) (text : List Char) : Bool :=
  (text.head?.any Text.isBlank) &&
    (Text.after? nextHop.chars (text.dropWhile Text.isBlank)).any endsColumn

/-- The BGP table has the route. -/
def bgpTable (subnet : Subnet) (nextHop : Ip) (table : List Char) : Bool :=
  Text.anywhere
    (fun prev rest => startsAddress prev && startsWithNetwork subnet (nextColumnIs nextHop) rest)
    none table

/-- A blank comes here, and some place after it in the same line passes the test. -/
def blankThen (test : Option Char → List Char → Bool) : List Char → Bool
  | [] => false
  | c :: rest => Text.isBlank c && Text.alongLine test (some c) rest

/-- The route was learned from BGP, as is said here. -/
def protocolIsBgp (prev : Option Char) (text : List Char) : Bool :=
  startsWord prev && (Text.after? "proto bgp".toList text).any Text.endsWord

/-- The route goes by way of the next hop and was learned from BGP, as is said here. -/
def viaNextHop (nextHop : Ip) (prev : Option Char) (text : List Char) : Bool :=
  startsWord prev &&
    (Text.after? ("via ".toList ++ nextHop.chars) text).any (blankThen protocolIsBgp)

/-- The kernel's table has the route. -/
def kernelTable (subnet : Subnet) (nextHop : Ip) (table : List Char) : Bool :=
  Text.anywhere
    (fun prev rest =>
      Text.startsLine prev && startsWithNetwork subnet (blankThen (viaNextHop nextHop)) rest)
    none table

/-- The table has the route. -/
def route (view : View) (subnet : Subnet) (nextHop : Ip) (table : String) : Bool :=
  match view with
  | .bgp => bgpTable subnet nextHop table.toList
  | .kernel => kernelTable subnet nextHop table.toList

end Match

end RouteWatch
