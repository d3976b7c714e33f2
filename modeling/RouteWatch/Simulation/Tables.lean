import RouteWatch.Ip.Subnet

/-!
# Printed routing tables

What the routing daemon and the kernel print about a list of routes, and what the daemon prints about
a neighbor. The tables are those of a simulated cluster; the columns are those of real ones.
-/

namespace RouteWatch.Simulation

/-- A route in a table. -/
structure Row where
  subnet : Subnet
  nextHop : Ip
  deriving DecidableEq

/-- The text, with blanks after it if it is shorter than the column. -/
def column (width : Nat) (text : String) : String :=
  text ++ String.ofList (List.replicate (width - text.length) ' ')

/-- The lines, each with its end. -/
def lines (ls : List String) : String :=
  String.join (ls.map (· ++ "\n"))

/-- The lines before the routes of the daemon's table. -/
def tableHeader : List String :=
  ["BGP table version is 12, local router ID is 192.0.2.1, vrf id 0",
   "Default local pref 100, local AS 64512",
   "",
   "    Network          Next Hop            Metric LocPrf Weight Path"]

/-- A line of the daemon's table. -/
def Row.daemonLine (r : Row) : String :=
  s!" *>i{r.subnet.text} {column 19 r.nextHop.text} 0    100      0 i"

def daemonTable (rows : List Row) : String :=
  lines (tableHeader ++ rows.map Row.daemonLine ++ ["", s!"Displayed  {rows.length} routes"])

/-- The destination of a route in the kernel, where a single address has no length. -/
def Row.destination (r : Row) : String :=
  if r.subnet.isHost then r.subnet.addr.text else r.subnet.text

/-- A line of the kernel's table. -/
def Row.kernelLine (r : Row) : String :=
  s!"{r.destination} nhid 42 via {r.nextHop} dev br-ex proto bgp metric 20"

def kernelTable (rows : List Row) : String :=
  lines (rows.map Row.kernelLine)

/-- The state of a session in words. -/
def sessionState (up : Bool) : String :=
  if up then "Established, up for 00:01:00" else "Active"

/-- What the daemon prints about a neighbor. -/
def neighborPage (peer : Ip) (up : Bool) : String :=
  lines [
    s!"BGP neighbor is {peer}, remote AS 64512, local AS 64512, internal link",
    "  BGP version 4, remote router ID 192.0.2.11, local router ID 192.0.2.1",
    s!"  BGP state = {sessionState up}"]

end RouteWatch.Simulation
