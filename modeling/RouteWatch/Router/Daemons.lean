import RouteWatch.Text.Blank

/-!
# The daemons of the external router

The second file of the router says which routing daemons its container starts. Every daemon binds
its terminal to the loopback address.
-/

namespace RouteWatch.Router

/-- The file that selects the daemons. -/
def daemons : String :=
  String.join <| [
    "# FRR daemon selection for the external BGP router.",
    "#",
    "# The watchfrr and zebra daemons are always started.",
    "#",
    "bgpd=yes",
    "ospfd=no",
    "ospf6d=no",
    "ripd=no",
    "ripngd=no",
    "isisd=no",
    "pimd=no",
    "ldpd=no",
    "nhrpd=no",
    "eigrpd=no",
    "babeld=no",
    "sharpd=no",
    "pbrd=no",
    "bfdd=yes",
    "fabricd=no",
    "vrrpd=no",
    "",
    "#",
    "# Load the configuration with \"vtysh -b\" when the daemons are started.",
    "#",
    "vtysh_enable=yes",
    "zebra_options=\"  -A 127.0.0.1 -s 90000000\"",
    "bgpd_options=\"   -A 127.0.0.1\"",
    "ospfd_options=\"  -A 127.0.0.1\"",
    "ospf6d_options=\" -A ::1\"",
    "ripd_options=\"   -A 127.0.0.1\"",
    "ripngd_options=\" -A ::1\"",
    "isisd_options=\"  -A 127.0.0.1\"",
    "pimd_options=\"   -A 127.0.0.1\"",
    "ldpd_options=\"   -A 127.0.0.1\"",
    "nhrpd_options=\"  -A 127.0.0.1\"",
    "eigrpd_options=\" -A 127.0.0.1\"",
    "babeld_options=\" -A 127.0.0.1\"",
    "sharpd_options=\" -A 127.0.0.1\"",
    "pbrd_options=\"   -A 127.0.0.1\"",
    "staticd_options=\"-A 127.0.0.1\"",
    "bfdd_options=\"   -A 127.0.0.1\"",
    "fabricd_options=\"-A 127.0.0.1\"",
    "vrrpd_options=\"  -A 127.0.0.1\""].map (· ++ "\n")

/-- The name of the daemon that the line enables. Lines with an underscore set something else. -/
def enabledBy? (line : List Char) : Option String :=
  let name := line.take (line.length - 4)
  if line.drop (line.length - 4) == "=yes".toList && !name.contains '_' then
    some (String.ofList name)
  else none

/-- The names of the daemons that are enabled. -/
def enabledDaemons : List String :=
  (Text.linesOf daemons.toList).filterMap enabledBy?

end RouteWatch.Router
