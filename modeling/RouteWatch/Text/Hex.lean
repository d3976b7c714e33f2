import RouteWatch.Ip.Reader

/-!
# Octets in hexadecimal

Each octet is written with two digits, the higher one first.
-/

namespace RouteWatch.Text.Hex

/-- The octet of two digits. -/
def octet? (high low : Char) : Option UInt8 := do
  return UInt8.ofNat ((← Ip.hexValue? high) * 16 + (← Ip.hexValue? low))

/-- The octets of the digits, if each has two. -/
def octets? : List Char → Option (List UInt8)
  | [] => some []
  | high :: low :: rest => do return (← octet? high low) :: (← octets? rest)
  | [_] => none

end RouteWatch.Text.Hex
