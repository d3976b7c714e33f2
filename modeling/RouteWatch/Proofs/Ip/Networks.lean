import RouteWatch.Ip.Subnet
import RouteWatch.Proofs.Ip.RoundTrip

/-!
# Networks are read as they are printed

The slash ends the address of a network, whichever family it is of, and the number of bits shared is
what is left.

* `Subnet.parse?_text`: the network that is the text.
-/

namespace RouteWatch

open Ip

/-- The slash cannot belong to an address. -/
theorem Ip.endsGroups_slash (rest : List Char) : EndsGroups ('/' :: rest) :=
  ⟨stops_cons _ rfl, by simp, nofun⟩

/-- After an address, the number of bits shared is read if it fits its bound and its digits. -/
theorem readShared?_append {α ν : Type} {addr? : List Char → Option (α × List Char)}
    {sharing : Nat → α → ν} {digits width : Nat} {cs : List Char} {addr : α}
    (length : Fin (width + 1)) (hdigits : 0 < digits) (hwidth : (decimal width).length ≤ digits)
    (haddr : addr? (cs ++ '/' :: decimal length) = some (addr, '/' :: decimal length)) :
    readShared? addr? digits width sharing (cs ++ '/' :: decimal length) =
      some (sharing length addr, []) := by
  have hbound := (Nat.length_toDigits_le_iff (by decide) hdigits).1 hwidth
  have hshort : (decimal length).length ≤ digits :=
    (Nat.length_toDigits_le_iff (by decide) hdigits).2
      (Nat.lt_of_le_of_lt (Nat.le_of_lt_succ length.isLt) hbound)
  have hlength := number?_decimal hshort length.isLt true (stops_nil 10)
  rw [List.append_nil] at hlength
  simp [readShared?, haddr, char?, hlength]

namespace Subnet4

variable (net : Subnet4)

theorem sharing_length_addr : sharing net.length net.addr = net := by
  obtain ⟨addr, length⟩ := net
  have hle : min length.val 32 = length.val := by omega
  simp [sharing, hle]

theorem read?_chars : read? net.chars = some (net, []) := by
  have hslash : Stops 10 ('/' :: decimal net.length) := stops_cons _ rfl
  unfold read? chars
  rw [readShared?_append net.length (by decide) (by decide) (v4?_chars _ _ hslash),
    sharing_length_addr]

end Subnet4

namespace Subnet6

variable (net : Subnet6)

theorem sharing_length_addr : sharing net.length net.addr = net := by
  obtain ⟨addr, length⟩ := net
  have hle : min length.val 128 = length.val := by omega
  simp [sharing, hle]

theorem read?_chars : read? net.chars = some (net, []) := by
  unfold read? chars
  rw [readShared?_append net.length (by decide) (by decide) (v6?_chars (endsGroups_slash _)),
    sharing_length_addr]

/-- No network of four octets is read from the text. -/
theorem read4?_chars : Subnet4.read? net.chars = none := by
  have haddr : v4? loose (net.addr.chars ++ '/' :: decimal net.length) = none :=
    v4?_of_form net.addr.form_chars (endsGroups_slash (decimal net.length))
  simp [Subnet4.read?, readShared?, chars, haddr]

end Subnet6

theorem Subnet.parse?_text (net : Subnet) : Subnet.parse? net.text = some net := by
  cases net with
  | v4 net =>
    simp [Subnet.parse?, Subnet4.parse?, whole?, text, chars, net.read?_chars]
  | v6 net =>
    simp [Subnet.parse?, Subnet4.parse?, Subnet6.parse?, whole?, text, chars, net.read?_chars,
      net.read4?_chars]

end RouteWatch
