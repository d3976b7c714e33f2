import RouteWatch.Ip.Printer
import RouteWatch.Ip.Reader

/-!
# Networks of addresses

A network is an address with the number of leading bits that its members share. The bits after
those are kept as they were given until `trunc` clears them.
-/

namespace RouteWatch

/-- A network of addresses of four octets. -/
structure Subnet4 where
  /-- The address that names the network. -/
  addr : Ipv4
  /-- The number of bits shared. -/
  length : Fin 33
  deriving DecidableEq

/-- A network of addresses of eight groups. -/
structure Subnet6 where
  addr : Ipv6
  length : Fin 129
  deriving DecidableEq

/-- A network of either family. -/
inductive Subnet where
  | v4 (net : Subnet4)
  | v6 (net : Subnet6)
  deriving DecidableEq

/-- The number with all but its first `keep` bits cleared, of `width` bits in all. -/
def clearAfter (width keep value : Nat) : Nat :=
  (value >>> (width - keep)) <<< (width - keep)

theorem clearAfter_le (width keep value : Nat) : clearAfter width keep value ≤ value := by
  rw [clearAfter, Nat.shiftLeft_eq, Nat.shiftRight_eq_div_pow]
  exact Nat.div_mul_le_self _ _

theorem clearAfter_of_le {width keep : Nat} (h : width ≤ keep) (value : Nat) :
    clearAfter width keep value = value := by
  rw [clearAfter, Nat.sub_eq_zero_of_le h]
  rfl

theorem clearAfter_idem (width keep value : Nat) :
    clearAfter width keep (clearAfter width keep value) = clearAfter width keep value := by
  simp only [clearAfter, Nat.shiftLeft_eq, Nat.shiftRight_eq_div_pow]
  rw [Nat.mul_div_cancel _ (Nat.two_pow_pos _)]

/-- What is made of an address and, after a slash, the number of bits shared, at the start of the
text. -/
def readShared? {α ν : Type} (addr? : List Char → Option (α × List Char)) (digits width : Nat)
    (sharing : Nat → α → ν) (cs : List Char) : Option (ν × List Char) := do
  let (addr, rest) ← addr? cs
  let (length, rest) ← Ip.number? 10 digits (width + 1) true (← Ip.char? '/' rest)
  return (sharing length addr, rest)

namespace Subnet4

/-- The network with this address that shares so many bits, or all of them if there are fewer. -/
def sharing (length : Nat) (addr : Ipv4) : Subnet4 :=
  ⟨addr, Fin.ofNat 33 (min length 32)⟩

/-- The octet at an index with the bits after the shared ones cleared. -/
def maskOctet (length index : Nat) (octet : UInt8) : UInt8 :=
  (clearAfter 8 (length - 8 * index) octet.toNat).toUInt8

/-- The network named by its least address. -/
def trunc (net : Subnet4) : Subnet4 :=
  let mask := maskOctet net.length
  ⟨⟨mask 0 net.addr.a, mask 1 net.addr.b, mask 2 net.addr.c, mask 3 net.addr.d⟩, net.length⟩

theorem maskOctet_maskOctet (length index : Nat) (octet : UInt8) :
    maskOctet length index (maskOctet length index octet) = maskOctet length index octet := by
  have h : clearAfter 8 (length - 8 * index) octet.toNat < 2 ^ 8 :=
    Nat.lt_of_le_of_lt (clearAfter_le ..) octet.toNat_lt
  rw [maskOctet, maskOctet, UInt8.toNat_ofNat_of_lt' h, clearAfter_idem]

/-- An octet of shared bits only is kept. -/
theorem maskOctet_of_le {length index : Nat} (h : 8 * index + 8 ≤ length) (octet : UInt8) :
    maskOctet length index octet = octet := by
  rw [maskOctet, clearAfter_of_le (by omega), Nat.toUInt8, UInt8.ofNat_toNat]

@[simp] theorem trunc_trunc (net : Subnet4) : net.trunc.trunc = net.trunc := by
  simp only [trunc, maskOctet_maskOctet]

/-- The text of the network: its address, a slash and the number of bits shared. -/
def chars (net : Subnet4) : List Char :=
  net.addr.chars ++ '/' :: decimal net.length

@[inherit_doc chars]
def text (net : Subnet4) : String :=
  String.ofList net.chars

/-- The network at the start of the text. -/
def read? : List Char → Option (Subnet4 × List Char) :=
  readShared? (Ip.v4? Ip.loose) 2 32 sharing

/-- The network with this text. -/
def parse? (s : String) : Option Subnet4 :=
  Ip.whole? read? s

end Subnet4

namespace Subnet6

def sharing (length : Nat) (addr : Ipv6) : Subnet6 :=
  ⟨addr, Fin.ofNat 129 (min length 128)⟩

/-- The group at an index with the bits after the shared ones cleared. -/
def maskGroup (length index : Nat) (group : UInt16) : UInt16 :=
  (clearAfter 16 (length - 16 * index) group.toNat).toUInt16

def trunc (net : Subnet6) : Subnet6 :=
  let mask := maskGroup net.length
  let a := net.addr
  ⟨⟨mask 0 a.g0, mask 1 a.g1, mask 2 a.g2, mask 3 a.g3,
    mask 4 a.g4, mask 5 a.g5, mask 6 a.g6, mask 7 a.g7⟩, net.length⟩

theorem maskGroup_maskGroup (length index : Nat) (group : UInt16) :
    maskGroup length index (maskGroup length index group) = maskGroup length index group := by
  have h : clearAfter 16 (length - 16 * index) group.toNat < 2 ^ 16 :=
    Nat.lt_of_le_of_lt (clearAfter_le ..) group.toNat_lt
  rw [maskGroup, maskGroup, UInt16.toNat_ofNat_of_lt' h, clearAfter_idem]

/-- A group of shared bits only is kept. -/
theorem maskGroup_of_le {length index : Nat} (h : 16 * index + 16 ≤ length) (group : UInt16) :
    maskGroup length index group = group := by
  rw [maskGroup, clearAfter_of_le (by omega), Nat.toUInt16, UInt16.ofNat_toNat]

@[simp] theorem trunc_trunc (net : Subnet6) : net.trunc.trunc = net.trunc := by
  simp only [trunc, maskGroup_maskGroup]

/-- The text of the network: its address, a slash and the number of bits shared. -/
def chars (net : Subnet6) : List Char :=
  net.addr.chars ++ '/' :: decimal net.length

@[inherit_doc chars]
def text (net : Subnet6) : String :=
  String.ofList net.chars

def read? : List Char → Option (Subnet6 × List Char) :=
  readShared? (Ip.v6? Ip.loose) 3 128 sharing

def parse? (s : String) : Option Subnet6 :=
  Ip.whole? read? s

end Subnet6

namespace Subnet

def family : Subnet → Family
  | .v4 _ => .v4
  | .v6 _ => .v6

def addr : Subnet → Ip
  | .v4 net => .v4 net.addr
  | .v6 net => .v6 net.addr

def length : Subnet → Nat
  | .v4 net => net.length
  | .v6 net => net.length

/-- The number of bits of an address of the family. -/
def width : Subnet → Nat
  | .v4 _ => 32
  | .v6 _ => 128

/-- The network has one address only. -/
def isHost (net : Subnet) : Bool :=
  net.length == net.width

/-- The network of one address only. -/
def host : Ip → Subnet
  | .v4 ip => .v4 ⟨ip, Fin.last 32⟩
  | .v6 ip => .v6 ⟨ip, Fin.last 128⟩

def trunc : Subnet → Subnet
  | .v4 net => .v4 net.trunc
  | .v6 net => .v6 net.trunc

@[simp] theorem family_trunc (net : Subnet) : net.trunc.family = net.family := by
  cases net <;> rfl

@[simp] theorem trunc_trunc (net : Subnet) : net.trunc.trunc = net.trunc := by
  cases net <;> simp [trunc]

@[simp] theorem family_addr (net : Subnet) : net.addr.family = net.family := by
  cases net <;> rfl

@[simp] theorem family_host (ip : Ip) : (host ip).family = ip.family := by
  cases ip <;> rfl

/-- A network of one address only has no host bits. -/
@[simp] theorem trunc_host (ip : Ip) : (host ip).trunc = host ip := by
  cases ip with
  | v4 ip => simp (disch := decide) only [host, trunc, Subnet4.trunc, Subnet4.maskOctet_of_le]
  | v6 ip => simp (disch := decide) only [host, trunc, Subnet6.trunc, Subnet6.maskGroup_of_le]

/-- The text of the network. -/
def chars : Subnet → List Char
  | .v4 net => net.chars
  | .v6 net => net.chars

def text (net : Subnet) : String :=
  String.ofList net.chars

instance : ToString Subnet :=
  ⟨Subnet.text⟩

/-- The network with this text. Addresses of four octets are tried first. -/
def parse? (s : String) : Option Subnet :=
  match Subnet4.parse? s with
  | some net => some (.v4 net)
  | none => (Subnet6.parse? s).map .v6

end Subnet

end RouteWatch
