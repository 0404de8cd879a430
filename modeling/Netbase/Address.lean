import Netbase.Bytes

/-! `CNetAddr` of netbase.cpp: the sixteen-byte slot that holds IPv4 addresses
behind the mapped prefix, IPv6 addresses as they are, Tor addresses behind the
OnionCat prefix and I2P addresses behind the GarlicCat prefix, with the I2P
destination beside it. The range predicates and the classifiers built from them
follow the I2P build (`ENABLE_I2PSAM`). -/

namespace Netbase

/-- Modelled from the spec: `enum Network` is declared in netbase.h, which is not among
the sources. Its families are the ones the spec lists, declared from `NET_UNROUTABLE`. -/
inductive Network
  | unroutable
  | ipv4
  | ipv6
  | tor
  | nativeI2P
  deriving DecidableEq, Repr

/-- The networks below `NET_MAX`, in order: the slots of the proxy table. -/
def Network.all : List Network := [.unroutable, .ipv4, .ipv6, .tor, .nativeI2P]

theorem Network.mem_all (net : Network) : net ∈ Network.all := by
  cases net <;> decide

/-- The enumerator's value, the class byte `GetGroup` writes. -/
def Network.toByte : Network → Byte
  | .unroutable => 0
  | .ipv4 => 1
  | .ipv6 => 2
  | .tor => 3
  | .nativeI2P => 4

/-- `boost::to_lower` on one byte, in the classic locale: `A` to `Z` become `a` to `z`. -/
def toLower (c : Byte) : Byte := if 65 ≤ c.toNat ∧ c.toNat ≤ 90 then c + 32 else c

/-- `ParseNetwork`: the network a `-onlynet` name selects, any mix of cases. -/
def parseNetwork (net : List Byte) : Network :=
  let net := net.map toLower
  if net = ascii "ipv4" then .ipv4
  else if net = ascii "ipv6" then .ipv6
  else if net = ascii "tor" ∨ net = ascii "onion" then .tor
  else if net = ascii "i2p" then .nativeI2P
  else .unroutable

/-- `GetNetworkName`. -/
def getNetworkName : Network → List Byte
  | .ipv4 => ascii "ipv4"
  | .ipv6 => ascii "ipv6"
  | .tor => ascii "tor"
  | .nativeI2P => ascii "i2p"
  | .unroutable => ascii "???"

/-- `CNetAddr`: `ip` is the address slot and `i2pDest` the destination buffer of
`size` bytes, `NATIVE_I2P_DESTINATION_SIZE` of i2psam.h, which is not among the sources. -/
structure CNetAddr (size : Nat) where
  ip : List Byte
  i2pDest : List Byte
  ip_length : ip.length = 16
  i2pDest_length : i2pDest.length = size
  deriving DecidableEq

def pchIPv4 : List Byte := [0, 0, 0, 0, 0, 0, 0, 0, 0, 0, 0xff, 0xff]
def pchOnionCat : List Byte := [0xFD, 0x87, 0xD8, 0x7E, 0xEB, 0x43]
def pchGarlicCat : List Byte := [0xFD, 0x60, 0xDB, 0x4D, 0xDD, 0xB5]
def pchLocal : List Byte := [0, 0, 0, 0, 0, 0, 0, 0, 0, 0, 0, 0, 0, 0, 0, 1]
def pchRFC6052 : List Byte := [0, 0x64, 0xFF, 0x9B, 0, 0, 0, 0, 0, 0, 0, 0]
def pchRFC4862 : List Byte := [0xFE, 0x80, 0, 0, 0, 0, 0, 0]
def pchRFC6145 : List Byte := [0, 0, 0, 0, 0, 0, 0, 0, 0xFF, 0xFF, 0, 0]

/-- `struct in_addr` and `struct in6_addr`: four and sixteen address bytes. -/
structure InAddr where
  bytes : List Byte
  length : bytes.length = 4
  deriving DecidableEq

structure In6Addr where
  bytes : List Byte
  length : bytes.length = 16
  deriving DecidableEq

namespace CNetAddr

variable {size : Nat}

/-- `Init`: every byte of both buffers cleared. -/
def init : CNetAddr size :=
  ⟨List.replicate 16 0, List.replicate size 0, List.length_replicate _ _, List.length_replicate _ _⟩

/-- `CNetAddr(const struct in_addr&)`. -/
def ofInAddr (ipv4Addr : InAddr) : CNetAddr size :=
  ⟨pchIPv4 ++ ipv4Addr.bytes, List.replicate size 0, by simp [pchIPv4, ipv4Addr.length],
    List.length_replicate _ _⟩

/-- `CNetAddr(const struct in6_addr&)`. -/
def ofIn6Addr (ipv6Addr : In6Addr) : CNetAddr size :=
  ⟨ipv6Addr.bytes, List.replicate size 0, ipv6Addr.length, List.length_replicate _ _⟩

variable (a : CNetAddr size)

@[ext] theorem ext {b : CNetAddr size} (ip : a.ip = b.ip) (dest : a.i2pDest = b.i2pDest) :
    a = b := by
  cases a
  cases b
  simp_all

theorem exists_ip : ∃ b₀ b₁ b₂ b₃ b₄ b₅ b₆ b₇ b₈ b₉ b₁₀ b₁₁ b₁₂ b₁₃ b₁₄ b₁₅,
    a.ip = [b₀, b₁, b₂, b₃, b₄, b₅, b₆, b₇, b₈, b₉, b₁₀, b₁₁, b₁₂, b₁₃, b₁₄, b₁₅] := by
  obtain ⟨ip, _, length, _⟩ := a
  match ip, length with
  | [b₀, b₁, b₂, b₃, b₄, b₅, b₆, b₇, b₈, b₉, b₁₀, b₁₁, b₁₂, b₁₃, b₁₄, b₁₅], _ =>
    exact ⟨b₀, b₁, b₂, b₃, b₄, b₅, b₆, b₇, b₈, b₉, b₁₀, b₁₁, b₁₂, b₁₃, b₁₄, b₁₅, rfl⟩

/-- `GetByte(n)`: bytes counted from the end of the slot. -/
def getByte (n : Nat) : Byte := a.ip.getD (15 - n) 0

def isIPv4 : Bool := a.ip.take 12 == pchIPv4
def isTor : Bool := a.ip.take 6 == pchOnionCat
def isI2P : Bool := a.ip.take 6 == pchGarlicCat
def isIPv6 : Bool := !a.isIPv4 && !a.isTor && !a.isI2P

def isRFC3927 : Bool := a.isIPv4 && (a.getByte 3 == 169 && a.getByte 2 == 254)

def isRFC3849 : Bool :=
  a.getByte 15 == 0x20 && a.getByte 14 == 0x01 && a.getByte 13 == 0x0D && a.getByte 12 == 0xB8

def isRFC3964 : Bool := a.getByte 15 == 0x20 && a.getByte 14 == 0x02
def isRFC6052 : Bool := a.ip.take 12 == pchRFC6052

def isRFC4380 : Bool :=
  a.getByte 15 == 0x20 && a.getByte 14 == 0x01 && a.getByte 13 == 0 && a.getByte 12 == 0

def isRFC4862 : Bool := a.ip.take 8 == pchRFC4862
def isRFC4193 : Bool := a.getByte 15 &&& 0xFE == 0xFC
def isRFC6145 : Bool := a.ip.take 12 == pchRFC6145

def isRFC4843 : Bool :=
  a.getByte 15 == 0x20 && a.getByte 14 == 0x01 && a.getByte 13 == 0x00 &&
    a.getByte 12 &&& 0xF0 == 0x10

/-- `IsNativeI2P`: the destination buffer ends in `AAAA`. -/
def isNativeI2P : Bool := a.i2pDest.drop (size - 4) == ascii "AAAA"

theorem isNativeI2P_of_cleared {a : CNetAddr size} (cleared : a.i2pDest = List.replicate size 0) :
    a.isNativeI2P = false := by
  rw [Bool.eq_false_iff]
  intro native
  simp only [isNativeI2P, cleared, List.drop_replicate, beq_iff_eq] at native
  have letter : (65 : Byte) ∈ List.replicate (size - (size - 4)) 0 := by
    rw [native]
    decide
  simp [List.mem_replicate] at letter

/-- `GetI2pDestination`: the whole buffer, or the empty string when it starts with a zero. -/
def getI2pDestination : List Byte := if a.i2pDest.headD 0 != 0 then a.i2pDest else []

theorem isI2P_excludes (i2p : a.isI2P) :
    a.isIPv4 = false ∧ a.isTor = false ∧ a.isRFC4380 = false := by
  obtain ⟨b₀, b₁, b₂, b₃, b₄, b₅, b₆, b₇, b₈, b₉, b₁₀, b₁₁, b₁₂, b₁₃, b₁₄, b₁₅, shape⟩ := a.exists_ip
  simp_all [isI2P, isIPv4, isTor, isRFC4380, getByte, pchGarlicCat, pchIPv4, pchOnionCat]

theorem isTor_not_isI2P (tor : a.isTor) : a.isI2P = false :=
  Bool.eq_false_iff.2 fun i2p => by simp [(a.isI2P_excludes i2p).2.1] at tor

/-- `IsLocal`. `myDestination` is the `-i2p.mydestination.publickey` argument, the
node's own destination. -/
def isLocal (myDestination : List Byte) : Bool :=
  if a.isI2P then myDestination == a.getI2pDestination
  else (a.isIPv4 && (a.getByte 3 == 127 || a.getByte 3 == 0)) || a.ip == pchLocal

/-- `IsValid`. The second test drops the three-byte shifted addresses left by the
garbled size field of addr messages before 0.2.9. -/
def isValid : Bool :=
  if a.isI2P then a.isNativeI2P
  else if a.ip.take 9 == pchIPv4.drop 3 then false
  else if a.ip == List.replicate 16 0 then false
  else if a.isRFC3849 then false
  else if a.isIPv4 && (a.ip.drop 12 == [0xFF, 0xFF, 0xFF, 0xFF] || a.ip.drop 12 == [0, 0, 0, 0])
    then false
  else true

def isRoutable (myDestination : List Byte) : Bool :=
  a.isValid && !(a.isRFC3927 || a.isRFC4862 || (a.isRFC4193 && !(a.isTor || a.isI2P)) ||
    a.isRFC4843 || a.isLocal myDestination)

def getNetwork (myDestination : List Byte) : Network :=
  if !a.isRoutable myDestination then .unroutable
  else if a.isIPv4 then .ipv4
  else if a.isTor then .tor
  else if a.isI2P then .nativeI2P
  else .ipv6

/-- The loop at the end of `GetGroup`: whole bytes from `nStartByte` while at least
eight bits remain, then the last partial byte with its low bits set. -/
def getGroupBits (nStartByte : Nat) : Nat → List Byte
  | nBits + 8 => a.getByte (15 - nStartByte) :: getGroupBits (nStartByte + 1) nBits
  | 0 => []
  | nBits => [a.getByte (15 - nStartByte) ||| BitVec.ofNat 8 ((1 <<< nBits) - 1)]

/-- `GetGroup`: the bucket no two outbound connections share. -/
def getGroup (myDestination : List Byte) : List Byte :=
  if a.isI2P then Network.nativeI2P.toByte :: a.i2pDest
  else
    let nClass : Byte := if a.isLocal myDestination then 255 else Network.ipv6.toByte
    let nBits := if a.isLocal myDestination then 0 else 16
    if !a.isRoutable myDestination then Network.unroutable.toByte :: a.getGroupBits 0 0
    else if a.isIPv4 || a.isRFC6145 || a.isRFC6052 then
      Network.ipv4.toByte :: a.getGroupBits 12 nBits
    else if a.isRFC3964 then Network.ipv4.toByte :: a.getGroupBits 2 nBits
    else if a.isRFC4380 then [Network.ipv4.toByte, a.getByte 3 ^^^ 0xFF, a.getByte 2 ^^^ 0xFF]
    else if a.isTor then Network.tor.toByte :: a.getGroupBits 6 4
    else if a.getByte 15 == 0x20 && a.getByte 14 == 0x01 && a.getByte 13 == 0x04 &&
        a.getByte 12 == 0x70 then nClass :: a.getGroupBits 0 36
    else nClass :: a.getGroupBits 0 32

end CNetAddr

/-- What `GetExtNetwork` returns: a network, or one of the private extensions of
`enum Network` past `NET_MAX`, `NET_UNKNOWN` and `NET_TEREDO`. -/
inductive ExtNetwork
  | net (n : Network)
  | unknown
  | teredo
  deriving DecidableEq, Repr

/-- The scores of `GetReachabilityFrom`, its local `enum Reachability`, worst first. -/
inductive Reachability
  | REACH_UNREACHABLE
  | REACH_DEFAULT
  | REACH_TEREDO
  | REACH_IPV6_WEAK
  | REACH_IPV4
  | REACH_IPV6_STRONG
  | REACH_PRIVATE
  deriving DecidableEq, Repr

variable {size : Nat}

/-- `GetExtNetwork(addr)`: Teredo is told apart from IPv6, and a missing partner is
`NET_UNKNOWN`. -/
def getExtNetwork (addr : Option (CNetAddr size)) (myDestination : List Byte) : ExtNetwork :=
  match addr with
  | none => .unknown
  | some addr => if addr.isRFC4380 then .teredo else .net (addr.getNetwork myDestination)

/-- `GetReachabilityFrom(paddrPartner)`: how much the partner prefers this address. -/
def CNetAddr.getReachabilityFrom (a : CNetAddr size) (paddrPartner : Option (CNetAddr size))
    (myDestination : List Byte) : Reachability :=
  if !a.isRoutable myDestination then .REACH_UNREACHABLE else
  let ourNet := getExtNetwork (some a) myDestination
  let theirNet := getExtNetwork paddrPartner myDestination
  let fTunnel := a.isRFC3964 || a.isRFC6052 || a.isRFC6145
  match theirNet with
  | .net .ipv4 =>
    match ourNet with
    | .net .ipv4 => .REACH_IPV4
    | _ => .REACH_DEFAULT
  | .net .ipv6 =>
    match ourNet with
    | .teredo => .REACH_TEREDO
    | .net .ipv4 => .REACH_IPV4
    | .net .ipv6 => if fTunnel then .REACH_IPV6_WEAK else .REACH_IPV6_STRONG
    | _ => .REACH_DEFAULT
  | .net .nativeI2P =>
    match ourNet with
    | .net .nativeI2P => .REACH_PRIVATE
    | _ => .REACH_UNREACHABLE
  | .net .tor =>
    match ourNet with
    | .net .ipv4 => .REACH_IPV4
    | .net .tor => .REACH_PRIVATE
    | _ => .REACH_DEFAULT
  | .teredo =>
    match ourNet with
    | .teredo => .REACH_TEREDO
    | .net .ipv6 => .REACH_IPV6_WEAK
    | .net .ipv4 => .REACH_IPV4
    | _ => .REACH_DEFAULT
  | .unknown | .net .unroutable =>
    match ourNet with
    | .teredo => .REACH_TEREDO
    | .net .ipv6 => .REACH_IPV6_WEAK
    | .net .ipv4 => .REACH_IPV4
    | .net .tor => .REACH_PRIVATE
    | .net .nativeI2P => .REACH_PRIVATE
    | _ => .REACH_DEFAULT

end Netbase
