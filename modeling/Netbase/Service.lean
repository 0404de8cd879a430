import Netbase.Address

/-! `CService`: an address with a TCP port. Its comparisons key the peer tables, and
its conversions to and from `sockaddr_in` and `sockaddr_in6` are how addresses
cross to the operating system. -/

namespace Netbase

/-- `CService`. The port is ignored where either side is a native I2P destination. -/
structure CService (size : Nat) extends CNetAddr size where
  port : BitVec 16
  deriving DecidableEq

/-- `htons`: a port as the two bytes it occupies in a socket address, high byte first. -/
def htons (port : BitVec 16) : Byte × Byte :=
  (BitVec.ofNat 8 (port.toNat / 256), BitVec.ofNat 8 (port.toNat % 256))

/-- `ntohs`: the port held by two bytes in network order. -/
def ntohs (bytes : Byte × Byte) : BitVec 16 := BitVec.ofNat 16 (bytes.1.toNat * 256 + bytes.2.toNat)

/-- The socket addresses the code builds and reads. `other` is any family but
`AF_INET` and `AF_INET6`. -/
inductive SockAddr
  | in4 (sin_port : Byte × Byte) (sin_addr : InAddr)
  | in6 (sin6_port : Byte × Byte) (sin6_flowinfo : BitVec 32) (sin6_addr : In6Addr)
      (sin6_scope_id : BitVec 32)
  | other (sa_family : Nat)
  deriving DecidableEq

/-- `sizeof(struct sockaddr_in)` and `sizeof(struct sockaddr_in6)` on Linux. -/
def sizeofSockaddrIn : Nat := 16
def sizeofSockaddrIn6 : Nat := 28

/-- `strprintf("%u", n)`: the decimal digits of `n`, most significant first. -/
def decimal (n : Nat) : List Byte := go n (n + 1)
where
  go (n : Nat) : Nat → List Byte
    | 0 => []
    | fuel + 1 => (if n < 10 then [] else go (n / 10) fuel) ++ [BitVec.ofNat 8 (48 + n % 10)]

namespace CNetAddr

variable {size : Nat}

/-- `operator==`: both buffers byte for byte. -/
def eq (a b : CNetAddr size) : Bool :=
  memcmp a.ip b.ip = .eq && memcmp a.i2pDest b.i2pDest = .eq

theorem eq_iff {a b : CNetAddr size} : a.eq b ↔ a.ip = b.ip ∧ a.i2pDest = b.i2pDest := by
  simp [eq]

def ne (a b : CNetAddr size) : Bool :=
  memcmp a.ip b.ip ≠ .eq || memcmp a.i2pDest b.i2pDest ≠ .eq

def lt (a b : CNetAddr size) : Bool :=
  memcmp a.ip b.ip = .lt || (memcmp a.ip b.ip = .eq && memcmp a.i2pDest b.i2pDest = .lt)

def getInAddr (a : CNetAddr size) : Option InAddr :=
  if a.isIPv4 then some ⟨a.ip.drop 12, by simp [a.ip_length]⟩ else none

def getIn6Addr (a : CNetAddr size) : Option In6Addr :=
  if a.isNativeI2P then none else some ⟨a.ip, a.ip_length⟩

end CNetAddr

namespace CService

variable {size : Nat}

/-- `CService(const struct sockaddr_in&)`. -/
def ofSockaddrIn (port : Byte × Byte) (addr : InAddr) : CService size :=
  ⟨CNetAddr.ofInAddr addr, ntohs port⟩

/-- `CService(const struct sockaddr_in6&)`: flow label and scope are dropped. -/
def ofSockaddrIn6 (port : Byte × Byte) (addr : In6Addr) : CService size :=
  ⟨CNetAddr.ofIn6Addr addr, ntohs port⟩

/-- `operator==`: native I2P services compare by destination alone. -/
def eq (a b : CService size) : Bool :=
  if a.isNativeI2P then
    if b.isNativeI2P then a.getI2pDestination == b.getI2pDestination else false
  else if b.isNativeI2P then false
  else a.toCNetAddr.eq b.toCNetAddr && a.port == b.port

def ne (a b : CService size) : Bool :=
  if a.isNativeI2P then
    if b.isNativeI2P then a.getI2pDestination != b.getI2pDestination else true
  else if b.isNativeI2P then true
  else a.toCNetAddr.ne b.toCNetAddr || a.port != b.port

/-- `operator<`: I2P services sort after all others, and among themselves by
destination, compared as `std::string`. -/
def lt (a b : CService size) : Bool :=
  if a.isNativeI2P then
    if b.isNativeI2P then memcmp a.getI2pDestination b.getI2pDestination = .lt else false
  else if b.isNativeI2P then true
  else a.toCNetAddr.lt b.toCNetAddr || (a.toCNetAddr.eq b.toCNetAddr && a.port < b.port)

/-- `SetSockAddr`: the service a socket address denotes, or `false` for another family. -/
def setSockAddr (s : CService size) : SockAddr → Bool × CService size
  | .in4 port addr => (true, ofSockaddrIn port addr)
  | .in6 port _ addr _ => (true, ofSockaddrIn6 port addr)
  | .other _ => (false, s)

/-- `GetSockAddr` into a buffer of `addrlen` bytes: the socket address written and the
length set, or `none` where the call returns `false`. -/
def getSockAddr (s : CService size) (addrlen : Nat) : Option (SockAddr × Nat) :=
  if s.isIPv4 then
    if addrlen < sizeofSockaddrIn then none
    else (s.getInAddr).map fun addr => (.in4 (htons s.port) addr, sizeofSockaddrIn)
  else if s.isIPv6 then
    if addrlen < sizeofSockaddrIn6 then none
    else (s.getIn6Addr).map fun addr => (.in6 (htons s.port) 0 addr 0, sizeofSockaddrIn6)
  else none

/-- `ToStringPort`. -/
def toStringPort (s : CService size) : List Byte := decimal s.port.toNat

/-- `GetKey()`: a native I2P service is keyed by its destination buffer alone, and any
other by its slot and then its port, high byte first. `none` where `assert(IsI2P())`
fails: a native destination beside a slot outside GarlicCat. -/
def getKey (s : CService size) : Option (List Byte) :=
  if s.isNativeI2P then if s.isI2P then some s.i2pDest else none
  else
    some (s.ip ++ [BitVec.ofNat 8 (s.port.toNat / 0x100), BitVec.ofNat 8 (s.port.toNat &&& 0x0FF)])

end CService

end Netbase
