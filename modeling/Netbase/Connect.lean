import Netbase.Socket
import Netbase.HostPort

/-! `ConnectSocket` and `ConnectSocketByName`. A destination is reached through the I2P
router, through the proxy registered for its network, or directly; a name is resolved by
`LookupIntern`, or else handed unresolved to the name proxy. -/

namespace Netbase

variable {σ : Type} {size : Nat}

/-- `CService()`: all zeros, port 0. -/
def CService.init : CService size := ⟨CNetAddr.init, 0⟩

/-- `CService("0.0.0.0:0")`: `Lookup` reads it as a numeric IPv4 literal, with no
call to the resolver. -/
def CService.anyAddress : CService size := ⟨CNetAddr.ofInAddr ⟨[0, 0, 0, 0], rfl⟩, 0⟩

/-- The proxy registry `proxyInfo[NET_MAX]` and `nameProxy`, and the settings the connect
functions read. -/
structure Settings (size : Nat) where
  proxyInfo : Network → CService size
  nameProxy : CService size
  fNameLookup : Bool
  /-- `-i2p.mydestination.publickey`, against which `IsLocal` compares I2P addresses. -/
  myDestination : List Byte

/-- The statics before any setter runs: every slot of the proxy table and the name proxy
hold `CService()`. -/
def Settings.initial (fNameLookup : Bool) (myDestination : List Byte) : Settings size :=
  ⟨fun _ => CService.init, CService.init, fNameLookup, myDestination⟩

namespace Settings

variable (settings : Settings size)

/-- `GetProxy(net, proxyInfoOut)`. -/
def getProxy (net : Network) : Option (CService size) :=
  if (settings.proxyInfo net).isValid then some (settings.proxyInfo net) else none

/-- `HaveNameProxy()`. -/
def haveNameProxy : Bool := settings.nameProxy.isValid

/-- `GetNameProxy(nameProxy)` into a `CService()`. -/
def getNameProxy : CService size :=
  if settings.haveNameProxy then settings.nameProxy else CService.init

/-- What `SetProxy` and `SetNameProxy` share: an invalid proxy is refused with nothing
stored, and a valid one leaves the settings `stored`. -/
def setIfValid (addrProxy : CService size) (stored : Settings size) : Bool × Settings size :=
  if !addrProxy.isValid then (false, settings) else (true, stored)

/-- `SetProxy(net, addrProxy)`. -/
def setProxy (net : Network) (addrProxy : CService size) : Bool × Settings size :=
  settings.setIfValid addrProxy
    { settings with proxyInfo := Function.update settings.proxyInfo net addrProxy }

/-- `SetNameProxy(addrProxy)`. -/
def setNameProxy (addrProxy : CService size) : Bool × Settings size :=
  settings.setIfValid addrProxy { settings with nameProxy := addrProxy }

/-- `IsProxy(addr)`: some slot of the table, set or not, holds `addr`. -/
def isProxy (addr : CNetAddr size) : Bool :=
  Network.all.any fun i => addr.eq (settings.proxyInfo i).toCNetAddr

theorem setIfValid_refused {addrProxy : CService size} (invalid : addrProxy.isValid = false)
    (stored : Settings size) : settings.setIfValid addrProxy stored = (false, settings) := by
  simp [setIfValid, invalid]

theorem setIfValid_stored {addrProxy : CService size} (valid : addrProxy.isValid)
    (stored : Settings size) : settings.setIfValid addrProxy stored = (true, stored) := by
  simp [setIfValid, valid]

end Settings

/-- The functions from outside this file that lookups, `SetSpecial` and the text of an
address use. `LookupIntern` takes `SetSpecial` by its result on a fresh address, the
`.onion` and I2P names; `CNetAddr.setSpecial` is the method itself, built from the I2P
helpers here. -/
structure Library (size : Nat) where
  setSpecial : List Byte → Option (CNetAddr size)
  isStringI2pDestination : List Byte → Bool
  isValidI2pB32 : List Byte → Bool
  isValidI2pAddress : List Byte → Bool
  /-- `addrman.GetI2pBase64Destination`: the address book's destination for a name, or
  the empty string. -/
  getI2pBase64Destination : List Byte → List Byte
  /-- `IsI2PEnabled()`. -/
  isI2PEnabled : Bool
  /-- `I2PSession::Instance().namingLookup`: the router's destination for a name, or the
  empty string. -/
  namingLookup : List Byte → List Byte
  /-- `DecodeBase32` of a C string, the bytes it decodes. -/
  decodeBase32 : List Byte → List Byte
  /-- `inet_pton(AF_INET, ...)` and `inet_pton(AF_INET6, ...)`. -/
  inetPton4 : List Byte → Option InAddr
  inetPton6 : List Byte → Option In6Addr
  b32AddressFromDestination : List Byte → List Byte
  /-- `getnameinfo(..., NI_NUMERICHOST)`, or `none` where it fails. -/
  getnameinfo : SockAddr → Option (List Byte)

/-- The addresses `LookupIntern` keeps from `getaddrinfo`'s answers: the `AF_INET` and
`AF_INET6` ones, while it holds fewer than `nMaxSolutions` (any number for 0). -/
def collectAddrs (nMaxSolutions : Nat) : List SockAddr → List (CNetAddr size) → List (CNetAddr size)
  | [], vIP => vIP
  | aiTrav :: rest, vIP =>
    if nMaxSolutions = 0 ∨ vIP.length < nMaxSolutions then
      collectAddrs nMaxSolutions rest <| vIP ++
        match aiTrav with
        | .in4 _ sin_addr => [CNetAddr.ofInAddr sin_addr]
        | .in6 _ _ sin6_addr _ => [CNetAddr.ofIn6Addr sin6_addr]
        | .other _ => []
    else vIP

variable (lib : Library size)

/-- `LookupIntern(pszName, vIP, nMaxSolutions, fAllowLookup)`: what it returns, and `vIP`,
which it clears first. `getaddrinfo_a` and its polling are one call. -/
def lookupIntern (pszName : List Byte) (nMaxSolutions : Nat) (fAllowLookup : Bool) :
    Net σ (Bool × List (CNetAddr size)) :=
  match lib.setSpecial pszName with
  | some addr => pure (true, [addr])
  | none =>
    if lib.isStringI2pDestination pszName then pure (false, []) else
    match lib.inetPton4 pszName with
    | some ipv4_addr => pure (true, [CNetAddr.ofInAddr ipv4_addr])
    | none =>
      match lib.inetPton6 pszName with
      | some ipv6_addr => pure (true, [CNetAddr.ofIn6Addr ipv6_addr])
      | none => do
        let aiRes ← getaddrinfo pszName !fAllowLookup
        match aiRes with
        | none => pure (false, [])
        | some aiRes =>
          let vIP := collectAddrs nMaxSolutions aiRes []
          pure (decide (vIP.length > 0), vIP)

/-- `LookupHost(pszName, vIP, nMaxSolutions, fAllowLookup)`: what it returns, and `vIP`.
An empty name returns `false` with `vIP` as it was; brackets round the host are dropped. -/
def lookupHost (pszName : List Byte) (vIP : List (CNetAddr size)) (nMaxSolutions : Nat)
    (fAllowLookup : Bool) : Net σ (Bool × List (CNetAddr size)) :=
  let strHost := cstr pszName
  if strHost = [] then pure (false, vIP) else
  let strHost :=
    if strHost.head? = some (char '[') ∧ strHost.getLast? = some (char ']') then
      (strHost.drop 1).take (strHost.length - 2)
    else strHost
  lookupIntern lib strHost nMaxSolutions fAllowLookup

/-- `LookupHostNumeric(pszName, vIP, nMaxSolutions)`. -/
def lookupHostNumeric (pszName : List Byte) (vIP : List (CNetAddr size)) (nMaxSolutions : Nat) :
    Net σ (Bool × List (CNetAddr size)) :=
  lookupHost lib pszName vIP nMaxSolutions false

/-- `CNetAddr(strIp, fAllowLookup)`, and `CNetAddr(pszIp, fAllowLookup)` alike: `vIP[0]` of
a successful lookup, or all zeros. -/
def CNetAddr.ofName (strIp : List Byte) (fAllowLookup : Bool) : Net σ (CNetAddr size) := do
  let (found, vIP) ← lookupHost lib strIp [] 1 fAllowLookup
  pure (if found then vIP.headD CNetAddr.init else CNetAddr.init)

/-- `Lookup(pszName, vAddr, portDefault, fAllowLookup, nMaxSolutions)`: what it returns,
and `vAddr` after the call. The host and port are split first, and every address found
takes the port. -/
def lookup (pszName : List Byte) (vAddr : List (CService size)) (portDefault : Int)
    (fAllowLookup : Bool) (nMaxSolutions : Nat) : Net σ (Bool × List (CService size)) :=
  if pszName.headD 0 = 0 then pure (false, vAddr) else do
  let (port, hostname) := splitHostPort (cstr pszName) portDefault
  let (fRet, vIP) ← lookupIntern lib hostname nMaxSolutions fAllowLookup
  if !fRet then pure (false, vAddr) else
  pure (true, vIP.map fun ip => ⟨ip, BitVec.ofInt 16 port⟩)

/-- `Lookup(pszName, addr, portDefault, fAllowLookup)`: what it returns, and `addr`, set to
`vService[0]` of a lookup for one address. -/
def lookupService (pszName : List Byte) (addr : CService size) (portDefault : Int)
    (fAllowLookup : Bool) : Net σ (Bool × CService size) := do
  let (fRet, vService) ← lookup lib pszName [] portDefault fAllowLookup 1
  if !fRet then pure (false, addr) else pure (true, vService.headD addr)

/-- `LookupNumeric(pszName, addr, portDefault)`. -/
def lookupNumeric (pszName : List Byte) (addr : CService size) (portDefault : Int) :
    Net σ (Bool × CService size) :=
  lookupService lib pszName addr portDefault false

/-- `CService(pszIpPort, portDefault, fAllowLookup)`, and the `std::string` form alike:
the service `Lookup` finds, or all zeros. `CService(pszIpPort, fAllowLookup)` is the
default port 0. -/
def CService.ofName (pszIpPort : List Byte) (portDefault : Int) (fAllowLookup : Bool) :
    Net σ (CService size) := do
  let (found, ip) ← lookupService lib pszIpPort CService.init portDefault fAllowLookup
  pure (if found then ip else CService.init)

/-- `strprintf("%x", n)`: lower-case hexadecimal digits, most significant first. -/
def hexadecimal (n : Nat) : List Byte := go n (n + 1)
where
  go (n : Nat) : Nat → List Byte
    | 0 => []
    | fuel + 1 =>
      (if n < 16 then [] else go (n / 16) fuel) ++
        [BitVec.ofNat 8 (if n % 16 < 10 then 48 + n % 16 else 87 + n % 16)]

/-- `CNetAddr::ToStringIP()`. -/
def toStringIP (a : CNetAddr size) : List Byte :=
  if a.isI2P then
    if a.isNativeI2P then lib.b32AddressFromDestination a.getI2pDestination
    else ascii "???.b32.i2p"
  else if a.isTor then encodeBase32 ((a.ip.drop 6).take 10) ++ ascii ".onion"
  else
    let fallback :=
      if a.isIPv4 then
        decimal (a.getByte 3).toNat ++ char '.' :: decimal (a.getByte 2).toNat ++
          char '.' :: decimal (a.getByte 1).toNat ++ char '.' :: decimal (a.getByte 0).toNat
      else
        List.intercalate [char ':'] <| (List.range 8).map fun k =>
          hexadecimal ((a.getByte (15 - 2 * k)).toNat * 256 + (a.getByte (14 - 2 * k)).toNat)
    match (⟨a, 0⟩ : CService size).getSockAddr sizeofSockaddrStorage with
    | some (sockaddr, _) => (lib.getnameinfo sockaddr).getD fallback
    | none => fallback

/-- `CService::ToStringIPPort()`: an I2P service drops its port, an IPv4 or Tor one is
`ip:port`, and any other `[ip]:port`. -/
def CService.toStringIPPort (s : CService size) : List Byte :=
  if s.isI2P then toStringIP lib s.toCNetAddr
  else
    let portStr := s.toStringPort
    if s.isIPv4 || s.isTor then toStringIP lib s.toCNetAddr ++ char ':' :: portStr
    else char '[' :: toStringIP lib s.toCNetAddr ++ char ']' :: char ':' :: portStr

/-- `SetI2pSocketOptions(hSocket)`: whether it succeeded, and `hSocket` after it. -/
def setI2pSocketOptions (hSocket : SOCKET) : Net σ (Bool × SOCKET) :=
  if hSocket = INVALID_SOCKET then pure (false, hSocket) else do
  let nonblocking ← fcntl hSocket true
  if !nonblocking then do
    closesocket hSocket
    pure (false, INVALID_SOCKET)
  else pure (true, hSocket)

/-- The proxy path, written out alike in `ConnectSocket` and `ConnectSocketByName`:
connect to `proxy`, then negotiate `strDest` and `port` over SOCKS5. The socket, where
both succeed. -/
def connectThroughProxy (proxy : CService size) (strDest : List Byte) (port nTimeout : Int) :
    Net σ (Option SOCKET) := do
  let (ok, hSocket) ← connectSocketDirectly proxy nTimeout
  if !ok then pure none else do
  let negotiated ← socks5 strDest port hSocket
  pure (if negotiated.isOk then some hSocket else none)

variable (settings : Settings size)

/-- `ConnectSocket(addrDest, hSocketRet, nTimeout)`: whether it connected and
`hSocketRet` after the call, or `none` where `assert(addrDest.IsNativeI2P())` stops the
process. -/
def connectSocket (addrDest : CService size) (hSocketRet : SOCKET) (nTimeout : Int) :
    Net σ (Option (Bool × SOCKET)) :=
  if addrDest.isI2P then
    if !addrDest.isNativeI2P then pure none else do
    let streamSocket ← i2pConnect addrDest.getI2pDestination
    let (ok, streamSocket) ← setI2pSocketOptions streamSocket
    pure (some (if ok then (true, streamSocket) else (false, hSocketRet)))
  else
    match settings.getProxy (addrDest.getNetwork settings.myDestination) with
    | none => do
      let r ← connectSocketDirectly addrDest nTimeout
      pure (some r)
    | some proxy => do
      let hSocket ← connectThroughProxy proxy (toStringIP lib addrDest.toCNetAddr)
        addrDest.port.toNat nTimeout
      pure (some (hSocket.elim (false, hSocketRet) fun hSocket => (true, hSocket)))

/-- `ConnectSocketByName(addr, hSocketRet, pszDest, portDefault, nTimeout)`: whether it
connected, `hSocketRet` and the `addr` it writes, or `none` where an `assert` stops the
process. -/
def connectSocketByName (hSocketRet : SOCKET) (pszDest : List Byte)
    (portDefault nTimeout : Int) : Net σ (Option (Bool × SOCKET × CService size)) := do
  let (port, strDest) := splitHostPort (cstr pszDest) portDefault
  let nameProxy := settings.getNameProxy
  let resolved ← CNetAddr.ofName lib strDest (settings.fNameLookup && !settings.haveNameProxy)
  let addrResolved : CService size := ⟨resolved, BitVec.ofInt 16 port⟩
  if addrResolved.isValid then do
    let r ← connectSocket lib settings addrResolved hSocketRet nTimeout
    pure (r.map fun (ok, hSocketRet) => (ok, hSocketRet, addrResolved))
  else
    let addr := CService.anyAddress
    if !settings.haveNameProxy then pure (some (false, hSocketRet, addr)) else do
    let hSocket ← connectThroughProxy nameProxy strDest (port % 0x10000) nTimeout
    pure (some (hSocket.elim (false, hSocketRet, addr) fun hSocket => (true, hSocket, addr)))

end Netbase
