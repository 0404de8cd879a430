import Netbase.Service

/-! The socket layer: `Socks5` and `ConnectSocketDirectly`, over an operating system
whose every answer is left open. Each call leaves an event in a log, so what a function
does to sockets, and whom it dials, is read off the log. The build is the POSIX one:
`fcntl` sets non-blocking mode and there is no `SO_NOSIGPIPE`. -/

namespace Netbase

/-- `SOCKET`: a descriptor. -/
abbrev SOCKET := Int

def INVALID_SOCKET : SOCKET := -1
def SOCKET_ERROR : Int := -1

/-- The `errno` a failed `connect` leaves, as far as the code tells them apart. -/
inductive Errno
  | EINPROGRESS
  | EWOULDBLOCK
  | EINVAL
  | other (code : Nat)
  deriving DecidableEq

/-- `sa_family` on Linux. -/
def SockAddr.family : SockAddr → Nat
  | .in4 .. => 2
  | .in6 .. => 10
  | .other sa_family => sa_family

def sizeofSockaddrStorage : Nat := 128

/-- The calls made to the operating system and to the I2P router, with what each was
given and, where the code branches on it, what it got back. -/
inductive Event
  | socket (family : Nat) (result : SOCKET)
  | fcntl (hSocket : SOCKET) (nonblocking : Bool)
  | connect (hSocket : SOCKET) (addr : SockAddr)
  | select (hSocket : SOCKET)
  | getsockopt (hSocket : SOCKET)
  | send (hSocket : SOCKET) (data : List Byte)
  | recv (hSocket : SOCKET) (buffer len : Nat)
  | closesocket (hSocket : SOCKET)
  | i2pConnect (destination : List Byte) (result : SOCKET)
  | getaddrinfo (name : List Byte) (numericHost : Bool)
  deriving DecidableEq

/-- The answers of the operating system and the I2P router. Each may depend on all that
happened before, which the state `σ` records. -/
structure Os (σ : Type) where
  socket : σ → Nat → SOCKET × σ
  /-- Whether `fcntl(F_SETFL)` succeeds in setting or clearing `O_NONBLOCK`. -/
  fcntl : σ → SOCKET → Bool → Bool × σ
  /-- `none` for success, or the `errno` of `SOCKET_ERROR`. -/
  connect : σ → SOCKET → SockAddr → Option Errno × σ
  select : σ → SOCKET → Int → Int × σ
  /-- The `SO_ERROR` read, or `none` for `SOCKET_ERROR`. -/
  getsockopt : σ → SOCKET → Option Int × σ
  /-- The count sent, or `-1`. -/
  send : σ → SOCKET → List Byte → Int × σ
  /-- The bytes read for a given length, or `none` for `-1`. -/
  recv : σ → SOCKET → Nat → Option (List Byte) × σ
  i2pConnect : σ → List Byte → SOCKET × σ
  /-- The answers for a name, numeric only or not, or `none` for an error. -/
  getaddrinfo : σ → List Byte → Bool → Option (List SockAddr) × σ

structure World (σ : Type) where
  sys : Os σ
  os : σ
  log : List Event

abbrev Net (σ : Type) := StateM (World σ)

section Calls

variable {σ α : Type}

/-- One call: its answer, and the event it leaves in the log. -/
def call (answer : Os σ → σ → α × σ) (event : α → Event) : Net σ α := fun w =>
  let r := answer w.sys w.os
  (r.1, { w with os := r.2, log := w.log ++ [event r.1] })

theorem call_then {β : Type} (answer : Os σ → σ → α × σ) (event : α → Event) (k : α → Net σ β)
    (w : World σ) :
    (call answer event >>= k).run w =
      (k (answer w.sys w.os).1).run
        ⟨w.sys, (answer w.sys w.os).2, w.log ++ [event (answer w.sys w.os).1]⟩ := rfl

theorem bind_then {β : Type} (x : Net σ α) (k : α → Net σ β) (w : World σ) :
    (x >>= k).run w = (k (x.run w).1).run (x.run w).2 := rfl

def socket (family : Nat) : Net σ SOCKET :=
  call (fun sys s => sys.socket s family) (.socket family)

def fcntl (hSocket : SOCKET) (nonblocking : Bool) : Net σ Bool :=
  call (fun sys s => sys.fcntl s hSocket nonblocking) fun _ => .fcntl hSocket nonblocking

def connect (hSocket : SOCKET) (addr : SockAddr) : Net σ (Option Errno) :=
  call (fun sys s => sys.connect s hSocket addr) fun _ => .connect hSocket addr

def select (hSocket : SOCKET) (nTimeout : Int) : Net σ Int :=
  call (fun sys s => sys.select s hSocket nTimeout) fun _ => .select hSocket

def getsockopt (hSocket : SOCKET) : Net σ (Option Int) :=
  call (fun sys s => sys.getsockopt s hSocket) fun _ => .getsockopt hSocket

def send (hSocket : SOCKET) (data : List Byte) : Net σ Int :=
  call (fun sys s => sys.send s hSocket data) fun _ => .send hSocket data

/-- `recv(hSocket, buf, len, 0)` into a buffer of `buffer` bytes. The bytes read are
returned, not written into a buffer, so a read of more than `buffer` bytes, which in C
overruns `buf`, is recorded in its event and not modelled further. -/
def recv (hSocket : SOCKET) (buffer len : Nat) : Net σ (Option (List Byte)) :=
  call (fun sys s => sys.recv s hSocket len) fun _ => .recv hSocket buffer len

/-- `I2PSession::Instance().connect(destination, false)`: a stream socket, or
`INVALID_SOCKET`. -/
def i2pConnect (destination : List Byte) : Net σ SOCKET :=
  call (fun sys s => sys.i2pConnect s destination) (.i2pConnect destination)

/-- `getaddrinfo` for a name, with `AI_NUMERICHOST` or not. -/
def getaddrinfo (name : List Byte) (numericHost : Bool) : Net σ (Option (List SockAddr)) :=
  call (fun sys s => sys.getaddrinfo s name numericHost) fun _ => .getaddrinfo name numericHost

def closesocket (hSocket : SOCKET) : Net σ Unit := fun w =>
  ((), { w with log := w.log ++ [.closesocket hSocket] })

/-- What `recv` returns: the count read, or `-1`. -/
def received : Option (List Byte) → Int
  | none => -1
  | some data => data.length

end Calls

section Socks5

variable {σ : Type}

def socks5Init : List Byte := [5, 1, 0]

/-- The CONNECT request for a domain name: `(char)min(size, 255)`, the name, and the
port's bytes `(port >> 8) & 0xFF` and `port & 0xFF`. -/
def socks5Request (strDest : List Byte) (port : Int) : List Byte :=
  [5, 1, 0, 3, BitVec.ofNat 8 (min strDest.length 255)] ++ strDest ++
    [BitVec.ofInt 8 (port / 256), BitVec.ofInt 8 port]

/-- `closesocket(hSocket); return error(message);` -/
def abandon (hSocket : SOCKET) (message : String) : Net σ (Except String Unit) := do
  closesocket hSocket
  pure (.error message)

/-- The message for a reply field `REP` other than success. -/
def proxyError (rep : Byte) : String :=
  match rep.toNat with
  | 0x01 => "Proxy error: general failure"
  | 0x02 => "Proxy error: connection not allowed"
  | 0x03 => "Proxy error: network unreachable"
  | 0x04 => "Proxy error: host unreachable"
  | 0x05 => "Proxy error: connection refused"
  | 0x06 => "Proxy error: TTL expired"
  | 0x07 => "Proxy error: protocol error"
  | 0x08 => "Proxy error: address type not supported"
  | _ => "Proxy error: unknown"

/-- The end of `Socks5`, after the bound address: `if (ret)`, then the port. -/
def finishReply (hSocket : SOCKET) (ret : Bool) : Net σ (Except String Unit) :=
  if ret then abandon hSocket "Error reading from proxy" else do
  let pchRet3 ← recv hSocket 256 2
  if received pchRet3 ≠ 2 then abandon hSocket "Error reading from proxy" else pure (.ok ())

/-- `Socks5(strDest, port, hSocket)`: `.ok` for `true`, or the message `error` logs
before `false` is returned. `char` is signed, so a domain length from `0x80` up is a
negative `nRecv`, which `recv` takes as the `size_t` `2^64 + nRecv`. -/
def socks5 (strDest : List Byte) (port : Int) (hSocket : SOCKET) : Net σ (Except String Unit) :=
  if strDest.length > 255 then abandon hSocket "Hostname too long" else do
  let ret ← send hSocket socks5Init
  if ret ≠ socks5Init.length then abandon hSocket "Error sending to proxy" else do
  let pchRet1 ← recv hSocket 2 2
  if received pchRet1 ≠ 2 then abandon hSocket "Error reading proxy response" else do
  let pchRet1 := pchRet1.getD []
  if pchRet1.getD 0 0 ≠ 0x05 ∨ pchRet1.getD 1 0 ≠ 0x00 then
    abandon hSocket "Proxy failed to initialize" else do
  let strSocks5 := socks5Request strDest port
  let ret ← send hSocket strSocks5
  if ret ≠ strSocks5.length then abandon hSocket "Error sending to proxy" else do
  let pchRet2 ← recv hSocket 4 4
  if received pchRet2 ≠ 4 then abandon hSocket "Error reading proxy response" else do
  let pchRet2 := pchRet2.getD []
  if pchRet2.getD 0 0 ≠ 0x05 then abandon hSocket "Proxy failed to accept request" else
  if pchRet2.getD 1 0 ≠ 0x00 then abandon hSocket (proxyError (pchRet2.getD 1 0)) else
  if pchRet2.getD 2 0 ≠ 0x00 then abandon hSocket "Error: malformed proxy response" else
  if pchRet2.getD 3 0 = 0x01 then do
    let pchRet3 ← recv hSocket 256 4
    finishReply hSocket (received pchRet3 ≠ 4)
  else if pchRet2.getD 3 0 = 0x04 then do
    let pchRet3 ← recv hSocket 256 16
    finishReply hSocket (received pchRet3 ≠ 16)
  else if pchRet2.getD 3 0 = 0x03 then do
    let pchRet3 ← recv hSocket 256 1
    if received pchRet3 ≠ 1 then abandon hSocket "Error reading from proxy" else do
    let nRecv : Int := ((pchRet3.getD []).getD 0 0).toInt
    let pchRet3 ← recv hSocket 256 (nRecv % 2 ^ 64).toNat
    finishReply hSocket (received pchRet3 ≠ nRecv)
  else abandon hSocket "Error: malformed proxy response"

end Socks5

section Direct

variable {σ : Type} {size : Nat}

/-- `closesocket(hSocket); return false;`, with `hSocketRet` left invalid. -/
def giveUp (hSocket : SOCKET) : Net σ (Bool × SOCKET) := do
  closesocket hSocket
  pure (false, INVALID_SOCKET)

/-- The end of `ConnectSocketDirectly`: back to blocking mode, then `hSocketRet = hSocket`. -/
def restoreBlocking (hSocket : SOCKET) : Net σ (Bool × SOCKET) := do
  let blocking ← fcntl hSocket false
  if !blocking then giveUp hSocket else pure (true, hSocket)

/-- `ConnectSocketDirectly(addrConnect, hSocketRet, nTimeout)`: whether it connected,
and `hSocketRet` after the call. -/
def connectSocketDirectly (addrConnect : CService size) (nTimeout : Int) : Net σ (Bool × SOCKET) :=
  match addrConnect.getSockAddr sizeofSockaddrStorage with
  | none => pure (false, INVALID_SOCKET)
  | some (sockaddr, _) => do
    let hSocket ← socket sockaddr.family
    if hSocket = INVALID_SOCKET then pure (false, INVALID_SOCKET) else do
    let nonblocking ← fcntl hSocket true
    if !nonblocking then giveUp hSocket else do
    let err ← connect hSocket sockaddr
    match err with
    | none => restoreBlocking hSocket
    | some err =>
      if err = .EINPROGRESS ∨ err = .EWOULDBLOCK ∨ err = .EINVAL then do
        let nRet ← select hSocket nTimeout
        if nRet = 0 then giveUp hSocket
        else if nRet = SOCKET_ERROR then giveUp hSocket else do
        let nRet ← getsockopt hSocket
        match nRet with
        | none => giveUp hSocket
        | some nRet => if nRet ≠ 0 then giveUp hSocket else restoreBlocking hSocket
      else giveUp hSocket

end Direct

end Netbase
