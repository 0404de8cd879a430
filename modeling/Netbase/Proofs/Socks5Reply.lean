import Netbase.Socket

/-! `Socks5` against a proxy that answers with a byte stream. A granted request is
accepted with an IPv4 or IPv6 bound address or a domain name shorter than 128 bytes; a
refused one fails with the message for its reply code. A name of 128 bytes or more is
refused, though the reply is well formed: the length byte is read through a signed
`char`, so `nRecv` is negative, and `recv` is asked for `2^64 + nRecv` bytes into the
256-byte buffer `pchRet3`. -/

namespace Netbase.Proofs.Socks5Reply

/-- A proxy that answers with the bytes of its state, in order: `recv(n)` takes up to `n`
of them, and every `send` is complete. -/
def streamProxy : Os (List Byte) where
  socket s _ := (INVALID_SOCKET, s)
  fcntl s _ _ := (true, s)
  connect s _ _ := (none, s)
  select s _ _ := (1, s)
  getsockopt s _ := (some 0, s)
  send s _ data := (data.length, s)
  recv s _ n := (some (s.take n), s.drop n)
  i2pConnect s _ := (INVALID_SOCKET, s)
  getaddrinfo s _ _ := (none, s)

/-- What `Socks5(strDest, port, hSocket)` returns against the stream proxy. -/
def socks5Result (strDest : List Byte) (port : Int) (hSocket : SOCKET) (stream : List Byte) :
    Except String Unit :=
  ((socks5 strDest port hSocket : Net (List Byte) _).run ⟨streamProxy, stream, []⟩).1

/-- The method choice `05 00`, then a granted request: version 5, success, a reserved
zero, the address type and the bound address, and the port. -/
def grantReply (atyp : Byte) (bound : List Byte) (portHi portLo : Byte) : List Byte :=
  [5, 0, 5, 0, 0, atyp] ++ bound ++ [portHi, portLo]

section Steps

/-- An operating system whose reads take from a byte stream, the state, and whose sends
are complete. -/
structure Streams (sys : Os (List Byte)) : Prop where
  send : ∀ s hSocket data, sys.send s hSocket data = ((data.length : Int), s)
  recv : ∀ s hSocket n, sys.recv s hSocket n = (some (s.take n), s.drop n)

theorem streamProxy_streams : Streams streamProxy := ⟨fun _ _ _ => rfl, fun _ _ _ => rfl⟩

theorem abandon_result {σ : Type} (hSocket : SOCKET) (message : String) (w : World σ) :
    ((abandon hSocket message : Net σ _).run w).1 = .error message := rfl

theorem toInt_length_byte {n : Nat} (short : n < 0x80) : (BitVec.ofNat 8 n).toInt = n := by
  rw [BitVec.toInt_eq_toNat_cond]
  simp [BitVec.toNat_ofNat]
  omega

end Steps

section Replies

variable {sys : Os (List Byte)} (streams : Streams sys) {strDest : List Byte} {port : Int}
  {hSocket : SOCKET}
include streams

theorem socks5_ipv4_run (fits : strDest.length ≤ 255) {bound : List Byte}
    (four : bound.length = 4) (hi lo : Byte) (rest : List Byte) (log : List Event) :
    (socks5 strDest port hSocket : Net (List Byte) _).run
        ⟨sys, grantReply 1 bound hi lo ++ rest, log⟩ =
      (.ok (), ⟨sys, rest, log ++ [.send hSocket socks5Init, .recv hSocket 2 2,
        .send hSocket (socks5Request strDest port), .recv hSocket 4 4, .recv hSocket 256 4,
        .recv hSocket 256 2]⟩) := by
  unfold socks5 finishReply
  simp [-StateT.run_bind, send, recv, call_then, streams.send, streams.recv, not_lt.2 fits,
    received, socks5Init, grantReply, four]

theorem socks5_ipv4 (fits : strDest.length ≤ 255) {bound : List Byte} (four : bound.length = 4)
    (hi lo : Byte) (rest : List Byte) (log : List Event) :
    ((socks5 strDest port hSocket : Net (List Byte) _).run
      ⟨sys, grantReply 1 bound hi lo ++ rest, log⟩).1 = .ok () := by
  rw [socks5_ipv4_run streams fits four]

theorem socks5_ipv6 (fits : strDest.length ≤ 255) {bound : List Byte} (sixteen : bound.length = 16)
    (hi lo : Byte) (rest : List Byte) (log : List Event) :
    ((socks5 strDest port hSocket : Net (List Byte) _).run
      ⟨sys, grantReply 4 bound hi lo ++ rest, log⟩).1 = .ok () := by
  unfold socks5 finishReply
  simp [-StateT.run_bind, send, recv, call_then, streams.send, streams.recv, not_lt.2 fits,
    received, socks5Init, grantReply, sixteen]

theorem socks5_short_name (fits : strDest.length ≤ 255) {name : List Byte}
    (short : name.length < 0x80) (hi lo : Byte) (rest : List Byte) (log : List Event) :
    ((socks5 strDest port hSocket : Net (List Byte) _).run
      ⟨sys, grantReply 3 (BitVec.ofNat 8 name.length :: name) hi lo ++ rest, log⟩).1 = .ok () := by
  -- `nRecv % 2^64` as `simp` writes it
  have small : (name.length : Int) % 18446744073709551616 = name.length :=
    Int.emod_eq_of_lt (by omega) (by omega)
  unfold socks5 finishReply
  simp [-StateT.run_bind, send, recv, call_then, streams.send, streams.recv, not_lt.2 fits,
    received, socks5Init, grantReply, toInt_length_byte short, small]

theorem socks5_long_name (fits : strDest.length ≤ 255) {len : Byte} (long : 0x80 ≤ len.toNat)
    (rest : List Byte) (log : List Event) :
    ((socks5 strDest port hSocket : Net (List Byte) _).run
      ⟨sys, [5, 0, 5, 0, 0, 3, len] ++ rest, log⟩).1 = .error "Error reading from proxy" := by
  have negative : len.toInt < 0 := by
    rw [BitVec.toInt_eq_toNat_cond]
    have := len.isLt
    split_ifs <;> omega
  have never : ∀ m : Nat, ((m : Int) = len.toInt) = False := fun m => eq_false (by omega)
  unfold socks5 finishReply
  simp [-StateT.run_bind, -List.length_take, send, recv, call_then, streams.send, streams.recv,
    not_lt.2 fits, received, socks5Init, never, abandon_result]

theorem socks5_refused (fits : strDest.length ≤ 255) {rep : Byte} (refused : rep ≠ 0)
    (reserved atyp : Byte) (rest : List Byte) (log : List Event) :
    ((socks5 strDest port hSocket : Net (List Byte) _).run
      ⟨sys, [5, 0, 5, rep, reserved, atyp] ++ rest, log⟩).1 = .error (proxyError rep) := by
  have refused : (rep = 0#8) = False := eq_false refused
  unfold socks5
  simp [-StateT.run_bind, send, recv, call_then, streams.send, streams.recv, not_lt.2 fits,
    received, socks5Init, refused, abandon_result]

omit streams

/-- Against a proxy that offers no authentication, `Socks5` succeeds when the request is
granted with a bound IPv4 or IPv6 address or a domain name shorter than 128 bytes, fails
with "Error reading from proxy" for every name of 128 bytes or more when at most 256 bytes
follow its length byte, so that they fit in `pchRet3`, and fails with the reply code's
message when the request is refused. -/
theorem socks5_reply_by_type (strDest : List Byte) (port : Int) (hSocket : SOCKET)
    (fits : strDest.length ≤ 255) :
    (∀ bound hi lo rest, bound.length = 4 →
      socks5Result strDest port hSocket (grantReply 1 bound hi lo ++ rest) = .ok ()) ∧
    (∀ bound hi lo rest, bound.length = 16 →
      socks5Result strDest port hSocket (grantReply 4 bound hi lo ++ rest) = .ok ()) ∧
    (∀ name hi lo rest, name.length < 0x80 →
      socks5Result strDest port hSocket
        (grantReply 3 (BitVec.ofNat 8 name.length :: name) hi lo ++ rest) = .ok ()) ∧
    (∀ (len : Byte) rest, 0x80 ≤ len.toNat → rest.length ≤ 256 →
      socks5Result strDest port hSocket ([5, 0, 5, 0, 0, 3, len] ++ rest) =
        .error "Error reading from proxy") ∧
    (∀ (rep : Byte) reserved atyp rest, rep ≠ 0 →
      socks5Result strDest port hSocket ([5, 0, 5, rep, reserved, atyp] ++ rest) =
        .error (proxyError rep)) :=
  ⟨fun _ hi lo rest four => socks5_ipv4 streamProxy_streams fits four hi lo rest [],
    fun _ hi lo rest sixteen => socks5_ipv6 streamProxy_streams fits sixteen hi lo rest [],
    fun _ hi lo rest short => socks5_short_name streamProxy_streams fits short hi lo rest [],
    fun _ rest long _ => socks5_long_name streamProxy_streams fits long rest [],
    fun _ reserved atyp rest refused =>
      socks5_refused streamProxy_streams fits refused reserved atyp rest []⟩

/-- `Socks5("a", 80)` accepts 127.0.0.1:80 as the bound address, and refuses a bound name
of 128 bytes. -/
theorem socks5_reply_by_type_examples :
    (ascii "a").length ≤ 255 ∧
      socks5Result (ascii "a") 80 3 (grantReply 1 [127, 0, 0, 1] 0 80) = .ok () ∧
      socks5Result (ascii "a") 80 3 ([5, 0, 5, 0, 0, 3, 0x80] ++ List.replicate 130 0) =
        .error "Error reading from proxy" :=
  have types := socks5_reply_by_type (ascii "a") 80 3 (by decide)
  ⟨by decide, by simpa using types.1 [127, 0, 0, 1] 0 80 [] rfl,
    types.2.2.2.1 0x80 (List.replicate 130 0) (by decide) (by simp)⟩

end Replies

/-- A well-formed reply whose bound address is a 128-byte domain name, then the port. -/
def longDomainReply : List Byte :=
  [5, 0, 5, 0, 0, 3, 0x80] ++ List.replicate 128 (char 'a') ++ [0, 80]

/-- `Socks5("a", 80)` refuses the reply with a 128-byte domain name. -/
theorem socks5_refuses_long_domain :
    ((socks5 (ascii "a") 80 3 : Net (List Byte) _).run ⟨streamProxy, longDomainReply, []⟩).1 =
      .error "Error reading from proxy" :=
  rfl

/-- On that reply `Socks5` asks `recv` for `2^64 - 128` bytes into the 256-byte `pchRet3`. -/
theorem socks5_recv_exceeds_buffer :
    Event.recv 3 256 (2 ^ 64 - 128) ∈
      ((socks5 (ascii "a") 80 3 : Net (List Byte) _).run ⟨streamProxy, longDomainReply, []⟩).2.log := by
  decide

end Netbase.Proofs.Socks5Reply
