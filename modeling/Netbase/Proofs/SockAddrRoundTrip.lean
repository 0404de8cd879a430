import Netbase.Service

/-! What `SetSockAddr` accepts from the operating system, `GetSockAddr` gives back:
the same address and port, an IPv4-mapped IPv6 address as the `sockaddr_in` it maps,
without flow label or scope. The exceptions are the IPv6 addresses in the OnionCat
and GarlicCat prefixes, which the slot reads as Tor and I2P addresses and which
therefore have no socket address. -/

namespace Netbase.Proofs.SockAddrRoundTrip
open CNetAddr CService

variable {size : Nat}

theorem ntohs_htons (port : BitVec 16) : ntohs (htons port) = port := by
  apply BitVec.eq_of_toNat_eq
  simp only [ntohs, htons, BitVec.toNat_ofNat]
  omega

theorem htons_ntohs (bytes : Byte × Byte) : htons (ntohs bytes) = bytes := by
  obtain ⟨high, low⟩ := bytes
  have := high.isLt
  have := low.isLt
  simp only [htons, ntohs, Prod.mk.injEq]
  constructor <;> apply BitVec.eq_of_toNat_eq <;> simp only [BitVec.toNat_ofNat] <;> omega

/-- The socket address a round trip is expected to give back for one accepted. -/
def canonical : SockAddr → SockAddr
  | .in4 port addr => .in4 port addr
  | .in6 port _ addr _ =>
    if addr.bytes.take 12 = pchIPv4 then .in4 port ⟨addr.bytes.drop 12, by simp [addr.length]⟩
    else .in6 port 0 addr 0
  | .other family => .other family

/-- An IPv6 address in the OnionCat or GarlicCat /48. -/
def inOverlayPrefix (addr : In6Addr) : Bool :=
  addr.bytes.take 6 == pchOnionCat || addr.bytes.take 6 == pchGarlicCat

private theorem getSockAddr_ordinary (s : CService size) (sa : SockAddr) (len : Nat)
    (room : sizeofSockaddrIn6 ≤ len) (accepted : (s.setSockAddr sa).1 = true)
    (ordinary : ∀ port flow addr scope, sa = .in6 port flow addr scope →
      inOverlayPrefix addr = false) :
    ((s.setSockAddr sa).2.getSockAddr len).map Prod.fst = some (canonical sa) := by
  have fits : ¬ len < sizeofSockaddrIn := by simp only [sizeofSockaddrIn, sizeofSockaddrIn6] at *; omega
  cases sa with
  | in4 port addr =>
    obtain ⟨bytes, length⟩ := addr
    have mapped : (ofInAddr ⟨bytes, length⟩ : CNetAddr size).isIPv4 = true := by
      simp [isIPv4, ofInAddr, pchIPv4]
    have dropped : (ofInAddr ⟨bytes, length⟩ : CNetAddr size).ip.drop 12 = bytes := by
      simp [ofInAddr, pchIPv4]
    simp [setSockAddr, getSockAddr, ofSockaddrIn, mapped, fits, getInAddr, canonical, htons_ntohs,
      dropped]
  | in6 port flow addr scope =>
    have outside := ordinary port flow addr scope rfl
    have fits6 : ¬ len < sizeofSockaddrIn6 := by omega
    simp only [inOverlayPrefix, Bool.or_eq_false_iff, beq_eq_false_iff_ne] at outside
    by_cases mapped : addr.bytes.take 12 = pchIPv4
    · simp [setSockAddr, getSockAddr, ofSockaddrIn6, ofIn6Addr, isIPv4, mapped, fits, getInAddr,
        canonical, htons_ntohs]
    · simpa [setSockAddr, getSockAddr, ofSockaddrIn6, isIPv6, isIPv4, isTor, isI2P, ofIn6Addr,
        mapped, outside, fits6, getIn6Addr, canonical, htons_ntohs]
        using (isNativeI2P_of_cleared rfl : (ofIn6Addr addr : CNetAddr size).isNativeI2P = false)
  | other family => simp [setSockAddr] at accepted

private theorem getSockAddr_overlay (s : CService size) (port : Byte × Byte) (flow : BitVec 32)
    (addr : In6Addr) (scope : BitVec 32) (len : Nat) (overlay : inOverlayPrefix addr = true) :
    (s.setSockAddr (.in6 port flow addr scope)).2.getSockAddr len = none := by
  have six : addr.bytes.take 6 = pchOnionCat ∨ addr.bytes.take 6 = pchGarlicCat := by
    simpa [inOverlayPrefix] using overlay
  have unmapped : addr.bytes.take 12 ≠ pchIPv4 := fun mapped => by
    have front : addr.bytes.take 6 = pchIPv4.take 6 := by rw [← mapped, List.take_take]; rfl
    rcases six with six | six <;> rw [six] at front <;> exact absurd front (by decide)
  rcases six with six | six <;>
    simp [setSockAddr, getSockAddr, ofSockaddrIn6, ofIn6Addr, isIPv4, isIPv6, isTor, isI2P, six,
      unmapped]

/-- Every socket address `SetSockAddr` accepts outside the two overlay prefixes comes
back from `GetSockAddr` into a buffer with room for a `sockaddr_in6`; every IPv6 address
inside either prefix is accepted and then has no socket address, for any buffer. -/
theorem getSockAddr_setSockAddr (s : CService size) :
    (∀ sa len, sizeofSockaddrIn6 ≤ len → (s.setSockAddr sa).1 = true →
      (∀ port flow addr scope, sa = .in6 port flow addr scope → inOverlayPrefix addr = false) →
      ((s.setSockAddr sa).2.getSockAddr len).map Prod.fst = some (canonical sa)) ∧
    ∀ port flow addr scope len, inOverlayPrefix addr = true →
      (s.setSockAddr (.in6 port flow addr scope)).1 = true ∧
        (s.setSockAddr (.in6 port flow addr scope)).2.getSockAddr len = none :=
  ⟨getSockAddr_ordinary s, fun port flow addr scope len overlay =>
    ⟨rfl, getSockAddr_overlay s port flow addr scope len overlay⟩⟩

theorem getSockAddr_setSockAddr_flow_dropped :
    ((CService.setSockAddr (⟨CNetAddr.init, 0⟩ : CService 8)
        (.in6 (0x20, 0x8D) 7 ⟨[0x24, 0x02, 0x12, 0x34, 0, 0, 0, 0, 0, 0, 0, 0, 0, 0, 0, 1], rfl⟩ 3)).2.getSockAddr
      28).map Prod.fst =
      some (.in6 (0x20, 0x8D) 0 ⟨[0x24, 0x02, 0x12, 0x34, 0, 0, 0, 0, 0, 0, 0, 0, 0, 0, 0, 1], rfl⟩ 0) :=
  (getSockAddr_setSockAddr _).1 _ 28 (by decide) rfl (by rintro _ _ _ _ ⟨⟩; rfl)

/-- An IPv6 peer in the OnionCat /48 is accepted and then has no socket address. -/
theorem getSockAddr_onionCat_address :
    (CService.setSockAddr (⟨CNetAddr.init, 0⟩ : CService 8)
        (.in6 (0, 80) 0 ⟨[0xFD, 0x87, 0xD8, 0x7E, 0xEB, 0x43, 0, 0, 0, 0, 0, 0, 0, 0, 0, 1], rfl⟩ 0)).1
      = true ∧
    (CService.setSockAddr (⟨CNetAddr.init, 0⟩ : CService 8)
        (.in6 (0, 80) 0 ⟨[0xFD, 0x87, 0xD8, 0x7E, 0xEB, 0x43, 0, 0, 0, 0, 0, 0, 0, 0, 0, 1], rfl⟩ 0)).2.getSockAddr
      sizeofSockaddrIn6 = none := by
  decide

end Netbase.Proofs.SockAddrRoundTrip
