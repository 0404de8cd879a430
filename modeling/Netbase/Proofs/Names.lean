import Netbase.Proofs.Setters
import Netbase.Proofs.HostPortFormat
import Netbase.Proofs.Lookup
import Netbase.Proofs.ConnectRuns

/-! `CService(ToStringIPPort())` gives the service back, for every IPv4, IPv6 and Tor
service. The text of an IPv4 service is its dotted quad and its port, of a Tor service its
base32 name and its port, and of an IPv6 service its groups in brackets and its port. The
host texts hold no NUL, and outside brackets no colon, so `SplitHostPort` cuts the port off
and `LookupIntern` reads the host without the resolver: a dotted quad or an IPv6 text
through `inet_pton`, an `.onion` name through `SetSpecial`. A port of 0 is not read back:
the default takes its place. What `getnameinfo`, `inet_pton` and the library's
`SetSpecial` promise is stated as hypotheses, and a library that keeps the promises is
given. For the same libraries, `LookupIntern` hands a name to `getaddrinfo` exactly when it
is no I2P name, no `.onion` name `SetSpecial` takes and no numeric literal; an `.onion`
name whose base32 part is not ten bytes, as a version 3 address, is among them. The last
section reads the network names of `-onlynet`: `ParseNetwork` takes exactly the names
`GetNetworkName` writes, and `onion` for Tor, in any mix of cases. -/

namespace Netbase.Proofs.Names
open CNetAddr HostPortFormat Lookup

variable {σ : Type} {size : Nat}

/-- The dotted-decimal text of an IPv4 address. -/
def dottedQuad (addr : InAddr) : List Byte :=
  [char '.'].intercalate (addr.bytes.map fun b => decimal b.toNat)

/-- The text of an IPv6 address as `ToStringIP` writes it where `getnameinfo` fails: eight
groups of hexadecimal digits, high byte first, none left out. -/
def hexGroups (addr : In6Addr) : List Byte :=
  [char ':'].intercalate ((List.range 8).map fun k =>
    hexadecimal ((addr.bytes.getD (2 * k) 0).toNat * 256 + (addr.bytes.getD (2 * k + 1) 0).toNat))

/-- A text `LookupIntern` reads as the IPv6 address `addr` without the resolver: no NUL, no
`.onion` suffix, no I2P name, no IPv4 literal, and `inet_pton(AF_INET6)` reads `addr`. -/
structure Ipv6Text (lib : Library size) (text : List Byte) (addr : In6Addr) : Prop where
  no_nul : ∀ c ∈ text, c ≠ 0
  no_o : char 'o' ∉ text
  not_i2p : lib.isStringI2pDestination text = false
  not_ipv4 : lib.inetPton4 text = none
  reads : lib.inetPton6 text = some addr

/-- What `ToStringIP` and `LookupIntern` expect of the library on numeric text.
`getnameinfo` with `NI_NUMERICHOST` writes an IPv4 address as its dotted quad and an IPv6
address as a text `inet_pton` reads back, and `inet_pton` reads the texts `ToStringIP`
writes where `getnameinfo` fails. -/
structure NumericText (lib : Library size) : Prop where
  getnameinfo_in4 : ∀ port addr text, lib.getnameinfo (.in4 port addr) = some text →
    text = dottedQuad addr
  dottedQuad_not_i2p : ∀ addr, lib.isStringI2pDestination (dottedQuad addr) = false
  inetPton4_dottedQuad : ∀ addr, lib.inetPton4 (dottedQuad addr) = some addr
  getnameinfo_in6 : ∀ port flowinfo addr scope text,
    lib.getnameinfo (.in6 port flowinfo addr scope) = some text → Ipv6Text lib text addr
  hexGroups_reads : ∀ addr, lib.isStringI2pDestination (hexGroups addr) = false ∧
    lib.inetPton4 (hexGroups addr) = none ∧ lib.inetPton6 (hexGroups addr) = some addr

/-- `LookupIntern` calls `SetSpecial` on a fresh address; the library's answer is the
method as modelled: the address set where it returns `true`, and none where it returns
`false`. -/
def SpecialCoherent (lib : Library size) (fNameLookup : Bool) : Prop :=
  ∀ strName r, CNetAddr.init.setSpecial lib fNameLookup strName = some r →
    lib.setSpecial strName = if r.1 then some r.2 else none

/-- A lower-case hexadecimal digit. -/
def isHexDigit (c : Byte) : Bool := isDigit c || (97 ≤ c.toNat && c.toNat ≤ 102)

/-- The value of lower-case hexadecimal digits, most significant first. -/
def hexValue (digits : List Byte) : Nat :=
  digits.foldl (fun v d => 16 * v + if d.toNat < 58 then d.toNat - 48 else d.toNat - 87) 0

section Texts

private theorem hexDigit_ne {d : Byte} (digit : isHexDigit d) :
    d ≠ 0 ∧ d ≠ char '.' ∧ d ≠ char ':' ∧ d ≠ char '[' ∧ d ≠ char 'o' := by
  simp only [isHexDigit, isDigit, Bool.or_eq_true, Bool.and_eq_true, decide_eq_true_eq] at digit
  refine ⟨?_, ?_, ?_, ?_, ?_⟩ <;> rintro rfl <;> simp [char] at digit

private theorem isHexDigit_of_isDigit {d : Byte} (digit : isDigit d) : isHexDigit d := by
  simp [isHexDigit, digit]

private theorem hexValue_snoc (digits : List Byte) (d : Byte) :
    hexValue (digits ++ [d]) =
      16 * hexValue digits + if d.toNat < 58 then d.toNat - 48 else d.toNat - 87 := by
  simp [hexValue, List.foldl_append]

private theorem hexadecimal_go (fuel : Nat) :
    ∀ n < fuel, hexadecimal.go n fuel ≠ [] ∧ (∀ d ∈ hexadecimal.go n fuel, isHexDigit d) ∧
      hexValue (hexadecimal.go n fuel) = n := by
  induction fuel with
  | zero => intro n below; omega
  | succ fuel ih =>
    intro n below
    have digit : (BitVec.ofNat 8 (if n % 16 < 10 then 48 + n % 16 else 87 + n % 16)).toNat =
        if n % 16 < 10 then 48 + n % 16 else 87 + n % 16 := by
      simp only [BitVec.toNat_ofNat]
      split_ifs <;> omega
    have last : isHexDigit (BitVec.ofNat 8 (if n % 16 < 10 then 48 + n % 16 else 87 + n % 16)) ∧
        (if (BitVec.ofNat 8 (if n % 16 < 10 then 48 + n % 16 else 87 + n % 16)).toNat < 58
          then (BitVec.ofNat 8 (if n % 16 < 10 then 48 + n % 16 else 87 + n % 16)).toNat - 48
          else (BitVec.ofNat 8 (if n % 16 < 10 then 48 + n % 16 else 87 + n % 16)).toNat - 87) =
          n % 16 := by
      simp only [isHexDigit, isDigit, digit, Bool.or_eq_true, Bool.and_eq_true, decide_eq_true_eq]
      split_ifs <;> omega
    by_cases small : n < 16
    · simp only [hexadecimal.go, small, if_true, List.nil_append]
      refine ⟨List.cons_ne_nil _ _, by simpa using last.1, ?_⟩
      rw [← List.nil_append [_], hexValue_snoc, last.2]
      simp [hexValue]
      omega
    · obtain ⟨-, digits, value⟩ := ih (n / 16) (by omega)
      simp only [hexadecimal.go, small, if_false]
      refine ⟨by simp, fun d mem => ?_, ?_⟩
      · rcases List.mem_append.1 mem with inside | last'
        · exact digits d inside
        · exact (List.mem_singleton.1 last') ▸ last.1
      · rw [hexValue_snoc, value, last.2]
        omega

theorem hexadecimal_digits (n : Nat) :
    hexadecimal n ≠ [] ∧ (∀ d ∈ hexadecimal n, isHexDigit d) ∧ hexValue (hexadecimal n) = n :=
  hexadecimal_go (n + 1) n (by omega)

theorem mem_intercalate {sep c : Byte} :
    ∀ {ls : List (List Byte)}, c ∈ [sep].intercalate ls → c = sep ∨ ∃ l ∈ ls, c ∈ l
  | [] => by simp [List.intercalate]
  | [l] => fun mem => .inr ⟨l, List.mem_singleton_self l, by simpa [List.intercalate] using mem⟩
  | l :: l' :: ls => fun mem => by
    have split : [sep].intercalate (l :: l' :: ls) = l ++ sep :: [sep].intercalate (l' :: ls) := by
      simp [List.intercalate]
    rw [split] at mem
    rcases List.mem_append.1 mem with inside | rest
    · exact .inr ⟨l, List.mem_cons_self _ _, inside⟩
    · rcases List.mem_cons.1 rest with rfl | rest
      · exact .inl rfl
      · rcases mem_intercalate rest with same | ⟨l'', mem'', inside⟩
        · exact .inl same
        · exact .inr ⟨l'', List.mem_cons_of_mem _ mem'', inside⟩

theorem dottedQuad_eq (b₀ b₁ b₂ b₃ : Byte) (four) :
    dottedQuad ⟨[b₀, b₁, b₂, b₃], four⟩ = decimal b₀.toNat ++ char '.' ::
      (decimal b₁.toNat ++ char '.' :: (decimal b₂.toNat ++ char '.' :: decimal b₃.toNat)) := by
  simp [dottedQuad, List.intercalate]

theorem dottedQuad_bytes (addr : InAddr) :
    dottedQuad addr ≠ [] ∧ ∀ c ∈ dottedQuad addr, isDigit c ∨ c = char '.' := by
  refine ⟨?_, fun c mem => ?_⟩
  · obtain ⟨bytes, four⟩ := addr
    match bytes, four with
    | [b₀, b₁, b₂, b₃], four =>
      rw [dottedQuad_eq]
      exact List.append_ne_nil_of_left_ne_nil (decimal_digits _).1 _
  · rcases mem_intercalate mem with dot | ⟨_, group, inside⟩
    · exact .inr dot
    · obtain ⟨b, -, rfl⟩ := List.mem_map.1 group
      exact .inl ((decimal_digits _).2.1 c inside)

theorem hexGroups_bytes (addr : In6Addr) :
    char ':' ∈ hexGroups addr ∧ ∀ c ∈ hexGroups addr, isHexDigit c ∨ c = char ':' := by
  refine ⟨?_, fun c mem => ?_⟩
  · rw [hexGroups, show List.range 8 = 0 :: 1 :: List.range' 2 6 from rfl, List.map_cons, List.map_cons,
      List.intercalate, List.intersperse_cons_cons, List.flatten_cons, List.flatten_cons]
    exact List.mem_append_right _ (List.mem_append_left _ (List.mem_singleton_self _))
  rcases mem_intercalate mem with colon | ⟨_, group, inside⟩
  · exact .inr colon
  · obtain ⟨k, -, rfl⟩ := List.mem_map.1 group
    exact .inl ((hexadecimal_digits _).2.1 c inside)

theorem isIPv4_excludes {a : CNetAddr size} (v4 : a.isIPv4) : a.isTor = false ∧ a.isI2P = false := by
  have head : a.ip.take 6 = pchIPv4.take 6 := by
    rw [← beq_iff_eq.1 v4, List.take_take]
    rfl
  exact ⟨by rw [isTor, head]; rfl, by rw [isI2P, head]; rfl⟩

private theorem fallback_ipv4 (a : CNetAddr size) :
    decimal (a.getByte 3).toNat ++ char '.' :: decimal (a.getByte 2).toNat ++
      char '.' :: decimal (a.getByte 1).toNat ++ char '.' :: decimal (a.getByte 0).toNat =
    dottedQuad ⟨a.ip.drop 12, by simp [a.ip_length]⟩ := by
  obtain ⟨b₀, b₁, b₂, b₃, b₄, b₅, b₆, b₇, b₈, b₉, b₁₀, b₁₁, b₁₂, b₁₃, b₁₄, b₁₅, shape⟩ := a.exists_ip
  simp [dottedQuad, getByte, shape, List.intercalate]

private theorem fallback_ipv6 (a : CNetAddr size) :
    List.intercalate [char ':'] ((List.range 8).map fun k =>
      hexadecimal ((a.getByte (15 - 2 * k)).toNat * 256 + (a.getByte (14 - 2 * k)).toNat)) =
    hexGroups ⟨a.ip, a.ip_length⟩ := by
  refine congrArg _ (List.map_congr_left fun k mem => ?_)
  have below := List.mem_range.1 mem
  simp only [getByte, show 15 - (15 - 2 * k) = 2 * k by omega, show 15 - (14 - 2 * k) = 2 * k + 1 by omega]

theorem onionName_bytes (payload : List Byte) :
    ∀ c ∈ encodeBase32 payload ++ ascii ".onion", c ≠ 0 ∧ c ≠ char ':' ∧ c ≠ char '[' := by
  have alphabet : (pbase32 ++ char '=' :: ascii ".onion").all
      (fun c => c != 0 && c != char ':' && c != char '[') := rfl
  intro c mem
  suffices written : c ∈ pbase32 ++ char '=' :: ascii ".onion" by
    simpa [and_assoc] using List.all_eq_true.1 alphabet c written
  rcases List.mem_append.1 mem with written | suffix
  · rcases encodeBase32.go_alphabet 0 0 payload (by decide) c written with letter | rfl
    · exact List.mem_append_left _ letter
    · exact List.mem_append_right _ (List.mem_cons_self _ _)
  · exact List.mem_append_right _ (List.mem_cons_of_mem _ suffix)

end Texts

section Library

variable {lib : Library size} (numeric : NumericText lib)
include numeric

theorem toStringIP_ipv4 {a : CNetAddr size} (v4 : a.isIPv4) :
    toStringIP lib a = dottedQuad ⟨a.ip.drop 12, by simp [a.ip_length]⟩ := by
  obtain ⟨notTor, notI2p⟩ := isIPv4_excludes v4
  have sock : (⟨a, 0⟩ : CService size).getSockAddr sizeofSockaddrStorage =
      some (.in4 (htons 0) ⟨a.ip.drop 12, by simp [a.ip_length]⟩, sizeofSockaddrIn) := by
    simp [CService.getSockAddr, getInAddr, v4, sizeofSockaddrStorage, sizeofSockaddrIn]
  simp only [toStringIP, notI2p, notTor, v4, Bool.false_eq_true, if_false, if_true, sock,
    fallback_ipv4]
  cases written : lib.getnameinfo (.in4 (htons 0) ⟨a.ip.drop 12, by simp [a.ip_length]⟩) with
  | none => rfl
  | some text => exact numeric.getnameinfo_in4 _ _ _ written

theorem toStringIP_ipv6 {a : CNetAddr size} (v6 : a.isIPv6) (notNative : a.isNativeI2P = false) :
    Ipv6Text lib (toStringIP lib a) ⟨a.ip, a.ip_length⟩ := by
  simp only [isIPv6, Bool.and_eq_true, Bool.not_eq_true'] at v6
  obtain ⟨⟨notV4, notTor⟩, notI2p⟩ := v6
  have sock : (⟨a, 0⟩ : CService size).getSockAddr sizeofSockaddrStorage =
      some (.in6 (htons 0) 0 ⟨a.ip, a.ip_length⟩ 0, sizeofSockaddrIn6) := by
    simp [CService.getSockAddr, getIn6Addr, isIPv6, notV4, notTor, notI2p, notNative,
      sizeofSockaddrStorage, sizeofSockaddrIn6]
  simp only [toStringIP, notI2p, notTor, notV4, Bool.false_eq_true, if_false, sock, fallback_ipv6]
  cases written : lib.getnameinfo (.in6 (htons 0) 0 ⟨a.ip, a.ip_length⟩ 0) with
  | some text => exact numeric.getnameinfo_in6 _ _ _ _ _ written
  | none =>
    obtain ⟨colon, bytes⟩ := hexGroups_bytes ⟨a.ip, a.ip_length⟩
    obtain ⟨notI2p, notV4, reads⟩ := numeric.hexGroups_reads ⟨a.ip, a.ip_length⟩
    have kinds : ∀ c ∈ hexGroups ⟨a.ip, a.ip_length⟩, c ≠ 0 ∧ c ≠ char 'o' := fun c mem => by
      rcases bytes c mem with digit | rfl
      · exact ⟨(hexDigit_ne digit).1, (hexDigit_ne digit).2.2.2.2⟩
      · decide
    exact ⟨fun c mem => (kinds c mem).1, fun mem => (kinds _ mem).2 rfl, notI2p, notV4, reads⟩

end Library

section Parse

variable (lib : Library size) (fNameLookup fAllowLookup : Bool) (w : World σ)

theorem setSpecial_other (x : CNetAddr size) {text : List Byte}
    (notI2p : lib.isStringI2pDestination text = false) (noO : char 'o' ∉ text) :
    x.setSpecial lib fNameLookup text = some (false, x) := by
  have notOnion : ¬(6 < text.length ∧ text.drop (text.length - 6) = ascii ".onion") :=
    fun ⟨_, suffix⟩ => noO (List.mem_of_mem_drop
      (suffix.symm ▸ (by decide : char 'o' ∈ ascii ".onion") : char 'o' ∈ text.drop (text.length - 6)))
  simp only [setSpecial, notI2p, Bool.false_eq_true, if_false, notOnion]

theorem ofName_host_port {front host : List Byte} (noNul : ∀ c ∈ front, c ≠ 0) (nonempty : front ≠ [])
    (separates : (front.head? = some (char '[') ∧ front.getLast? = some (char ']')) ∨ char ':' ∉ front)
    (strip : stripBrackets front = host) {p : Nat} (below : p < 0x10000) (portDefault : Int)
    {found : Bool × List (CNetAddr size)} {w' : World σ}
    (intern : (lookupIntern lib host 1 fAllowLookup : Net σ _).run w = (found, w')) :
    (CService.ofName lib (front ++ char ':' :: decimal p) portDefault fAllowLookup : Net σ _).run w =
      (if found.1 then
        (found.2.map fun ip => ⟨ip, BitVec.ofInt 16 (if 0 < p then (p : Int) else portDefault)⟩).headD
          CService.init
      else CService.init, w') := by
  have whole : cstr (front ++ char ':' :: decimal p) = front ++ char ':' :: decimal p := by
    refine List.takeWhile_eq_self_iff.2 fun c mem => decide_eq_true ?_
    rcases List.mem_append.1 mem with inside | port
    · exact noNul c inside
    · rcases List.mem_cons.1 port with rfl | digit
      · decide
      · exact (hexDigit_ne (by simp [isHexDigit, (decimal_digits p).2.1 c digit])).1
  have split : splitHostPort (front ++ char ':' :: decimal p) portDefault =
      (if 0 < p then (p : Int) else portDefault, host) := by
    rw [splitHostPort_append_port portDefault below (.inr separates), strip]
  obtain ⟨d, rest, rfl⟩ := List.exists_cons_of_ne_nil nonempty
  have nonzero : (d :: rest ++ char ':' :: decimal p).headD 0 ≠ 0 := noNul d (List.mem_cons_self _ _)
  rw [ofName_run lib fAllowLookup w nonzero portDefault (by rw [whole, split]; exact intern), whole,
    split]

variable {lib fNameLookup} (coherent : SpecialCoherent lib fNameLookup)
include coherent

theorem lookupIntern_dottedQuad (numeric : NumericText lib) (addr : InAddr) :
    (lookupIntern lib (dottedQuad addr) 1 fAllowLookup : Net σ _).run w =
      ((true, [CNetAddr.ofInAddr addr]), w) := by
  have noO : char 'o' ∉ dottedQuad addr := fun mem => by
    rcases (dottedQuad_bytes addr).2 _ mem with digit | dot
    · exact (hexDigit_ne (by simp [isHexDigit, digit])).2.2.2.2 rfl
    · exact absurd dot (by decide)
  exact lookupIntern_inetPton4 lib fAllowLookup w
    (coherent _ _ (setSpecial_other lib fNameLookup _ (numeric.dottedQuad_not_i2p addr) noO))
    (numeric.dottedQuad_not_i2p addr) (numeric.inetPton4_dottedQuad addr) 1

theorem lookupIntern_ipv6Text {text : List Byte} {addr : In6Addr} (v6 : Ipv6Text lib text addr) :
    (lookupIntern lib text 1 fAllowLookup : Net σ _).run w =
      ((true, [CNetAddr.ofIn6Addr addr]), w) :=
  lookupIntern_inetPton6 lib fAllowLookup w
    (coherent _ _ (setSpecial_other lib fNameLookup _ v6.not_i2p v6.no_o)) v6.not_i2p v6.not_ipv4
    v6.reads 1

theorem lookupIntern_onion
    (decodes : ∀ payload : List Byte, payload.length = 10 →
      lib.decodeBase32 (encodeBase32 payload) = payload)
    (notI2p : ∀ s, lib.isStringI2pDestination (s ++ ascii ".onion") = false)
    {payload : List Byte} (ten : payload.length = 10) :
    ∃ b : CNetAddr size,
      (lookupIntern lib (encodeBase32 payload ++ ascii ".onion") 1 fAllowLookup : Net σ _).run w =
        ((true, [b]), w) ∧ b.ip = pchOnionCat ++ payload ∧ b.i2pDest = List.replicate size 0 := by
  obtain ⟨b, set, ip, dest⟩ := Setters.setSpecial_onion fNameLookup decodes notI2p CNetAddr.init ten
  exact ⟨b, lookupIntern_special lib fAllowLookup w (coherent _ _ set) 1, ip, dest⟩

end Parse

section Service

variable (lib : Library size) (fAllowLookup : Bool) (w : World σ)

private theorem plain_front {host : List Byte}
    (bytes : ∀ c ∈ host, c ≠ 0 ∧ c ≠ char ':' ∧ c ≠ char '[') :
    ((host.head? = some (char '[') ∧ host.getLast? = some (char ']')) ∨ char ':' ∉ host) ∧
      stripBrackets host = host :=
  ⟨.inr fun mem => (bytes _ mem).2.1 rfl,
    stripBrackets_of_plain fun ⟨head, _⟩ => (bytes _ (List.mem_of_mem_head? head)).2.2 rfl⟩

theorem toStringIPPort_eq {s : CService size} (notI2p : s.isI2P = false) :
    s.toStringIPPort lib = (if s.isIPv4 || s.isTor then toStringIP lib s.toCNetAddr
      else char '[' :: toStringIP lib s.toCNetAddr ++ [char ']']) ++ char ':' :: decimal s.port.toNat := by
  unfold CService.toStringIPPort CService.toStringPort
  rw [notI2p, if_neg Bool.false_ne_true]
  split <;> simp

theorem port_read (port : BitVec 16) (portDefault : Int) :
    BitVec.ofInt 16 (if 0 < port.toNat then (port.toNat : Int) else portDefault) =
      if port = 0 then BitVec.ofInt 16 portDefault else port := by
  by_cases zero : port = 0
  · subst zero
    rfl
  · have positive : 0 < port.toNat := Nat.pos_of_ne_zero fun toNat => zero (BitVec.eq_of_toNat_eq toNat)
    rw [if_pos positive, if_neg zero]
    simp

/-- Once the host reads back as the address of `s`, the text reads back as `s`, with the
default port where its port is 0. -/
private theorem ofName_found {s : CService size} {front host : List Byte}
    (noNul : ∀ c ∈ front, c ≠ 0) (nonempty : front ≠ [])
    (separates : (front.head? = some (char '[') ∧ front.getLast? = some (char ']')) ∨ char ':' ∉ front)
    (strip : stripBrackets front = host) (portDefault : Int)
    (intern : (lookupIntern lib host 1 fAllowLookup : Net σ _).run w = ((true, [s.toCNetAddr]), w)) :
    (CService.ofName lib (front ++ char ':' :: decimal s.port.toNat) portDefault fAllowLookup :
      Net σ _).run w = ({ s with port := if s.port = 0 then BitVec.ofInt 16 portDefault else s.port }, w) := by
  rw [ofName_host_port lib fAllowLookup w noNul nonempty separates strip s.port.isLt portDefault intern]
  simp only [if_true, List.map_cons, List.map_nil, List.headD_cons, port_read]

/-- `CService(ToStringIPPort())` is the service, for every IPv4, IPv6 and Tor service with
a cleared destination buffer and a library that keeps its promises on numeric text, with
the default port where the port is 0. -/
theorem ofName_toStringIPPort {fNameLookup : Bool} (numeric : NumericText lib)
    (coherent : SpecialCoherent lib fNameLookup)
    (decodes : ∀ payload : List Byte, payload.length = 10 →
      lib.decodeBase32 (encodeBase32 payload) = payload)
    (notI2p : ∀ s, lib.isStringI2pDestination (s ++ ascii ".onion") = false)
    (s : CService size) (overlay : s.isI2P = false) (cleared : s.i2pDest = List.replicate size 0)
    (portDefault : Int) :
    (CService.ofName lib (s.toStringIPPort lib) portDefault fAllowLookup : Net σ _).run w =
      ({ s with port := if s.port = 0 then BitVec.ofInt 16 portDefault else s.port }, w) := by
  rw [toStringIPPort_eq lib overlay]
  by_cases v4 : s.isIPv4
  · -- The dotted quad of the last four bytes, read by `inet_pton`.
    have bytes := dottedQuad_bytes ⟨s.ip.drop 12, by simp [s.ip_length]⟩
    have kinds : ∀ c ∈ toStringIP lib s.toCNetAddr, c ≠ 0 ∧ c ≠ char ':' ∧ c ≠ char '[' := by
      rw [toStringIP_ipv4 numeric v4]
      intro c mem
      rcases bytes.2 c mem with digit | rfl
      · have ne := hexDigit_ne (show isHexDigit c by simp [isHexDigit, digit])
        exact ⟨ne.1, ne.2.2.1, ne.2.2.2.1⟩
      · decide
    have same : CNetAddr.ofInAddr ⟨s.ip.drop 12, by simp [s.ip_length]⟩ = s.toCNetAddr := by
      have prefixed : s.ip.take 12 = pchIPv4 := by simpa [isIPv4] using v4
      refine CNetAddr.ext _ ?_ cleared.symm
      simp only [CNetAddr.ofInAddr, ← prefixed, List.take_append_drop]
    rw [if_pos (by simp [v4])]
    refine ofName_found lib fAllowLookup w (fun c mem => (kinds c mem).1)
      (toStringIP_ipv4 numeric v4 ▸ bytes.1) (plain_front kinds).1 (plain_front kinds).2 portDefault ?_
    rw [toStringIP_ipv4 numeric v4, lookupIntern_dottedQuad fAllowLookup w coherent numeric, same]
  by_cases tor : s.isTor
  · -- The base32 name of the ten bytes behind OnionCat, set by `SetSpecial`.
    have rest : (s.ip.drop 6).length = 10 := by simp [s.ip_length]
    obtain ⟨b, intern, ip, dest⟩ := lookupIntern_onion fAllowLookup w coherent decodes notI2p
      ((List.take_of_length_le rest.le).symm ▸ rest)
    have same : b = s.toCNetAddr := by
      have prefixed : s.ip.take 6 = pchOnionCat := by simpa [isTor] using tor
      refine CNetAddr.ext _ ?_ (dest.trans cleared.symm)
      rw [ip, List.take_of_length_le rest.le, ← prefixed, List.take_append_drop]
    have kinds := onionName_bytes ((s.ip.drop 6).take 10)
    rw [same] at intern
    rw [if_pos (by simp [tor]), Setters.toStringIP_tor tor]
    exact ofName_found lib fAllowLookup w (fun c mem => (kinds c mem).1)
      (List.append_ne_nil_of_left_ne_nil (encodeBase32_ne_nil (by simp [s.ip_length])) _)
      (plain_front kinds).1 (plain_front kinds).2 portDefault intern
  · -- The groups in brackets, read by `inet_pton`.
    have v6 : s.isIPv6 := by simp [isIPv6, v4, tor, overlay]
    have text := toStringIP_ipv6 numeric v6 (isNativeI2P_of_cleared cleared)
    have same : CNetAddr.ofIn6Addr ⟨s.ip, s.ip_length⟩ = s.toCNetAddr :=
      CNetAddr.ext _ rfl cleared.symm
    have intern := lookupIntern_ipv6Text fAllowLookup w coherent text
    rw [same] at intern
    have noNul : ∀ c ∈ char '[' :: toStringIP lib s.toCNetAddr ++ [char ']'], c ≠ 0 := by
      intro c mem
      simp only [List.mem_append, List.mem_cons, List.not_mem_nil, or_false] at mem
      rcases mem with (rfl | inside) | rfl
      · decide
      · exact text.no_nul c inside
      · decide
    have last : (char '[' :: toStringIP lib s.toCNetAddr ++ [char ']']).getLast? = some (char ']') := by
      rw [List.getLast?_concat]
    rw [if_neg (by simp [v4, tor])]
    exact ofName_found lib fAllowLookup w noNul (List.cons_ne_nil _ _) (.inl ⟨rfl, last⟩)
      (stripBrackets_bracketed _) portDefault intern

end Service

section Witness

/-- `inet_pton(AF_INET)` on dotted decimal: digits and dots only, in four groups. -/
def parseDottedQuad (text : List Byte) : Option InAddr :=
  if text.all fun c => isDigit c || c == char '.' then
    match (text.splitOn (char '.')).map digitsValue with
    | [b₀, b₁, b₂, b₃] => some ⟨[b₀, b₁, b₂, b₃].map (BitVec.ofNat 8), rfl⟩
    | _ => none
  else none

/-- `inet_pton(AF_INET6)` on eight groups of hexadecimal digits, none left out. -/
def parseHexGroups (text : List Byte) : Option In6Addr :=
  match (text.splitOn (char ':')).map hexValue with
  | [g₀, g₁, g₂, g₃, g₄, g₅, g₆, g₇] =>
    some ⟨[g₀, g₁, g₂, g₃, g₄, g₅, g₆, g₇].flatMap fun g =>
      [BitVec.ofNat 8 (g / 256), BitVec.ofNat 8 g], rfl⟩
  | _ => none

/-- A library that reads numeric text: the `.onion` library, with `SetSpecial` as modelled
and the two parsers for `inet_pton`. -/
def textLibrary (size : Nat) : Library size :=
  { Setters.onionLibrary size with
    setSpecial := fun strName =>
      match CNetAddr.init.setSpecial (Setters.onionLibrary size) false strName with
      | some (true, a) => some a
      | _ => none
    inetPton4 := parseDottedQuad
    inetPton6 := parseHexGroups }

theorem parseDottedQuad_dottedQuad (addr : InAddr) : parseDottedQuad (dottedQuad addr) = some addr := by
  have plain : (dottedQuad addr).all (fun c => isDigit c || c == char '.') :=
    List.all_eq_true.2 fun c mem => by
      rcases (dottedQuad_bytes addr).2 c mem with digit | dot
      · simp [digit]
      · simp [dot]
  have noDot : ∀ l ∈ addr.bytes.map fun b => decimal b.toNat, char '.' ∉ l := fun _ group dot => by
    obtain ⟨b, -, rfl⟩ := List.mem_map.1 group
    exact (hexDigit_ne (isHexDigit_of_isDigit ((decimal_digits _).2.1 _ dot))).2.1 rfl
  have groups : (dottedQuad addr).splitOn (char '.') = addr.bytes.map fun b => decimal b.toNat :=
    List.splitOn_intercalate _ _ noDot (List.ne_nil_of_length_pos (by simp [addr.length]))
  obtain ⟨bytes, four⟩ := addr
  match bytes, four with
  | [b₀, b₁, b₂, b₃], four =>
    simp only [parseDottedQuad, plain, if_true, groups, List.map_cons, List.map_nil,
      (decimal_digits _).2.2]
    simp

theorem parseDottedQuad_hexGroups (addr : In6Addr) : parseDottedQuad (hexGroups addr) = none := by
  have mixed : (hexGroups addr).all (fun c => isDigit c || c == char '.') = false :=
    List.all_eq_false.2 ⟨char ':', (hexGroups_bytes addr).1, by decide⟩
  simp [parseDottedQuad, mixed]

private theorem byte_halves (x y : Byte) :
    BitVec.ofNat 8 ((x.toNat * 256 + y.toNat) / 256) = x ∧ BitVec.ofNat 8 (x.toNat * 256 + y.toNat) = y := by
  have := x.isLt
  have := y.isLt
  constructor <;> apply BitVec.eq_of_toNat_eq <;> simp <;> omega

private theorem hexGroups_splitOn (group : Nat → Nat) :
    ([char ':'].intercalate ((List.range 8).map fun k => hexadecimal (group k))).splitOn (char ':') =
      (List.range 8).map fun k => hexadecimal (group k) :=
  List.splitOn_intercalate _ _ (fun _ mem colon => by
    obtain ⟨k, -, rfl⟩ := List.mem_map.1 mem
    exact (hexDigit_ne ((hexadecimal_digits _).2.1 _ colon)).2.2.1 rfl) (by simp)

theorem parseHexGroups_hexGroups (addr : In6Addr) : parseHexGroups (hexGroups addr) = some addr := by
  obtain ⟨b₀, b₁, b₂, b₃, b₄, b₅, b₆, b₇, b₈, b₉, b₁₀, b₁₁, b₁₂, b₁₃, b₁₄, b₁₅, shape⟩ :=
    (@CNetAddr.ofIn6Addr 0 addr).exists_ip
  obtain ⟨bytes, sixteen⟩ := addr
  change bytes = _ at shape
  subst shape
  rw [parseHexGroups, hexGroups, hexGroups_splitOn, show List.range 8 = [0, 1, 2, 3, 4, 5, 6, 7] from rfl]
  simp only [List.map_cons, List.map_nil, Nat.reduceMul, Nat.reduceAdd, List.getD_cons_zero,
    List.getD_cons_succ, (hexadecimal_digits _).2.2, List.flatMap_cons, List.flatMap_nil, byte_halves,
    List.cons_append, List.nil_append]

theorem textLibrary_numeric (size : Nat) : NumericText (textLibrary size) where
  getnameinfo_in4 _ _ _ written := Option.noConfusion written
  dottedQuad_not_i2p _ := rfl
  inetPton4_dottedQuad := parseDottedQuad_dottedQuad
  getnameinfo_in6 _ _ _ _ _ written := Option.noConfusion written
  hexGroups_reads addr := by
    dsimp only [textLibrary]
    exact ⟨rfl, parseDottedQuad_hexGroups addr, parseHexGroups_hexGroups addr⟩

theorem textLibrary_coherent (size : Nat) (fNameLookup : Bool) :
    SpecialCoherent (textLibrary size) fNameLookup := by
  intro strName r set
  have same : CNetAddr.init.setSpecial (textLibrary size) fNameLookup strName =
      CNetAddr.init.setSpecial (Setters.onionLibrary size) false strName := rfl
  show (match CNetAddr.init.setSpecial (Setters.onionLibrary size) false strName with
    | some (true, a) => some a
    | _ => none) = _
  rw [← same, set]
  rcases r with ⟨_ | _, a⟩ <;> rfl

/-- The round trip at the IPv6 service `[2001:db8::1]:8333`, with the library above. -/
theorem ofName_toStringIPPort_ipv6 :
    NumericText (textLibrary 516) ∧ SpecialCoherent (textLibrary 516) false ∧
      (∀ payload : List Byte, payload.length = 10 →
        (textLibrary 516).decodeBase32 (encodeBase32 payload) = payload) ∧
      (∀ s, (textLibrary 516).isStringI2pDestination (s ++ ascii ".onion") = false) ∧
      (⟨CNetAddr.ofIn6Addr ⟨[0x20, 0x01, 0x0d, 0xb8, 0, 0, 0, 0, 0, 0, 0, 0, 0, 0, 0, 1], rfl⟩, 8333⟩ :
        CService 516).isI2P = false ∧
      (⟨CNetAddr.ofIn6Addr ⟨[0x20, 0x01, 0x0d, 0xb8, 0, 0, 0, 0, 0, 0, 0, 0, 0, 0, 0, 1], rfl⟩, 8333⟩ :
        CService 516).i2pDest = List.replicate 516 0 ∧
      (CService.ofName (textLibrary 516)
        ((⟨CNetAddr.ofIn6Addr ⟨[0x20, 0x01, 0x0d, 0xb8, 0, 0, 0, 0, 0, 0, 0, 0, 0, 0, 0, 1], rfl⟩, 8333⟩ :
          CService 516).toStringIPPort (textLibrary 516)) 80 true : Net (List Byte) _).run
          ⟨ConnectRuns.grantingOs 3, [], []⟩ =
        (⟨CNetAddr.ofIn6Addr ⟨[0x20, 0x01, 0x0d, 0xb8, 0, 0, 0, 0, 0, 0, 0, 0, 0, 0, 0, 1], rfl⟩,
          if (8333 : BitVec 16) = 0 then BitVec.ofInt 16 80 else 8333⟩, ⟨ConnectRuns.grantingOs 3, [], []⟩) :=
  ⟨textLibrary_numeric 516, textLibrary_coherent 516 false, Setters.onionLibrary_decodes 516,
    fun _ => rfl, by decide, rfl,
    ofName_toStringIPPort (textLibrary 516) true ⟨ConnectRuns.grantingOs 3, [], []⟩
      (textLibrary_numeric 516) (textLibrary_coherent 516 false) (Setters.onionLibrary_decodes 516)
      (fun _ => rfl) _ (by decide) rfl 80⟩

end Witness

section Resolver

/-- A name the `.onion` branch of `SetSpecial` takes: longer than six bytes, ending in
`.onion`, with a base32 part that decodes to the ten bytes behind OnionCat. -/
def onionName (lib : Library size) (strName : List Byte) : Bool :=
  6 < strName.length && strName.drop (strName.length - 6) == ascii ".onion" &&
    (lib.decodeBase32 (cstr (strName.take (strName.length - 6)))).length == 10

variable {lib : Library size} (fNameLookup : Bool)

theorem setSpecial_plain (x : CNetAddr size) {strName : List Byte}
    (plain : lib.isStringI2pDestination strName = false) :
    ∃ b, x.setSpecial lib fNameLookup strName = some (onionName lib strName, b) := by
  have ten : 16 - pchOnionCat.length = 10 := rfl
  unfold setSpecial
  simp only [plain, Bool.false_eq_true, if_false, ten]
  split_ifs with suffix decoded
  · rw [show onionName lib strName = true by simp [onionName, suffix.1, suffix.2, decoded]]
    exact ⟨_, rfl⟩
  · rw [show onionName lib strName = false by simp [onionName, suffix.1, suffix.2, decoded]]
    exact ⟨x, rfl⟩
  · rw [show onionName lib strName = false by
      simp only [onionName, Bool.and_eq_false_iff, decide_eq_false_iff_not, beq_eq_false_iff_ne]
      by_cases long : 6 < strName.length
      · exact .inl (.inr fun same => suffix ⟨long, same⟩)
      · exact .inl (.inl long)]
    exact ⟨x, rfl⟩

/-- Which names `LookupIntern` hands to `getaddrinfo`, from any world, for a library whose
`SetSpecial` is the method as modelled: exactly those that are no I2P name, no `.onion`
name `SetSpecial` takes and no numeric literal, with `AI_NUMERICHOST` exactly when lookups
are not allowed. An `.onion` name whose base32 part does not decode to ten bytes is one of
them: with lookups allowed, it goes to the DNS. -/
theorem lookupIntern_resolver {fNameLookup : Bool} (coherent : SpecialCoherent lib fNameLookup)
    (pszName : List Byte) (nMaxSolutions : Nat) (fAllowLookup : Bool) (w : World σ) :
    ((lookupIntern lib pszName nMaxSolutions fAllowLookup : Net σ _).run w).2.log =
      w.log ++ if lib.isStringI2pDestination pszName = false ∧ onionName lib pszName = false ∧
          lib.inetPton4 pszName = none ∧ lib.inetPton6 pszName = none
        then [.getaddrinfo pszName !fAllowLookup] else [] := by
  cases plain : lib.isStringI2pDestination pszName
  · obtain ⟨b, set⟩ := setSpecial_plain fNameLookup CNetAddr.init plain
    have special := coherent _ _ set
    cases onion : onionName lib pszName
    · -- Not set by `SetSpecial`: a numeric literal, or the resolver.
      rw [onion, if_neg Bool.false_ne_true] at special
      cases v4 : lib.inetPton4 pszName with
      | some addr => simp [lookupIntern_inetPton4 lib fAllowLookup w special plain v4]
      | none =>
        cases v6 : lib.inetPton6 pszName with
        | some addr => simp [lookupIntern_inetPton6 lib fAllowLookup w special plain v4 v6]
        | none =>
          simp only [lookupIntern, special, plain, v4, v6, Bool.false_eq_true, if_false, getaddrinfo,
            call_then, and_self, if_true]
          cases (w.sys.getaddrinfo w.os pszName !fAllowLookup).1 <;> rfl
    · -- An `.onion` name `SetSpecial` takes.
      rw [onion, if_pos rfl] at special
      simp [lookupIntern_special lib fAllowLookup w special]
  · -- An I2P name: set by `SetSpecial`, or refused.
    unfold lookupIntern
    cases lib.setSpecial pszName <;> simp [plain]

/-- A name of the length of a version 3 onion address, 56 base32 characters, decodes to 35
bytes, not 10: `LookupIntern` sends it to the DNS. -/
theorem lookupIntern_resolver_onion_v3 :
    SpecialCoherent (textLibrary 516) false ∧
      ((lookupIntern (textLibrary 516) (List.replicate 56 (char 'a') ++ ascii ".onion") 1 true :
        Net (List Byte) _).run ⟨ConnectRuns.grantingOs 3, [], []⟩).2.log =
        [.getaddrinfo (List.replicate 56 (char 'a') ++ ascii ".onion") false] :=
  ⟨textLibrary_coherent 516 false,
    (lookupIntern_resolver (textLibrary_coherent 516 false) _ 1 true _).trans (by decide)⟩

end Resolver

section NetworkNames

/-- `text` spells the lower-case `name` in any mix of cases: byte for byte the name's
own byte or, below a lower-case letter, its upper-case form, 32 below it. -/
def SpellsName (text name : List Byte) : Prop :=
  List.Forall₂ (fun c d => c = d ∨ 97 ≤ d.toNat ∧ d.toNat ≤ 122 ∧ c.toNat + 32 = d.toNat) text name

instance (text name : List Byte) : Decidable (SpellsName text name) :=
  inferInstanceAs (Decidable (List.Forall₂ _ text name))

theorem toLower_eq_iff {c d : Byte} (lower : toLower d = d) :
    toLower c = d ↔ c = d ∨ 97 ≤ d.toNat ∧ d.toNat ≤ 122 ∧ c.toNat + 32 = d.toNat := by
  have h32 : (32 : Byte).toNat = 32 := rfl
  have notUpper : ¬(65 ≤ d.toNat ∧ d.toNat ≤ 90) := fun upper => by
    rw [toLower, if_pos upper, BitVec.toNat_eq, BitVec.toNat_add, h32] at lower
    omega
  unfold toLower
  split_ifs with upper
  · rw [BitVec.toNat_eq, BitVec.toNat_eq, BitVec.toNat_add, h32, Nat.mod_eq_of_lt (by omega)]
    omega
  · rw [BitVec.toNat_eq]
    omega

theorem map_toLower_eq_iff {text name : List Byte} (lower : name.map toLower = name) :
    text.map toLower = name ↔ SpellsName text name := by
  induction name generalizing text with
  | nil => cases text <;> simp [SpellsName]
  | cons d ds ih =>
    obtain ⟨first, rest⟩ := List.cons.inj lower
    cases text with
    | nil => simp [SpellsName]
    | cons c cs =>
      simp only [List.map_cons, List.cons.injEq, SpellsName, List.forall₂_cons,
        toLower_eq_iff first, ih rest]

theorem parseNetwork_cases (net : List Byte) :
    net.map toLower = ascii "ipv4" ∧ parseNetwork net = .ipv4 ∨
    net.map toLower = ascii "ipv6" ∧ parseNetwork net = .ipv6 ∨
    (net.map toLower = ascii "tor" ∨ net.map toLower = ascii "onion") ∧ parseNetwork net = .tor ∨
    net.map toLower = ascii "i2p" ∧ parseNetwork net = .nativeI2P ∨
    net.map toLower ∉ [ascii "ipv4", ascii "ipv6", ascii "tor", ascii "onion", ascii "i2p"] ∧
      parseNetwork net = .unroutable := by
  dsimp only [parseNetwork]
  split_ifs with ipv4 ipv6 tor i2p
  · exact .inl ⟨ipv4, rfl⟩
  · exact .inr (.inl ⟨ipv6, rfl⟩)
  · exact .inr (.inr (.inl ⟨tor, rfl⟩))
  · exact .inr (.inr (.inr (.inl ⟨i2p, rfl⟩)))
  · refine .inr (.inr (.inr (.inr ⟨?_, rfl⟩)))
    simp only [List.mem_cons, List.not_mem_nil, or_false]
    rintro (named | named | named | named | named)
    exacts [ipv4 named, ipv6 named, tor (.inl named), tor (.inr named), i2p named]

theorem parseNetwork_eq_iff {n : Network} (routable : n ≠ .unroutable) (net : List Byte) :
    parseNetwork net = n ↔
      net.map toLower = getNetworkName n ∨ n = .tor ∧ net.map toLower = ascii "onion" := by
  rcases parseNetwork_cases net with ⟨lower, parsed⟩ | ⟨lower, parsed⟩ | ⟨lower | lower, parsed⟩ |
    ⟨lower, parsed⟩ | ⟨other, parsed⟩ <;> rw [parsed]
  case inr.inr.inr.inr =>
    -- No network's name: the text is read as unroutable.
    refine iff_of_false (fun e => routable e.symm) ?_
    rintro (named | ⟨-, onion⟩)
    · exact other (by rw [named]; cases n <;> first | exact absurd rfl routable | decide)
    · exact other (by rw [onion]; decide)
  all_goals rw [lower]; cases n <;> decide

theorem parseNetwork_getNetworkName (n : Network) : parseNetwork (getNetworkName n) = n := by
  cases n <;> decide

theorem getNetworkName_lower (n : Network) : (getNetworkName n).map toLower = getNetworkName n := by
  cases n <;> rfl

/-- `ParseNetwork` reads back every name `GetNetworkName` writes, `???` as unroutable, and
selects a network exactly for a spelling of its name, or of `onion` for Tor, in any mix of
cases. -/
theorem parseNetwork_spellings :
    (∀ n, parseNetwork (getNetworkName n) = n) ∧
      ∀ n net, n ≠ .unroutable →
        (parseNetwork net = n ↔
          SpellsName net (getNetworkName n) ∨ n = .tor ∧ SpellsName net (ascii "onion")) :=
  ⟨parseNetwork_getNetworkName, fun n net routable => by
    rw [parseNetwork_eq_iff routable, map_toLower_eq_iff (getNetworkName_lower n),
      @map_toLower_eq_iff net (ascii "onion") rfl]⟩

theorem parseNetwork_spellings_mixed_case :
    Network.tor ≠ .unroutable ∧ parseNetwork (ascii "OnIon") = .tor :=
  ⟨by decide, (parseNetwork_spellings.2 .tor _ (by decide)).2 (.inr ⟨rfl, by decide⟩)⟩

end NetworkNames

end Netbase.Proofs.Names
