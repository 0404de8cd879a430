import Netbase.Address

/-! The anti-Sybil law of `GetGroup`. Two routable addresses share a group exactly
when they are one I2P destination, carry IPv4 addresses in one /16, are Tor
addresses with the same leading four payload bits, or are IPv6 addresses in one
/36 of the Hurricane Electric block or one /32 elsewhere. No two of these classes
produce the same key. -/

namespace Netbase.Proofs.Groups
open CNetAddr

variable {size : Nat} (a : CNetAddr size)

/-- The address carries an IPv4 address: mapped, SIIT (RFC 6145), the NAT64 prefix
(RFC 6052), 6to4 (RFC 3964) or Teredo (RFC 4380). -/
def carriesIPv4 : Bool :=
  a.isIPv4 || a.isRFC6145 || a.isRFC6052 || a.isRFC3964 || a.isRFC4380

/-- The carried IPv4 address: bytes 12 to 15, bytes 2 to 5 behind 6to4, and bytes
12 to 15 inverted behind Teredo. -/
def embeddedIPv4 : List Byte :=
  if a.isIPv4 || a.isRFC6145 || a.isRFC6052 then a.ip.drop 12
  else if a.isRFC3964 then (a.ip.drop 2).take 4
  else (a.ip.drop 12).map (· ^^^ 0xFF)

/-- 2001:470::/32, the block `GetGroup` splits into /36 groups. -/
def isHeNet : Bool :=
  a.getByte 15 == 0x20 && a.getByte 14 == 0x01 && a.getByte 13 == 0x04 && a.getByte 12 == 0x70

def isOtherIPv6 : Bool := !a.isI2P && !carriesIPv4 a && !a.isTor && !isHeNet a

inductive Bucket
  | i2p
  | ipv4
  | tor
  | heNet
  | ipv6
  deriving DecidableEq

def bucket : Bucket :=
  if a.isI2P then .i2p
  else if carriesIPv4 a then .ipv4
  else if a.isTor then .tor
  else if isHeNet a then .heNet
  else .ipv6

def Bucket.tag : Bucket → Byte
  | .i2p => 4
  | .ipv4 => 1
  | .tor => 3
  | .heNet => 2
  | .ipv6 => 2

/-- What follows the class byte in the group of a routable address. -/
def payload : List Byte :=
  match bucket a with
  | .i2p => a.i2pDest
  | .ipv4 => (embeddedIPv4 a).take 2
  | .tor => [a.ip.getD 6 0 ||| 15]
  | .heNet => a.ip.take 4 ++ [a.ip.getD 4 0 ||| 15]
  | .ipv6 => a.ip.take 4

variable {a}

private theorem not_local {d : List Byte} (routable : a.isRoutable d) : a.isLocal d = false := by
  simp only [isRoutable, Bool.and_eq_true, Bool.not_eq_true', Bool.or_eq_false_iff] at routable
  exact routable.2.2

section Bits

variable (a)

private theorem bits_ipv4 : a.getGroupBits 12 16 = (a.ip.drop 12).take 2 := by
  obtain ⟨b₀, b₁, b₂, b₃, b₄, b₅, b₆, b₇, b₈, b₉, b₁₀, b₁₁, b₁₂, b₁₃, b₁₄, b₁₅, shape⟩ := a.exists_ip
  show [a.getByte 3, a.getByte 2] = _
  simp only [getByte, shape]
  rfl

private theorem bits_6to4 : a.getGroupBits 2 16 = ((a.ip.drop 2).take 4).take 2 := by
  obtain ⟨b₀, b₁, b₂, b₃, b₄, b₅, b₆, b₇, b₈, b₉, b₁₀, b₁₁, b₁₂, b₁₃, b₁₄, b₁₅, shape⟩ := a.exists_ip
  show [a.getByte 13, a.getByte 12] = _
  simp only [getByte, shape]
  rfl

private theorem bits_teredo :
    [a.getByte 3 ^^^ 0xFF, a.getByte 2 ^^^ 0xFF] = ((a.ip.drop 12).map (· ^^^ 0xFF)).take 2 := by
  obtain ⟨b₀, b₁, b₂, b₃, b₄, b₅, b₆, b₇, b₈, b₉, b₁₀, b₁₁, b₁₂, b₁₃, b₁₄, b₁₅, shape⟩ := a.exists_ip
  simp only [getByte, shape]
  rfl

private theorem bits_tor : a.getGroupBits 6 4 = [a.ip.getD 6 0 ||| 15] := rfl

private theorem bits_heNet : a.getGroupBits 0 36 = a.ip.take 4 ++ [a.ip.getD 4 0 ||| 15] := by
  obtain ⟨b₀, b₁, b₂, b₃, b₄, b₅, b₆, b₇, b₈, b₉, b₁₀, b₁₁, b₁₂, b₁₃, b₁₄, b₁₅, shape⟩ := a.exists_ip
  show [a.getByte 15, a.getByte 14, a.getByte 13, a.getByte 12, a.getByte 11 ||| 15] = _
  simp only [getByte, shape]
  rfl

private theorem bits_ipv6 : a.getGroupBits 0 32 = a.ip.take 4 := by
  obtain ⟨b₀, b₁, b₂, b₃, b₄, b₅, b₆, b₇, b₈, b₉, b₁₀, b₁₁, b₁₂, b₁₃, b₁₄, b₁₅, shape⟩ := a.exists_ip
  show [a.getByte 15, a.getByte 14, a.getByte 13, a.getByte 12] = _
  simp only [getByte, shape]
  rfl

end Bits

variable (a) in
private theorem bucket_cases :
    (bucket a = .i2p ∧ a.isI2P) ∨
    (bucket a = .ipv4 ∧ a.isI2P = false ∧ carriesIPv4 a) ∨
    (bucket a = .tor ∧ a.isI2P = false ∧ carriesIPv4 a = false ∧ a.isTor) ∨
    (bucket a = .heNet ∧ a.isI2P = false ∧ carriesIPv4 a = false ∧ a.isTor = false ∧ isHeNet a) ∨
    (bucket a = .ipv6 ∧ a.isI2P = false ∧ carriesIPv4 a = false ∧ a.isTor = false ∧
      isHeNet a = false) := by
  unfold bucket
  split_ifs <;> simp_all

/-- The group of a routable address: its bucket's tag, then what the bucket keeps. -/
theorem getGroup_routable {d : List Byte} (routable : a.isRoutable d) :
    a.getGroup d = (bucket a).tag :: payload a := by
  rcases bucket_cases a with ⟨hb, i2p⟩ | ⟨hb, i2p, carrier⟩ | ⟨hb, i2p, carrier, tor⟩ |
    ⟨hb, i2p, carrier, tor, heNet⟩ | ⟨hb, i2p, carrier, tor, heNet⟩ <;>
    simp only [getGroup, payload, hb, i2p, not_local routable, routable, Bucket.tag,
      Bool.false_eq_true, if_false, if_true, Bool.not_true, Bool.not_false]
  · simp [Network.toByte]
  · simp only [embeddedIPv4]
    by_cases mapped : (a.isIPv4 || a.isRFC6145 || a.isRFC6052) = true
    · rw [if_pos mapped, if_pos mapped, bits_ipv4]
      rfl
    rw [if_neg mapped, if_neg mapped]
    by_cases sixToFour : a.isRFC3964
    · rw [if_pos sixToFour, if_pos sixToFour, bits_6to4]
      rfl
    have teredo : a.isRFC4380 := by simpa [carriesIPv4, mapped, sixToFour] using carrier
    rw [if_neg sixToFour, if_neg sixToFour, if_pos teredo, bits_teredo]
    rfl
  all_goals simp only [carriesIPv4, Bool.or_eq_false_iff] at carrier
  · simp [carrier, tor, bits_tor, Network.toByte]
  all_goals
    simp only [isHeNet] at heNet
    simp only [carrier, tor, heNet, Bool.or_self, Bool.false_eq_true, ↓reduceIte]
  · simp [bits_heNet, Network.toByte]
  · simp [bits_ipv6, Network.toByte]

section Prefixes

variable (a)

private theorem getByte_of_take {p : List Byte} {n k : Nat} (starts : a.ip.take n = p)
    (inside : 15 - k < n) : a.getByte k = p.getD (15 - k) 0 := by
  rw [getByte, ← starts, List.getD_eq_getElem?_getD, List.getD_eq_getElem?_getD,
    List.getElem?_take_of_lt inside]

private theorem i2p_bytes (i2p : a.isI2P) : a.getByte 15 = 0xFD ∧ a.getByte 14 = 0x60 := by
  have starts : a.ip.take 6 = pchGarlicCat := by simpa [isI2P] using i2p
  exact ⟨getByte_of_take a starts (by decide), getByte_of_take a starts (by decide)⟩

private theorem tor_bytes (tor : a.isTor) : a.getByte 15 = 0xFD ∧ a.getByte 14 = 0x87 := by
  have starts : a.ip.take 6 = pchOnionCat := by simpa [isTor] using tor
  exact ⟨getByte_of_take a starts (by decide), getByte_of_take a starts (by decide)⟩

private theorem mapped_byte (mapped : a.isIPv4 || a.isRFC6145 || a.isRFC6052) : a.getByte 15 = 0 := by
  simp only [isIPv4, isRFC6145, isRFC6052, Bool.or_eq_true, beq_iff_eq] at mapped
  rcases mapped with (starts | starts) | starts <;> exact getByte_of_take a starts (by decide)

private theorem carrier_byte (carrier : carriesIPv4 a) :
    a.getByte 15 = 0 ∨ (a.getByte 15 = 0x20 ∧ (a.getByte 14 = 0x02 ∨ a.getByte 13 = 0)) := by
  by_cases mapped : a.isIPv4 || a.isRFC6145 || a.isRFC6052
  · exact .inl (mapped_byte a mapped)
  · simp only [carriesIPv4, mapped, Bool.false_or, Bool.or_eq_true, isRFC3964, isRFC4380,
      Bool.and_eq_true, beq_iff_eq] at carrier
    rcases carrier with ⟨high, low⟩ | ⟨⟨⟨high, -⟩, low⟩, -⟩
    · exact .inr ⟨high, .inl low⟩
    · exact .inr ⟨high, .inr low⟩

end Prefixes

private theorem i2p_not_carrier (i2p : a.isI2P) : carriesIPv4 a = false := by
  rw [Bool.eq_false_iff]
  intro carrier
  have := i2p_bytes a i2p
  rcases carrier_byte a carrier with zero | ⟨twenty, -⟩ <;> simp_all

private theorem tor_not_carrier (tor : a.isTor) : carriesIPv4 a = false := by
  rw [Bool.eq_false_iff]
  intro carrier
  have := tor_bytes a tor
  rcases carrier_byte a carrier with zero | ⟨twenty, -⟩ <;> simp_all

private theorem heNet_excludes (heNet : isHeNet a) :
    a.isI2P = false ∧ carriesIPv4 a = false ∧ a.isTor = false := by
  simp only [isHeNet, Bool.and_eq_true, beq_iff_eq] at heNet
  refine ⟨Bool.eq_false_iff.mpr fun i2p => ?_, Bool.eq_false_iff.mpr fun carrier => ?_,
    Bool.eq_false_iff.mpr fun tor => ?_⟩
  · have := i2p_bytes a i2p
    simp_all
  · rcases carrier_byte a carrier with zero | ⟨twenty, two | zero⟩ <;> simp_all
  · have := tor_bytes a tor
    simp_all

@[simp] theorem bucket_eq_i2p : bucket a = .i2p ↔ a.isI2P := by
  rcases bucket_cases a with ⟨hb, i2p⟩ | ⟨hb, i2p, -⟩ | ⟨hb, i2p, -⟩ | ⟨hb, i2p, -⟩ | ⟨hb, i2p, -⟩ <;>
    simp [hb, i2p]

@[simp] theorem bucket_eq_ipv4 : bucket a = .ipv4 ↔ carriesIPv4 a := by
  rcases bucket_cases a with ⟨hb, i2p⟩ | ⟨hb, -, carrier⟩ | ⟨hb, -, carrier, -⟩ |
      ⟨hb, -, carrier, -⟩ | ⟨hb, -, carrier, -⟩
  · simp [hb, i2p_not_carrier i2p]
  all_goals simp [hb, carrier]

@[simp] theorem bucket_eq_tor : bucket a = .tor ↔ a.isTor := by
  rcases bucket_cases a with ⟨hb, i2p⟩ | ⟨hb, -, carrier⟩ | ⟨hb, -, -, tor⟩ |
      ⟨hb, -, -, tor, -⟩ | ⟨hb, -, -, tor, -⟩
  · simp [hb, (a.isI2P_excludes i2p).2.1]
  · rw [hb]
    exact iff_of_false nofun fun tor => by simp [tor_not_carrier tor] at carrier
  all_goals simp [hb, tor]

@[simp] theorem bucket_eq_heNet : bucket a = .heNet ↔ isHeNet a := by
  rcases bucket_cases a with ⟨hb, i2p⟩ | ⟨hb, -, carrier⟩ | ⟨hb, -, -, tor⟩ |
      ⟨hb, -, -, -, heNet⟩ | ⟨hb, -, -, -, heNet⟩
  · rw [hb]
    exact iff_of_false nofun fun heNet => by simp [(heNet_excludes heNet).1] at i2p
  · rw [hb]
    exact iff_of_false nofun fun heNet => by simp [(heNet_excludes heNet).2.1] at carrier
  · rw [hb]
    exact iff_of_false nofun fun heNet => by simp [(heNet_excludes heNet).2.2] at tor
  all_goals simp [hb, heNet]

@[simp] theorem bucket_eq_ipv6 : bucket a = .ipv6 ↔ isOtherIPv6 a := by
  rcases bucket_cases a with ⟨hb, i2p⟩ | ⟨hb, -, carrier⟩ | ⟨hb, -, -, tor⟩ |
      ⟨hb, -, -, -, heNet⟩ | ⟨hb, i2p, carrier, tor, heNet⟩ <;>
    simp [hb, isOtherIPv6, *]

theorem key_eq_iff {b : CNetAddr size} :
    (bucket a).tag :: payload a = (bucket b).tag :: payload b ↔
      bucket a = bucket b ∧ payload a = payload b := by
  refine ⟨fun same => ⟨?_, (List.cons.inj same).2⟩, fun ⟨same, rest⟩ => by rw [same, rest]⟩
  obtain ⟨tags, rest⟩ := List.cons.inj same
  have lengths := congrArg List.length rest
  cases hA : bucket a <;> cases hB : bucket b <;> simp only [hA, hB, Bucket.tag, payload] at tags lengths
  all_goals first | rfl | simp at tags | simp [a.ip_length, b.ip_length] at lengths

private theorem prefix_nibble_eq_iff {p q : List Byte} {x y : Byte} :
    p ++ [x ||| 15] = q ++ [y ||| 15] ↔ p = q ∧ x >>> 4 = y >>> 4 := by
  rw [← or_fifteen_eq_iff]
  constructor
  · intro same
    exact (List.append_inj' same rfl).imp id (by simpa using ·)
  · rintro ⟨rfl, same⟩
    rw [same]

/-- Two routable addresses share a group exactly when they fall in one class and
agree on what that class keeps of them; every unroutable address outside I2P is
in the one unroutable group. -/
theorem getGroup_classes (myDestination : List Byte) :
    (∀ a b : CNetAddr size, a.isRoutable myDestination → b.isRoutable myDestination →
      (a.getGroup myDestination = b.getGroup myDestination ↔
        (a.isI2P ∧ b.isI2P ∧ a.i2pDest = b.i2pDest) ∨
        (carriesIPv4 a ∧ carriesIPv4 b ∧ (embeddedIPv4 a).take 2 = (embeddedIPv4 b).take 2) ∨
        (a.isTor ∧ b.isTor ∧ a.ip.getD 6 0 >>> 4 = b.ip.getD 6 0 >>> 4) ∨
        (isHeNet a ∧ isHeNet b ∧ a.ip.take 4 = b.ip.take 4 ∧
          a.ip.getD 4 0 >>> 4 = b.ip.getD 4 0 >>> 4) ∨
        (isOtherIPv6 a ∧ isOtherIPv6 b ∧ a.ip.take 4 = b.ip.take 4))) ∧
    ∀ a : CNetAddr size, a.isI2P = false → a.isRoutable myDestination = false →
      a.getGroup myDestination = [Network.unroutable.toByte] := by
  refine ⟨fun a b routableA routableB => ?_, fun a i2p unroutable => ?_⟩
  · rw [getGroup_routable routableA, getGroup_routable routableB, key_eq_iff]
    simp only [← bucket_eq_i2p, ← bucket_eq_ipv4, ← bucket_eq_tor, ← bucket_eq_heNet,
      ← bucket_eq_ipv6]
    by_cases same : bucket a = bucket b
    · cases hA : bucket a <;> rw [hA] at same <;>
        simp only [payload, hA, ← same, prefix_nibble_eq_iff, List.cons.injEq, or_fifteen_eq_iff] <;>
        simp
    · simp only [same, false_and, false_iff]
      rintro (⟨ha, hb, -⟩ | ⟨ha, hb, -⟩ | ⟨ha, hb, -⟩ | ⟨ha, hb, -⟩ | ⟨ha, hb, -⟩) <;>
        exact same (ha.trans hb.symm)
  · simp only [getGroup, i2p, unroutable, Bool.not_false, Bool.false_eq_true, if_false, if_true]
    rfl

theorem getGroup_classes_two_hosts :
    (⟨[0x24, 0x02, 0x12, 0x34, 0, 0, 0, 0, 0, 0, 0, 0, 0, 0, 0, 1], List.replicate 516 0, rfl,
      List.length_replicate _ _⟩ :
      CNetAddr 516).getGroup [] =
      (⟨[0x24, 0x02, 0x12, 0x34, 0xFF, 0, 0, 0, 0, 0, 0, 0, 0, 0, 0, 2], List.replicate 516 0, rfl,
        List.length_replicate _ _⟩ : CNetAddr 516).getGroup [] ∧
    (⟨[0xFE, 0x80, 0, 0, 0, 0, 0, 0, 0, 0, 0, 0, 0, 0, 0, 1], List.replicate 516 0, rfl,
      List.length_replicate _ _⟩ :
      CNetAddr 516).getGroup [] = [Network.unroutable.toByte] :=
  ⟨((getGroup_classes []).1 _ _ (by decide) (by decide)).2
      (.inr (.inr (.inr (.inr ⟨by decide, by decide, rfl⟩)))),
    (getGroup_classes []).2 _ (by decide) (by decide)⟩

end Netbase.Proofs.Groups
