import Netbase.Connect

/-! What the lookups return, for every answer `getaddrinfo` gives. `LookupIntern` returns
`true` exactly when it found an address; a special name or a numeric literal is one
address, and any other host is resolved to the first `nMaxSolutions` of the `AF_INET` and
`AF_INET6` answers. `Lookup` leaves its vector alone when it fails and otherwise fills it
with the addresses found, each with the port `SplitHostPort` gave. So no successful lookup
is empty, and the reads of `vIP[0]` and `vService[0]` after one are in bounds. -/

namespace Netbase.Proofs.Lookup

variable {σ : Type} {size : Nat} (lib : Library size)

/-- The address of an `AF_INET` or `AF_INET6` answer. -/
def answerAddr : SockAddr → Option (CNetAddr size)
  | .in4 _ sin_addr => some (CNetAddr.ofInAddr sin_addr)
  | .in6 _ _ sin6_addr _ => some (CNetAddr.ofIn6Addr sin6_addr)
  | .other _ => none

/-- The first `nMaxSolutions` addresses of the answers, or all of them for 0. -/
def firstAnswers (nMaxSolutions : Nat) (answers : List SockAddr) : List (CNetAddr size) :=
  if nMaxSolutions = 0 then answers.filterMap answerAddr
  else (answers.filterMap answerAddr).take nMaxSolutions

/-- A host `LookupIntern` hands to `getaddrinfo`: no special name, no I2P name, and no
numeric literal. -/
def Plain (host : List Byte) : Prop :=
  lib.setSpecial host = none ∧ lib.isStringI2pDestination host = false ∧
    lib.inetPton4 host = none ∧ lib.inetPton6 host = none

theorem collectAddrs_cons (nMaxSolutions : Nat) (aiTrav : SockAddr) (rest : List SockAddr)
    (vIP : List (CNetAddr size)) :
    collectAddrs nMaxSolutions (aiTrav :: rest) vIP =
      if nMaxSolutions = 0 ∨ vIP.length < nMaxSolutions then
        collectAddrs nMaxSolutions rest (vIP ++ (answerAddr aiTrav).toList)
      else vIP := by
  cases aiTrav <;> rfl

theorem collectAddrs_eq (nMaxSolutions : Nat) (answers : List SockAddr)
    (vIP : List (CNetAddr size)) (room : vIP.length ≤ nMaxSolutions ∨ nMaxSolutions = 0) :
    collectAddrs nMaxSolutions answers vIP =
      vIP ++ if nMaxSolutions = 0 then answers.filterMap answerAddr
        else (answers.filterMap answerAddr).take (nMaxSolutions - vIP.length) := by
  induction answers generalizing vIP with
  | nil => simp [collectAddrs]
  | cons aiTrav rest ih =>
    rw [collectAddrs_cons]
    split_ifs with going unbounded unbounded
    · rw [ih _ (.inr unbounded)]
      cases h : answerAddr aiTrav <;> simp [unbounded, h, List.filterMap_cons]
    · have below : vIP.length < nMaxSolutions := going.resolve_left unbounded
      have one : (answerAddr aiTrav : Option (CNetAddr size)).toList.length ≤ 1 := by
        cases answerAddr aiTrav <;> simp
      rw [ih _ (.inl (by simp; omega))]
      cases h : answerAddr aiTrav with
      | none => simp [unbounded, h, List.filterMap_cons]
      | some addr =>
        have step : nMaxSolutions - vIP.length = nMaxSolutions - (vIP.length + 1) + 1 := by omega
        simp [unbounded, h, List.filterMap_cons, step]
    · simp_all
    · have full : nMaxSolutions - vIP.length = 0 := by
        simp only [not_or, not_lt] at going
        omega
      simp [unbounded, full]

theorem collectAddrs_first (nMaxSolutions : Nat) (answers : List SockAddr) :
    (collectAddrs nMaxSolutions answers [] : List (CNetAddr size)) =
      firstAnswers nMaxSolutions answers := by
  rw [collectAddrs_eq _ _ _ (.inl (Nat.zero_le _))]
  simp [firstAnswers]

section Intern

variable (pszName : List Byte) (nMaxSolutions : Nat) (fAllowLookup : Bool) (w : World σ)

theorem firstAnswers_length {nMaxSolutions : Nat} (bounded : 0 < nMaxSolutions)
    (answers : List SockAddr) : (firstAnswers nMaxSolutions answers : List (CNetAddr size)).length ≤
      nMaxSolutions := by
  simp [firstAnswers, Nat.pos_iff_ne_zero.1 bounded]

/-- What `LookupIntern` returns and the addresses it resolves, from any world: `true`
exactly for a non-empty list of at most `nMaxSolutions`, and for a plain host the first
answers of `getaddrinfo`, or none where it fails. -/
theorem lookupIntern_returns :
    let r := ((lookupIntern lib pszName nMaxSolutions fAllowLookup : Net σ _).run w).1
    (r.1 = true ↔ r.2 ≠ []) ∧ (0 < nMaxSolutions → r.2.length ≤ nMaxSolutions) ∧
      (Plain lib pszName →
        r.2 = (w.sys.getaddrinfo w.os pszName !fAllowLookup).1.elim [] (firstAnswers nMaxSolutions)) := by
  unfold lookupIntern
  cases special : lib.setSpecial pszName with
  | some addr =>
    simp [Plain, special]
    omega
  | none =>
    by_cases i2p : lib.isStringI2pDestination pszName
    · simp [Plain, i2p]
    · cases v4 : lib.inetPton4 pszName with
      | some ipv4_addr =>
        simp [Plain, i2p, v4]
        omega
      | none =>
        cases v6 : lib.inetPton6 pszName with
        | some ipv6_addr =>
          simp [Plain, i2p, v6]
          omega
        | none =>
          simp only [i2p, Bool.false_eq_true, if_false, getaddrinfo, call_then]
          cases answer : (w.sys.getaddrinfo w.os pszName !fAllowLookup).1 with
          | none => simp
          | some answers =>
            simp only [collectAddrs_first]
            refine ⟨by simp [List.length_pos], fun bounded => firstAnswers_length bounded answers,
              fun _ => rfl⟩

end Intern

theorem lookupHost_found (pszName : List Byte) (vIP : List (CNetAddr size)) (nMaxSolutions : Nat)
    (fAllowLookup : Bool) (w : World σ)
    (found : ((lookupHost lib pszName vIP nMaxSolutions fAllowLookup : Net σ _).run w).1.1) :
    ((lookupHost lib pszName vIP nMaxSolutions fAllowLookup : Net σ _).run w).1.2 ≠ [] := by
  unfold lookupHost at found ⊢
  by_cases empty : cstr pszName = []
  · simp [empty] at found
  · simp only [empty, if_false] at found ⊢
    exact (lookupIntern_returns lib _ nMaxSolutions fAllowLookup w).1.1 found

theorem lookup_run (pszName : List Byte) (vAddr : List (CService size)) (portDefault : Int)
    (fAllowLookup : Bool) (nMaxSolutions : Nat) (w : World σ) :
    ((lookup lib pszName vAddr portDefault fAllowLookup nMaxSolutions : Net σ _).run w).1 =
      let host := splitHostPort (cstr pszName) portDefault
      let found := ((lookupIntern lib host.2 nMaxSolutions fAllowLookup : Net σ _).run w).1
      if pszName.headD 0 = 0 ∨ found.1 = false then (false, vAddr)
      else (true, found.2.map fun ip => ⟨ip, BitVec.ofInt 16 host.1⟩) := by
  unfold lookup
  by_cases empty : pszName.headD 0 = 0
  · simp only [empty, if_true, true_or]
    rfl
  · simp only [empty, if_false, false_or, bind_then]
    cases ((lookupIntern lib (splitHostPort (cstr pszName) portDefault).2 nMaxSolutions
      fAllowLookup : Net σ _).run w).1.1 <;> rfl

section Runs

variable (fAllowLookup : Bool) (w : World σ)

theorem lookupIntern_special {pszName : List Byte} {addr : CNetAddr size}
    (special : lib.setSpecial pszName = some addr) (nMaxSolutions : Nat) :
    (lookupIntern lib pszName nMaxSolutions fAllowLookup : Net σ _).run w = ((true, [addr]), w) := by
  simp only [lookupIntern, special]
  rfl

theorem lookupIntern_inetPton4 {pszName : List Byte} {ipv4_addr : InAddr}
    (special : lib.setSpecial pszName = none) (plain : lib.isStringI2pDestination pszName = false)
    (v4 : lib.inetPton4 pszName = some ipv4_addr) (nMaxSolutions : Nat) :
    (lookupIntern lib pszName nMaxSolutions fAllowLookup : Net σ _).run w =
      ((true, [CNetAddr.ofInAddr ipv4_addr]), w) := by
  simp only [lookupIntern, special, plain, v4, Bool.false_eq_true, if_false]
  rfl

theorem lookupIntern_inetPton6 {pszName : List Byte} {ipv6_addr : In6Addr}
    (special : lib.setSpecial pszName = none) (plain : lib.isStringI2pDestination pszName = false)
    (v4 : lib.inetPton4 pszName = none) (v6 : lib.inetPton6 pszName = some ipv6_addr)
    (nMaxSolutions : Nat) :
    (lookupIntern lib pszName nMaxSolutions fAllowLookup : Net σ _).run w =
      ((true, [CNetAddr.ofIn6Addr ipv6_addr]), w) := by
  simp only [lookupIntern, special, plain, v4, v6, Bool.false_eq_true, if_false]
  rfl

theorem ofName_run {pszIpPort : List Byte} (nonempty : pszIpPort.headD 0 ≠ 0) (portDefault : Int)
    {found : Bool × List (CNetAddr size)} {w' : World σ}
    (intern : (lookupIntern lib (splitHostPort (cstr pszIpPort) portDefault).2 1 fAllowLookup :
      Net σ _).run w = (found, w')) :
    (CService.ofName lib pszIpPort portDefault fAllowLookup : Net σ _).run w =
      (if found.1 then
        (found.2.map fun ip => ⟨ip, BitVec.ofInt 16 (splitHostPort (cstr pszIpPort) portDefault).1⟩).headD
          CService.init
      else CService.init, w') := by
  unfold CService.ofName lookupService lookup
  simp only [nonempty, if_false, bind_then]
  rw [intern]
  cases found.1 <;> rfl

end Runs

/-- What `Lookup` returns, from any world: `true` exactly when the name is not empty and its
host resolves; `vAddr` unchanged on `false`, and on `true` the addresses found, in order,
each with the port `SplitHostPort` gave, which for a plain host are the first
`nMaxSolutions` `AF_INET` and `AF_INET6` answers of `getaddrinfo`. So a successful lookup
holds at most `nMaxSolutions` addresses and at least one, and so does a successful
`LookupHost` for one address, whose `vIP[0]` the `CNetAddr` constructors read. -/
theorem lookup_resolves (pszName : List Byte) (vAddr : List (CService size)) (portDefault : Int)
    (fAllowLookup : Bool) (nMaxSolutions : Nat) (w : World σ) :
    let host := splitHostPort (cstr pszName) portDefault
    let found := ((lookupIntern lib host.2 nMaxSolutions fAllowLookup : Net σ _).run w).1
    let r := ((lookup lib pszName vAddr portDefault fAllowLookup nMaxSolutions : Net σ _).run w).1
    (r.1 = true ↔ pszName.headD 0 ≠ 0 ∧ found.2 ≠ []) ∧
      (r.1 = false → r.2 = vAddr) ∧
      (r.1 = true → r.2 = found.2.map fun ip => ⟨ip, BitVec.ofInt 16 host.1⟩) ∧
      (Plain lib host.2 → found.2 =
        (w.sys.getaddrinfo w.os host.2 !fAllowLookup).1.elim [] (firstAnswers nMaxSolutions)) ∧
      (0 < nMaxSolutions → r.1 = true → r.2.length ≤ nMaxSolutions) ∧
      (r.1 = true → r.2 ≠ []) ∧
      ∀ (strIp : List Byte) (vIP : List (CNetAddr size)),
        ((lookupHost lib strIp vIP 1 fAllowLookup : Net σ _).run w).1.1 = true →
          ((lookupHost lib strIp vIP 1 fAllowLookup : Net σ _).run w).1.2 ≠ [] := by
  intro host found r
  obtain ⟨nonempty, bounded, plain⟩ := lookupIntern_returns lib host.2 nMaxSolutions fAllowLookup w
  have result : r = if pszName.headD 0 = 0 ∨ found.1 = false then (false, vAddr)
      else (true, found.2.map fun ip => ⟨ip, BitVec.ofInt 16 host.1⟩) :=
    lookup_run lib pszName vAddr portDefault fAllowLookup nMaxSolutions w
  have hosts := fun strIp vIP => lookupHost_found lib strIp vIP 1 fAllowLookup w
  by_cases failed : pszName.headD 0 = 0 ∨ found.1 = false
  · rw [result, if_pos failed]
    refine ⟨?_, fun _ => rfl, nofun, plain, fun _ => nofun, nofun, hosts⟩
    simp only [Bool.false_eq_true, false_iff, not_and, not_not]
    rcases failed with empty | none
    · exact fun full => absurd empty full
    · exact fun _ => not_not.1 fun resolved => Bool.eq_false_iff.1 none (nonempty.2 resolved)
  · rw [result, if_neg failed]
    simp only [not_or, Bool.not_eq_false] at failed
    have resolved : found.2 ≠ [] := nonempty.1 failed.2
    refine ⟨iff_of_true rfl ⟨failed.1, resolved⟩, nofun, fun _ => rfl, plain, fun positive _ => ?_,
      fun _ => by simpa using resolved, hosts⟩
    simpa using bounded positive

end Netbase.Proofs.Lookup
