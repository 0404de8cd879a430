import Netbase.Address

/-! Overlay isolation of `GetReachabilityFrom`. A routable I2P partner is offered only
our own I2P address, and an address is scored private only when it is on Tor or I2P and
the partner is missing, unroutable, or on the same overlay. The proof reads back what
`GetExtNetwork` can return, once, and then walks the table. -/

namespace Netbase.Proofs.Reachability
open CNetAddr

variable {size : Nat} {myDestination : List Byte}

section Networks

variable {q : CNetAddr size}

theorem getNetwork_tor (tor : q.getNetwork myDestination = .tor) : q.isTor := by
  unfold getNetwork at tor
  split_ifs at tor with _ _ onion
  exact onion

theorem getNetwork_nativeI2P (i2p : q.getNetwork myDestination = .nativeI2P) : q.isI2P := by
  unfold getNetwork at i2p
  split_ifs at i2p with _ _ _ garlic
  exact garlic

theorem getNetwork_unroutable (unroutable : q.getNetwork myDestination = .unroutable) :
    q.isRoutable myDestination = false := by
  unfold getNetwork at unroutable
  split_ifs at unroutable with refused
  simpa using refused

theorem getExtNetwork_net {p : Option (CNetAddr size)} {n : Network}
    (named : getExtNetwork p myDestination = .net n) :
    ∃ q, p = some q ∧ q.getNetwork myDestination = n := by
  cases p with
  | none => cases named
  | some q =>
    simp only [getExtNetwork] at named
    split_ifs at named
    cases named
    exact ⟨q, rfl, rfl⟩

theorem getExtNetwork_unknown {p : Option (CNetAddr size)}
    (unknown : getExtNetwork p myDestination = .unknown) : p = none := by
  cases p with
  | none => rfl
  | some q =>
    simp only [getExtNetwork] at unknown
    split_ifs at unknown

theorem getExtNetwork_i2p (i2p : q.isI2P) (routable : q.isRoutable myDestination) :
    getExtNetwork (some q) myDestination = .net .nativeI2P := by
  obtain ⟨ipv4, tor, teredo⟩ := q.isI2P_excludes i2p
  simp [getExtNetwork, getNetwork, teredo, routable, ipv4, tor, i2p]

end Networks

theorem private_cases {a : CNetAddr size} {p : Option (CNetAddr size)}
    (reached : a.getReachabilityFrom p myDestination = .REACH_PRIVATE) :
    ∃ n, getExtNetwork (some a) myDestination = .net n ∧ (n = .tor ∨ n = .nativeI2P) ∧
      (getExtNetwork p myDestination = .unknown ∨ getExtNetwork p myDestination = .net .unroutable ∨
        getExtNetwork p myDestination = .net n) := by
  unfold getReachabilityFrom at reached
  split_ifs at reached
  rcases ours : getExtNetwork (some a) myDestination with (_ | _ | _ | _ | _) | _ | _ <;>
    rcases theirs : getExtNetwork p myDestination with (_ | _ | _ | _ | _) | _ | _ <;>
    simp only [ours, theirs] at reached <;> (try split at reached) <;> cases reached <;> simp

/-- Overlay isolation. A routable I2P partner scores our address private when it is a
routable I2P address and unreachable otherwise; and a private score is given only to a
Tor or I2P address, for a missing or unroutable partner or one on the same overlay. -/
theorem getReachabilityFrom_overlay (myDestination : List Byte) :
    (∀ a p : CNetAddr size, p.isI2P → p.isRoutable myDestination →
      a.getReachabilityFrom (some p) myDestination =
        if a.isI2P && a.isRoutable myDestination then .REACH_PRIVATE else .REACH_UNREACHABLE) ∧
    (∀ (a : CNetAddr size) p, a.getReachabilityFrom p myDestination = .REACH_PRIVATE →
      (a.isTor ∨ a.isI2P) ∧
        (p = none ∨ ∃ q, p = some q ∧
          (q.isRoutable myDestination = false ∨ a.isTor ∧ q.isTor ∨ a.isI2P ∧ q.isI2P))) := by
  refine ⟨fun a p i2p routable => ?_, fun a p reached => ?_⟩
  · unfold getReachabilityFrom
    rw [getExtNetwork_i2p i2p routable]
    by_cases ours : a.isRoutable myDestination
    · by_cases mine : a.isI2P
      · simp [ours, mine, getExtNetwork_i2p mine ours]
      · simp only [ours, mine, Bool.not_true, Bool.false_eq_true, if_false, Bool.false_and]
        split
        · rename_i named
          obtain ⟨q, same, n⟩ := getExtNetwork_net named
          cases same
          exact absurd (getNetwork_nativeI2P n) mine
        · rfl
    · simp [ours]
  · obtain ⟨n, ours, overlay, theirs⟩ := private_cases reached
    obtain ⟨_, same, network⟩ := getExtNetwork_net ours
    cases same
    refine ⟨overlay.imp (fun tor => getNetwork_tor (tor ▸ network))
      (fun i2p => getNetwork_nativeI2P (i2p ▸ network)), ?_⟩
    rcases theirs with unknown | unroutable | shared
    · exact .inl (getExtNetwork_unknown unknown)
    · obtain ⟨q, rfl, partner⟩ := getExtNetwork_net unroutable
      exact .inr ⟨q, rfl, .inl (getNetwork_unroutable partner)⟩
    · obtain ⟨q, rfl, partner⟩ := getExtNetwork_net shared
      rcases overlay with rfl | rfl
      · exact .inr ⟨q, rfl, .inr (.inl ⟨getNetwork_tor network, getNetwork_tor partner⟩)⟩
      · exact .inr ⟨q, rfl, .inr (.inr ⟨getNetwork_nativeI2P network, getNetwork_nativeI2P partner⟩)⟩

end Netbase.Proofs.Reachability
