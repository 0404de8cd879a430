import Netbase.Connect

/-! The proxy registry over whole runs of `SetProxy`. Each slot of `proxyInfo` holds the
proxy of the most recent successful `SetProxy` for its network, or the `CService()` it
started with; `GetProxy` reports the first and treats the second as unset. `IsProxy`
compares against every slot, set or not, so it also holds of the all-zero address while
some network has no proxy. A refused `SetProxy` changes nothing. -/

namespace Netbase.Proofs.ProxyRegistry

variable {size : Nat}

/-- A run of `SetProxy` calls, in order, from `settings`. -/
def runSetProxy (settings : Settings size) (calls : List (Network × CService size)) :
    Settings size :=
  calls.foldl (fun s call => (s.setProxy call.1 call.2).2) settings

/-- The proxy of the most recent successful `SetProxy` for `net`: the last call for it with
a valid proxy. -/
def lastProxy (calls : List (Network × CService size)) (net : Network) : Option (CService size) :=
  (calls.reverse.find? fun call => call.1 == net && call.2.isValid).map Prod.snd

section Steps

variable (settings : Settings size) (net : Network) (addrProxy : CService size)

theorem setProxy_proxyInfo (other : Network) :
    (settings.setProxy net addrProxy).2.proxyInfo other =
      if net = other ∧ addrProxy.isValid then addrProxy else settings.proxyInfo other := by
  by_cases valid : addrProxy.isValid
  · rw [Settings.setProxy, Settings.setIfValid_stored settings valid]
    by_cases same : net = other
    · subst same
      simp [valid]
    · simp [same, Function.update_noteq (Ne.symm same)]
  · rw [Settings.setProxy, Settings.setIfValid_refused settings (Bool.eq_false_iff.2 valid)]
    simp [valid]

theorem runSetProxy_append (calls : List (Network × CService size)) :
    runSetProxy settings (calls ++ [(net, addrProxy)]) =
      ((runSetProxy settings calls).setProxy net addrProxy).2 := by
  simp [runSetProxy, List.foldl_append]

theorem lastProxy_append (calls : List (Network × CService size)) (other : Network) :
    lastProxy (calls ++ [(net, addrProxy)]) other =
      if net = other ∧ addrProxy.isValid then some addrProxy else lastProxy calls other := by
  by_cases hit : net = other ∧ addrProxy.isValid
  · simp [lastProxy, hit]
  · rw [if_neg hit]
    simp only [lastProxy, List.reverse_append, List.reverse_singleton, List.singleton_append,
      List.find?_cons]
    rw [show ((net, addrProxy).1 == other && (net, addrProxy).2.isValid) = false by
      simpa using hit]

end Steps

theorem lastProxy_valid {calls : List (Network × CService size)} {net : Network}
    {p : CService size} (last : lastProxy calls net = some p) : p.isValid := by
  obtain ⟨call, found, rfl⟩ := Option.map_eq_some'.1 last
  have chosen := List.find?_some found
  simp only [Bool.and_eq_true] at chosen
  exact chosen.2

theorem runSetProxy_proxyInfo (settings : Settings size) (calls : List (Network × CService size))
    (net : Network) :
    (runSetProxy settings calls).proxyInfo net = (lastProxy calls net).getD (settings.proxyInfo net) := by
  induction calls using List.reverseRecOn with
  | nil => rfl
  | append_singleton calls call ih =>
    rw [runSetProxy_append, setProxy_proxyInfo, lastProxy_append, ih]
    split_ifs <;> rfl

theorem init_invalid : (CNetAddr.init : CNetAddr size).isValid = false := rfl

theorem lastProxy_ne_init {calls : List (Network × CService size)} {net : Network}
    {p : CService size} (last : lastProxy calls net = some p) : p.toCNetAddr ≠ CNetAddr.init :=
  fun same => by simpa [same, init_invalid] using lastProxy_valid last

theorem isProxy_iff (settings : Settings size) (addr : CNetAddr size) :
    settings.isProxy addr ↔ ∃ net, (settings.proxyInfo net).toCNetAddr = addr := by
  simp only [Settings.isProxy, List.any_eq_true, CNetAddr.eq_iff]
  constructor
  · rintro ⟨net, -, ip, dest⟩
    exact ⟨net, (CNetAddr.ext _ ip dest).symm⟩
  · rintro ⟨net, rfl⟩
    exact ⟨net, Network.mem_all net, rfl, rfl⟩

section Initial

variable (fNameLookup : Bool) (myDestination : List Byte) (calls : List (Network × CService size))

/-- The registry after `calls` from start-up. -/
abbrev registry : Settings size := runSetProxy (Settings.initial fNameLookup myDestination) calls

theorem registry_proxyInfo (net : Network) :
    (registry fNameLookup myDestination calls).proxyInfo net =
      (lastProxy calls net).getD CService.init :=
  runSetProxy_proxyInfo _ calls net

/-- A slot holds the last successful proxy, or else the all-zero address. -/
theorem registry_slot_eq_iff (net : Network) (addr : CNetAddr size) :
    ((registry fNameLookup myDestination calls).proxyInfo net).toCNetAddr = addr ↔
      (∃ p, lastProxy calls net = some p ∧ p.toCNetAddr = addr) ∨
        (addr = CNetAddr.init ∧ lastProxy calls net = none) := by
  rw [registry_proxyInfo]
  cases last : lastProxy calls net with
  | none => simp [CService.init, eq_comm]
  | some p =>
    simp only [Option.getD_some, Option.some.injEq, exists_eq_left', reduceCtorEq, and_false,
      or_false]

/-- `IsProxy(CNetAddr())`, of the all-zero address, holds exactly while some network has
had no successful `SetProxy`, though no successful `SetProxy` stores that address. -/
theorem isProxy_default_address :
    ((registry fNameLookup myDestination calls).isProxy CNetAddr.init ↔
      ∃ net, lastProxy calls net = none) ∧
    ∀ net p, lastProxy calls net = some p → p.toCNetAddr ≠ CNetAddr.init := by
  refine ⟨?_, fun _ _ => lastProxy_ne_init⟩
  simp only [isProxy_iff, registry_slot_eq_iff, true_and]
  constructor
  · rintro ⟨net, ⟨p, last, same⟩ | unset⟩
    · exact absurd same (lastProxy_ne_init last)
    · exact ⟨net, unset⟩
  · rintro ⟨net, unset⟩
    exact ⟨net, .inr unset⟩

/-- The registry over runs of `SetProxy` from start-up. `GetProxy` returns the proxy of
the network's most recent successful `SetProxy`, and fails where there was none;
`IsProxy` holds of exactly those proxies' addresses and, while some network has none, of
the all-zero address. A refused `SetProxy` anywhere in a run changes nothing. -/
theorem proxy_registry_runs :
    (∀ net, (registry fNameLookup myDestination calls).getProxy net = lastProxy calls net) ∧
    (∀ addr : CNetAddr size, (registry fNameLookup myDestination calls).isProxy addr ↔
      (∃ net p, lastProxy calls net = some p ∧ p.toCNetAddr = addr) ∨
        (addr = CNetAddr.init ∧ ∃ net, lastProxy calls net = none)) ∧
    ∀ (settings : Settings size) net (p : CService size) rest, p.isValid = false →
      runSetProxy settings (calls ++ (net, p) :: rest) = runSetProxy settings (calls ++ rest) := by
  refine ⟨fun net => ?_, fun addr => ?_, fun settings net p rest invalid => ?_⟩
  · simp only [Settings.getProxy, registry_proxyInfo]
    cases last : lastProxy calls net with
    | none => simp [CService.init, init_invalid]
    | some p => simp [lastProxy_valid last]
  · simp only [isProxy_iff, registry_slot_eq_iff]
    constructor
    · rintro ⟨net, ⟨p, last, same⟩ | ⟨rfl, unset⟩⟩
      · exact .inl ⟨net, p, last, same⟩
      · exact .inr ⟨rfl, net, unset⟩
    · rintro (⟨net, p, last, same⟩ | ⟨rfl, net, unset⟩)
      · exact ⟨net, .inl ⟨p, last, same⟩⟩
      · exact ⟨net, .inr ⟨rfl, unset⟩⟩
  · simp only [runSetProxy, List.foldl_append, List.foldl_cons, Settings.setProxy,
      Settings.setIfValid_refused _ invalid]

end Initial

end Netbase.Proofs.ProxyRegistry
