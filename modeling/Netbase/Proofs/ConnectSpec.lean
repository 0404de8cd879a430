import Netbase.Connect
import Netbase.Proofs.NetLogic

/-! What `ConnectSocket` and `ConnectSocketByName` can do, branch by branch, derived from
the specifications of `ConnectSocketDirectly` and `Socks5` without unfolding them. The
lookups call nothing but `getaddrinfo`, with `AI_NUMERICHOST` exactly when lookups are
not allowed. -/

namespace Netbase.Proofs

variable {σ : Type} {size : Nat} (lib : Library size) (settings : Settings size)

theorem setI2pSocketOptions_logs (hSocket : SOCKET) :
    Logs (setI2pSocketOptions hSocket : Net σ _) fun r L =>
      hSocket = INVALID_SOCKET ∧ r = (false, hSocket) ∧ L = [] ∨
      hSocket ≠ INVALID_SOCKET ∧
        (r = (true, hSocket) ∧ L = [.fcntl hSocket true] ∨
          r = (false, INVALID_SOCKET) ∧ L = [.fcntl hSocket true, .closesocket hSocket]) := by
  unfold setI2pSocketOptions
  refine Logs.ite (fun invalid => Logs.pure (.inl ⟨invalid, rfl, rfl⟩)) fun valid => ?_
  refine Logs.bind (Logs.call _ _) fun _ L single => Logs.ite (fun _ => ?_) fun _ => ?_
  · exact Logs.bind (Logs.closesocket hSocket) fun _ _ closing =>
      Logs.pure (.inr ⟨valid, .inr ⟨rfl, by simp [single, closing]⟩⟩)
  · exact Logs.pure (.inr ⟨valid, .inl ⟨rfl, by simp [single]⟩⟩)

theorem lookupIntern_logs (pszName : List Byte) (nMaxSolutions : Nat) (fAllowLookup : Bool) :
    Logs (lookupIntern lib pszName nMaxSolutions fAllowLookup : Net σ _) fun _ L =>
      L = [] ∨ L = [.getaddrinfo pszName !fAllowLookup] := by
  unfold lookupIntern
  cases lib.setSpecial pszName with
  | some _ => exact Logs.pure (.inl rfl)
  | none =>
    refine Logs.ite (fun _ => Logs.pure (.inl rfl)) fun _ => ?_
    cases lib.inetPton4 pszName with
    | some _ => exact Logs.pure (.inl rfl)
    | none =>
      cases lib.inetPton6 pszName with
      | some _ => exact Logs.pure (.inl rfl)
      | none =>
        refine Logs.bind (Logs.call _ _) fun aiRes _ single => ?_
        cases aiRes <;> exact Logs.pure (.inr (by simp [single]))

theorem lookupHost_logs (pszName : List Byte) (vIP : List (CNetAddr size)) (nMaxSolutions : Nat)
    (fAllowLookup : Bool) :
    Logs (lookupHost lib pszName vIP nMaxSolutions fAllowLookup : Net σ _) fun _ L =>
      ∀ e ∈ L, ∃ name, e = .getaddrinfo name !fAllowLookup := by
  unfold lookupHost
  refine Logs.ite (fun _ => Logs.pure (by simp)) fun _ => (lookupIntern_logs lib _ _ _).imp ?_
  rintro _ _ (rfl | rfl) <;> simp

theorem ofName_logs (strIp : List Byte) (fAllowLookup : Bool) :
    Logs (CNetAddr.ofName lib strIp fAllowLookup : Net σ _) fun _ L =>
      ∀ e ∈ L, ∃ name, e = .getaddrinfo name !fAllowLookup :=
  Logs.bind (lookupHost_logs lib _ _ _ _) fun _ _ inside => Logs.pure (by simpa using inside)

theorem lookups_only {L : List Event} {numericHost : Bool}
    (only : ∀ e ∈ L, ∃ name, e = .getaddrinfo name numericHost) :
    opened L = [] ∧ closed L = [] ∧ dialled L = [] ∧ sent L = [] ∧
      ∀ b ∈ lookups L, b = numericHost := by
  have quiet : ∀ {α : Type} (f : Event → Option α),
      (∀ name, f (.getaddrinfo name numericHost) = none) → L.filterMap f = [] :=
    fun f never => List.filterMap_eq_nil_iff.2 fun e mem => by
      obtain ⟨name, rfl⟩ := only e mem
      exact never name
  refine ⟨quiet _ fun _ => rfl, quiet _ fun _ => rfl, quiet _ fun _ => rfl, quiet _ fun _ => rfl,
    fun b mem => ?_⟩
  obtain ⟨e, mem, resolves⟩ := List.mem_filterMap.1 mem
  obtain ⟨name, rfl⟩ := only e mem
  exact (Option.some.inj resolves).symm

/-- What `SetI2pSocketOptions` leaves `ConnectSocket` with, after the I2P router gave
`streamSocket`: the result, and the events after the router's. -/
def I2pAttached (hSocketRet streamSocket : SOCKET) (r : Option (Bool × SOCKET)) (L : List Event) :
    Prop :=
  streamSocket = INVALID_SOCKET ∧ L = [] ∧ r = some (false, hSocketRet) ∨
  streamSocket ≠ INVALID_SOCKET ∧
    (L = [.fcntl streamSocket true] ∧ r = some (true, streamSocket) ∨
      L = [.fcntl streamSocket true, .closesocket streamSocket] ∧ r = some (false, hSocketRet))

/-- What the proxy path leaves: the proxy dialled, then, if that worked, the SOCKS5
handshake for `strDest` and `port`; the socket where both succeeded. -/
def Proxied (proxy : CService size) (strDest : List Byte) (port : Int) (r : Option SOCKET)
    (L : List Event) : Prop :=
  ∃ r₁ L₁ L₂, L = L₁ ++ L₂ ∧ Dialed proxy r₁ L₁ ∧
    (r₁.1 = false ∧ L₂ = [] ∧ r = none ∨
      r₁.1 = true ∧ ∃ negotiated, Socks5Closes strDest port r₁.2 negotiated L₂ ∧
        r = if negotiated.isOk then some r₁.2 else none)

theorem connectThroughProxy_proxied (proxy : CService size) (strDest : List Byte)
    (port nTimeout : Int) :
    Logs (connectThroughProxy proxy strDest port nTimeout : Net σ _)
      (Proxied proxy strDest port) := by
  refine Logs.bind (connectSocketDirectly_dials proxy nTimeout) fun ⟨ok, hSocket⟩ L₁ dialed => ?_
  refine Logs.ite (fun refused => Logs.pure ⟨_, L₁, [], by simp, dialed, .inl ?_⟩) fun open_ => ?_
  · simp_all
  · refine Logs.bind (socks5_closes _ _ _) fun negotiated L₂ post => Logs.pure ?_
    exact ⟨_, L₁, L₂, by simp, dialed, .inr ⟨by simpa using open_, negotiated, post, rfl⟩⟩

/-- Everything `ConnectSocket` can do, by the branch it takes: the failed `assert`, the
I2P router, a direct connection, or the proxy for the destination's network. -/
def Connected (addrDest : CService size) (hSocketRet : SOCKET) (r : Option (Bool × SOCKET))
    (L : List Event) : Prop :=
  (addrDest.isI2P ∧ addrDest.isNativeI2P = false ∧ r = none ∧ L = []) ∨
  (addrDest.isI2P ∧ addrDest.isNativeI2P ∧ ∃ streamSocket L',
    L = .i2pConnect addrDest.getI2pDestination streamSocket :: L' ∧
      I2pAttached hSocketRet streamSocket r L') ∨
  (addrDest.isI2P = false ∧ settings.getProxy (addrDest.getNetwork settings.myDestination) = none ∧
    ∃ r', r = some r' ∧ Dialed addrDest r' L) ∨
  (addrDest.isI2P = false ∧ ∃ proxy,
    settings.getProxy (addrDest.getNetwork settings.myDestination) = some proxy ∧
    ∃ hSocket, Proxied proxy (toStringIP lib addrDest.toCNetAddr) addrDest.port.toNat hSocket L ∧
      r = some (hSocket.elim (false, hSocketRet) fun hSocket => (true, hSocket)))

/-- `ConnectSocket` does nothing but what `Connected` lists. -/
theorem connectSocket_connected (addrDest : CService size) (hSocketRet : SOCKET) (nTimeout : Int) :
    Logs (connectSocket lib settings addrDest hSocketRet nTimeout : Net σ _)
      (Connected lib settings addrDest hSocketRet) := by
  unfold connectSocket
  refine Logs.ite (fun i2p => ?_) fun other => ?_
  · refine Logs.ite (fun foreign => Logs.pure (.inl ⟨i2p, by simpa using foreign, rfl, rfl⟩))
      fun native => ?_
    refine Logs.bind (Logs.call _ _) fun streamSocket L single => ?_
    refine Logs.bind (setI2pSocketOptions_logs streamSocket) fun ⟨ok, attached⟩ L' post => ?_
    refine Logs.pure (.inr (.inl ⟨i2p, by simpa using native, streamSocket, L', by simp [single], ?_⟩))
    rcases post with ⟨invalid, ⟨⟩, rfl⟩ | ⟨valid, ⟨⟨⟩, rfl⟩ | ⟨⟨⟩, rfl⟩⟩
    · exact .inl ⟨invalid, rfl, rfl⟩
    · exact .inr ⟨valid, .inl ⟨rfl, rfl⟩⟩
    · exact .inr ⟨valid, .inr ⟨rfl, rfl⟩⟩
  · have other : addrDest.isI2P = false := by simpa using other
    cases proxy : settings.getProxy (addrDest.getNetwork settings.myDestination) with
    | none =>
      exact Logs.bind (connectSocketDirectly_dials _ _) fun r _ dialed =>
        Logs.pure (.inr (.inr (.inl ⟨other, proxy, r, rfl, by simpa using dialed⟩)))
    | some proxy' =>
      exact Logs.bind (connectThroughProxy_proxied _ _ _ _) fun hSocket _ post =>
        Logs.pure (.inr (.inr (.inr ⟨other, proxy', proxy, hSocket, by simpa using post, rfl⟩)))

/-- Everything `ConnectSocketByName` can do: look the host up, numeric only unless
lookups are on and there is no name proxy, then connect to the address found, or give
up, or hand the unresolved name to the name proxy. -/
def ConnectedByName (hSocketRet : SOCKET) (pszDest : List Byte) (portDefault : Int)
    (r : Option (Bool × SOCKET × CService size)) (L : List Event) : Prop :=
  ∃ L₁ L₂, L = L₁ ++ L₂ ∧
    (∀ e ∈ L₁, ∃ name,
      e = .getaddrinfo name !(settings.fNameLookup && !settings.haveNameProxy)) ∧
    ((∃ addrResolved : CService size, addrResolved.isValid ∧ ∃ r',
        Connected lib settings addrResolved hSocketRet r' L₂ ∧
          r = r'.map fun (ok, hSocket) => (ok, hSocket, addrResolved)) ∨
      (settings.haveNameProxy = false ∧ L₂ = [] ∧
        r = some (false, hSocketRet, CService.anyAddress)) ∨
      (settings.haveNameProxy ∧ ∃ hSocket,
        Proxied settings.nameProxy (splitHostPort (cstr pszDest) portDefault).2
          ((splitHostPort (cstr pszDest) portDefault).1 % 0x10000) hSocket L₂ ∧
        r = some (hSocket.elim (false, hSocketRet, CService.anyAddress) fun hSocket =>
          (true, hSocket, CService.anyAddress))))

/-- `ConnectSocketByName` does nothing but what `ConnectedByName` lists. -/
theorem connectSocketByName_connected (hSocketRet : SOCKET) (pszDest : List Byte)
    (portDefault nTimeout : Int) :
    Logs (connectSocketByName lib settings hSocketRet pszDest portDefault nTimeout : Net σ _)
      (ConnectedByName lib settings hSocketRet pszDest portDefault) := by
  unfold connectSocketByName ConnectedByName
  rcases splitHostPort (cstr pszDest) portDefault with ⟨port, strDest⟩
  refine Logs.bind (ofName_logs lib _ _) fun resolved L₁ lookedUp => ?_
  refine Logs.ite (fun valid => ?_) fun _ => ?_
  · exact Logs.bind (connectSocket_connected lib settings _ _ _) fun r' L₂ post =>
      Logs.pure ⟨L₁, L₂, by simp, lookedUp, .inl ⟨_, valid, r', post, rfl⟩⟩
  · refine Logs.ite (fun absent => Logs.pure ⟨L₁, [], by simp, lookedUp,
      .inr (.inl ⟨by simpa using absent, rfl, rfl⟩)⟩) fun present => ?_
    have present : settings.haveNameProxy = true := by simpa using present
    have nameProxy : settings.getNameProxy = settings.nameProxy := by
      simp [Settings.getNameProxy, present]
    rw [nameProxy]
    exact Logs.bind (connectThroughProxy_proxied _ _ _ _) fun hSocket L₂ post =>
      Logs.pure ⟨L₁, L₂, by simp, lookedUp, .inr (.inr ⟨present, hSocket, post, rfl⟩)⟩

end Netbase.Proofs
