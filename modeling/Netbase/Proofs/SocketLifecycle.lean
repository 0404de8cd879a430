import Netbase.Proofs.ConnectRuns

/-! No connect function leaks or double-closes a socket, whatever the operating system
and the I2P router answer: on failure every socket it opened is closed exactly once and
`hSocketRet` holds no closed socket, and on success it returns the one socket it opened,
still open. -/

namespace Netbase.Proofs

variable {σ : Type} {size : Nat}

/-- The socket discipline of a call that returned `ok` and left `hRet` in `hSocketRet`,
which held `old` before. -/
structure Tidy (old : SOCKET) (ok : Bool) (hRet : SOCKET) (L : List Event) : Prop where
  closes_opened : ∀ h ∈ closed L, h ∈ opened L
  on_failure : ok = false →
    (∀ h ∈ opened L, (closed L).count h = 1) ∧ (hRet = INVALID_SOCKET ∨ hRet = old)
  on_success : ok = true → opened L = [hRet] ∧ hRet ∉ closed L

/-- At most one socket opened, and that one closed. -/
def AllClosed (L : List Event) : Prop := opened L = closed L ∧ (opened L).length ≤ 1

theorem tidy_failed {old hRet : SOCKET} {L : List Event} (closes : AllClosed L)
    (ret : hRet = INVALID_SOCKET ∨ hRet = old) : Tidy old false hRet L where
  closes_opened := fun h mem => closes.1 ▸ mem
  on_failure := fun _ => ⟨fun h mem => by
    rw [← closes.1]
    match opened L, closes.2, mem with
    | [_], _, mem => simp_all, ret⟩
  on_success := fun failed => nomatch failed

theorem tidy_succeeded {old hRet : SOCKET} {L : List Event} (opens : opened L = [hRet])
    (closes : closed L = []) : Tidy old true hRet L where
  closes_opened := by simp [closes]
  on_failure := fun succeeded => nomatch succeeded
  on_success := fun _ => ⟨opens, by simp [closes]⟩

theorem Tidy.quiet_append {old hRet : SOCKET} {ok : Bool} {L₁ L₂ : List Event}
    (opens : opened L₁ = []) (closes : closed L₁ = []) (tidy : Tidy old ok hRet L₂) :
    Tidy old ok hRet (L₁ ++ L₂) where
  closes_opened := by simpa [opens, closes] using tidy.closes_opened
  on_failure := by simpa [opens, closes] using tidy.on_failure
  on_success := by simpa [opens, closes] using tidy.on_success

theorem Dialed.tidy {addrConnect : CService size} {r : Bool × SOCKET} {L : List Event}
    (old : SOCKET) (post : Dialed addrConnect r L) : Tidy old r.1 r.2 L := by
  obtain ⟨-, -, -, ⟨ret, opens, closes⟩ | ⟨hSocket, -, opens, closes, ret⟩⟩ := post.log
  · rw [ret]
    exact tidy_failed ⟨by simp [opens, closes], by simp [opens]⟩ (.inl rfl)
  · obtain ⟨ok, hRet⟩ := r
    cases ok
    · exact tidy_failed ⟨by simp_all, by simp [opens]⟩ (.inl ret)
    · exact tidy_succeeded (by simp_all) (by simp_all)

/-- The proxy path closes what it opened, or returns the one socket it opened. -/
theorem Proxied.lifecycle {proxy : CService size} {strDest : List Byte} {port : Int}
    {r : Option SOCKET} {L : List Event} (post : Proxied proxy strDest port r L) :
    r = none ∧ AllClosed L ∨ ∃ hSocket, r = some hSocket ∧ opened L = [hSocket] ∧ closed L = [] := by
  obtain ⟨⟨ok, hSocket⟩, L₁, L₂, rfl, dialed, ⟨refused, rfl, rfl⟩ | ⟨accepted, negotiated, socks, rfl⟩⟩ :=
    post
  · obtain ⟨-, -, -, ⟨-, opens, closes⟩ | ⟨h, -, opens, closes, -⟩⟩ := dialed.log
    · exact .inl ⟨rfl, by simp [opens, closes], by simp [opens]⟩
    · exact .inl ⟨rfl, by simp_all, by simp [opens]⟩
  · obtain ⟨-, -, -, ⟨ret, -⟩ | ⟨h, -, opens, closes, ret⟩⟩ := dialed.log
    · simp_all
    · obtain ⟨opens₂, closes₂, -⟩ := socks.log
      obtain rfl : ok = true := accepted
      obtain rfl : hSocket = h := by simpa using ret
      cases agreed : negotiated.isOk <;> simp only [agreed] at closes₂ ⊢
      · exact .inl ⟨rfl, by simp [opens, opens₂, closes, closes₂], by simp [opens, opens₂]⟩
      · exact .inr ⟨_, rfl, by simp [opens, opens₂], by simp [closes, closes₂]⟩

variable (lib : Library size) (settings : Settings size)

theorem Connected.tidy {addrDest : CService size} {old : SOCKET} {r : Option (Bool × SOCKET)}
    {L : List Event} (post : Connected lib settings addrDest old r L) :
    ∀ ok hRet, r = some (ok, hRet) → Tidy old ok hRet L := by
  intro ok hRet result
  rcases post with ⟨-, -, rfl, -⟩ | ⟨-, -, s, L', rfl, attached⟩ | ⟨-, -, r', rfl, dialed⟩ |
    ⟨-, proxy, -, hSocket, proxied, rfl⟩
  · cases result
  · rcases attached with ⟨rfl, rfl, rfl⟩ | ⟨valid, ⟨rfl, rfl⟩ | ⟨rfl, rfl⟩⟩ <;>
      simp only [Option.some.injEq, Prod.mk.injEq] at result <;> obtain ⟨rfl, rfl⟩ := result
    · exact tidy_failed ⟨by simp [Event.opens, Event.closes], by simp [Event.opens]⟩ (.inr rfl)
    · exact tidy_succeeded (by simp [Event.opens, valid]) (by simp [Event.closes])
    · exact tidy_failed ⟨by simp [Event.opens, Event.closes, valid], by simp [Event.opens, valid]⟩
        (.inr rfl)
  · cases result
    exact dialed.tidy old
  · rcases proxied.lifecycle with ⟨rfl, closes⟩ | ⟨h, rfl, opens, closes⟩ <;>
      simp only [Option.elim, Option.some.injEq, Prod.mk.injEq] at result <;>
      obtain ⟨rfl, rfl⟩ := result
    · exact tidy_failed closes (.inr rfl)
    · exact tidy_succeeded opens closes

/-- Whatever the operating system and the I2P router answer: `Socks5` opens nothing and
closes the socket it was given exactly when it fails; `ConnectSocketDirectly`,
`ConnectSocket` and `ConnectSocketByName` close every socket they opened exactly once
when they fail, leaving `hSocketRet` invalid or as it was, and when they succeed return
in `hSocketRet` the one socket they opened, not closed. -/
theorem connect_sockets_tidy :
    (∀ (strDest : List Byte) (port : Int) (hSocket : SOCKET),
      Logs (socks5 strDest port hSocket : Net σ _) fun r L =>
        opened L = [] ∧ closed L = if r.isOk then [] else [hSocket]) ∧
    (∀ (addrConnect : CService size) (old : SOCKET) (nTimeout : Int),
      Logs (connectSocketDirectly addrConnect nTimeout : Net σ _) fun r L => Tidy old r.1 r.2 L) ∧
    (∀ (addrDest : CService size) (old : SOCKET) (nTimeout : Int),
      Logs (connectSocket lib settings addrDest old nTimeout : Net σ _) fun r L =>
        ∀ ok hRet, r = some (ok, hRet) → Tidy old ok hRet L) ∧
    (∀ (old : SOCKET) (pszDest : List Byte) (portDefault nTimeout : Int),
      Logs (connectSocketByName lib settings old pszDest portDefault nTimeout : Net σ _)
        fun r L => ∀ ok hRet addr, r = some (ok, hRet, addr) → Tidy old ok hRet L) := by
  refine ⟨fun strDest port hSocket => (socks5_closes strDest port hSocket).imp fun r L post =>
      ⟨post.log.1, post.log.2.1⟩,
    fun addrConnect old nTimeout => (connectSocketDirectly_dials addrConnect nTimeout).imp
      fun r L post => post.tidy old,
    fun addrDest old nTimeout => (connectSocket_connected lib settings addrDest old nTimeout).imp
      fun r L post => post.tidy lib settings,
    fun old pszDest portDefault nTimeout =>
      (connectSocketByName_connected lib settings old pszDest portDefault nTimeout).imp ?_⟩
  rintro r L ⟨L₁, L₂, rfl, lookedUp, post⟩ ok hRet addr result
  obtain ⟨opens, closes, -⟩ := lookups_only lookedUp
  refine Tidy.quiet_append opens closes ?_
  rcases post with ⟨addrResolved, -, r', connected, rfl⟩ | ⟨-, rfl, rfl⟩ |
    ⟨-, hSocket, proxied, rfl⟩
  · obtain ⟨⟨ok', hRet'⟩, rfl, found⟩ := Option.map_eq_some'.1 result
    simp only [Prod.mk.injEq] at found
    obtain ⟨rfl, rfl, -⟩ := found
    exact connected.tidy lib settings ok' hRet' rfl
  · simp only [Option.some.injEq, Prod.mk.injEq] at result
    obtain ⟨rfl, rfl, -⟩ := result
    exact tidy_failed ⟨rfl, by simp⟩ (.inr rfl)
  · rcases proxied.lifecycle with ⟨rfl, closes⟩ | ⟨h, rfl, opens, closes⟩ <;>
      simp only [Option.elim, Option.some.injEq, Prod.mk.injEq] at result <;>
      obtain ⟨rfl, rfl, -⟩ := result
    · exact tidy_failed closes (.inr rfl)
    · exact tidy_succeeded opens closes

open ConnectRuns Socks5Reply in
/-- `ConnectSocket` to 1.2.3.4:80 through the proxy at 127.0.0.1:9050, which grants the
request, succeeds with the socket it opened, and that socket is left open. -/
theorem connect_sockets_tidy_success :
    ((connectSocket plainLibrary proxySettings ⟨CNetAddr.ofInAddr ⟨[1, 2, 3, 4], rfl⟩, 80⟩
        INVALID_SOCKET 0 : Net (List Byte) _).run
          ⟨grantingOs 3, grantReply 1 [0, 0, 0, 0] 0 80 ++ [], []⟩).1 = some (true, 3) ∧
      ∃ L, ((connectSocket plainLibrary proxySettings ⟨CNetAddr.ofInAddr ⟨[1, 2, 3, 4], rfl⟩, 80⟩
          INVALID_SOCKET 0 : Net (List Byte) _).run
            ⟨grantingOs 3, grantReply 1 [0, 0, 0, 0] 0 80 ++ [], []⟩).2.log = [] ++ L ∧
        Tidy INVALID_SOCKET true 3 L :=
  have registered : proxySettings.getProxy ((⟨CNetAddr.ofInAddr ⟨[1, 2, 3, 4], rfl⟩, 80⟩ :
      CService 0).getNetwork proxySettings.myDestination) = some localProxy := by decide
  have succeeds : ((connectSocket plainLibrary proxySettings
      ⟨CNetAddr.ofInAddr ⟨[1, 2, 3, 4], rfl⟩, 80⟩ INVALID_SOCKET 0 : Net (List Byte) _).run
        ⟨grantingOs 3, grantReply 1 [0, 0, 0, 0] 0 80 ++ [], []⟩).1 = some (true, 3) :=
    connectSocket_proxied_grants (grantingOs_grants 3) (by decide) plainLibrary proxySettings
      (by decide) registered rfl (by decide) (by rfl) 0 80 [] INVALID_SOCKET 0 []
  have ⟨L, logged, tidy⟩ := (connect_sockets_tidy plainLibrary proxySettings).2.2.1
    ⟨CNetAddr.ofInAddr ⟨[1, 2, 3, 4], rfl⟩, 80⟩ INVALID_SOCKET 0
    ⟨grantingOs 3, grantReply 1 [0, 0, 0, 0] 0 80 ++ [], []⟩
  ⟨succeeds, L, logged, tidy true 3 succeeds⟩

end Netbase.Proofs
