import Netbase.Socket

/-! A program logic for `Net`: a program is specified by the events it adds to the log,
whatever the operating system answers. `pure`, `bind` and each kind of call have a rule,
and the specification of `Socks5` and of `ConnectSocketDirectly` is derived from them:
every event each adds, and that each closes the socket it works on exactly when it
fails. -/

namespace Netbase.Proofs

variable {σ α β : Type}

/-- From any world, `m` appends events `L` to the log with `P` of its result and `L`. -/
def Logs (m : Net σ α) (P : α → List Event → Prop) : Prop :=
  ∀ w, ∃ L, (m.run w).2.log = w.log ++ L ∧ P (m.run w).1 L

namespace Logs

variable {m : Net σ α} {P Q : α → List Event → Prop}

theorem imp (spec : Logs m P) (weaken : ∀ a L, P a L → Q a L) : Logs m Q := fun w =>
  let ⟨L, log, post⟩ := spec w
  ⟨L, log, weaken _ _ post⟩

theorem pure {a : α} (post : P a []) : Logs (Pure.pure a : Net σ α) P := fun _ =>
  ⟨[], (List.append_nil _).symm, post⟩

theorem bind {f : α → Net σ β} {R : β → List Event → Prop} (first : Logs m P)
    (rest : ∀ a L, P a L → Logs (f a) fun b L' => R b (L ++ L')) : Logs (m >>= f) R := fun w =>
  let ⟨L, log, post⟩ := first w
  let ⟨L', log', post'⟩ := rest _ _ post (m.run w).2
  ⟨L ++ L', by rw [← List.append_assoc, ← log, ← log']; rfl, post'⟩

theorem ite {c : Prop} [Decidable c] {a b : Net σ α} (yes : c → Logs a P) (no : ¬c → Logs b P) :
    Logs (if c then a else b) P := by
  by_cases holds : c
  · rw [if_pos holds]
    exact yes holds
  · rw [if_neg holds]
    exact no holds

theorem call (answer : Os σ → σ → α × σ) (event : α → Event) :
    Logs (Netbase.call answer event) fun a L => L = [event a] := fun _ => ⟨_, rfl, rfl⟩

theorem closesocket (hSocket : SOCKET) :
    Logs (Netbase.closesocket hSocket : Net σ Unit) fun _ L => L = [.closesocket hSocket] :=
  fun _ => ⟨_, rfl, rfl⟩

theorem call_bind {answer : Os σ → σ → α × σ} {event : α → Event} {f : α → Net σ β}
    {R : β → List Event → Prop} (admits : ∀ a b L, R b L → R b (event a :: L))
    (rest : ∀ a, Logs (f a) R) : Logs (Netbase.call answer event >>= f) R :=
  bind (call answer event) fun a _ single => single ▸ (rest a).imp fun b L' => admits a b L'

end Logs

/-- The socket an event opens: a valid descriptor from `socket` or from the I2P router. -/
def Event.opens : Event → Option SOCKET
  | .socket _ h | .i2pConnect _ h => if h = INVALID_SOCKET then none else some h
  | _ => none

def Event.closes : Event → Option SOCKET
  | .closesocket h => some h
  | _ => none

def Event.dials : Event → Option SockAddr
  | .connect _ addr => some addr
  | _ => none

/-- Whether a `getaddrinfo` call was restricted to `AI_NUMERICHOST`. -/
def Event.resolves : Event → Option Bool
  | .getaddrinfo _ numericHost => some numericHost
  | _ => none

def Event.sends : Event → Option (List Byte)
  | .send _ data => some data
  | _ => none

/-- The sockets opened, closed and dialled, the lookups made and the data sent in a log. -/
def opened (L : List Event) : List SOCKET := L.filterMap Event.opens
def closed (L : List Event) : List SOCKET := L.filterMap Event.closes
def dialled (L : List Event) : List SockAddr := L.filterMap Event.dials
def lookups (L : List Event) : List Bool := L.filterMap Event.resolves
def sent (L : List Event) : List (List Byte) := L.filterMap Event.sends

section Projections

variable {L L' : List Event} {e : Event}

@[simp] theorem opened_append : opened (L ++ L') = opened L ++ opened L' := List.filterMap_append _ _ _
@[simp] theorem closed_append : closed (L ++ L') = closed L ++ closed L' := List.filterMap_append _ _ _
@[simp] theorem dialled_append : dialled (L ++ L') = dialled L ++ dialled L' := List.filterMap_append _ _ _
@[simp] theorem lookups_append : lookups (L ++ L') = lookups L ++ lookups L' := List.filterMap_append _ _ _
@[simp] theorem sent_append : sent (L ++ L') = sent L ++ sent L' := List.filterMap_append _ _ _
@[simp] theorem opened_nil : opened [] = [] := rfl
@[simp] theorem closed_nil : closed [] = [] := rfl
@[simp] theorem dialled_nil : dialled [] = [] := rfl
@[simp] theorem lookups_nil : lookups [] = [] := rfl
@[simp] theorem sent_nil : sent [] = [] := rfl
@[simp] theorem opened_cons : opened (e :: L) = ((Event.opens e).toList ++ opened L) := by
  cases h : Event.opens e <;> simp [opened, List.filterMap_cons, h]
@[simp] theorem closed_cons : closed (e :: L) = ((Event.closes e).toList ++ closed L) := by
  cases h : Event.closes e <;> simp [closed, List.filterMap_cons, h]
@[simp] theorem dialled_cons : dialled (e :: L) = ((Event.dials e).toList ++ dialled L) := by
  cases h : Event.dials e <;> simp [dialled, List.filterMap_cons, h]
@[simp] theorem lookups_cons : lookups (e :: L) = ((Event.resolves e).toList ++ lookups L) := by
  cases h : Event.resolves e <;> simp [lookups, List.filterMap_cons, h]
@[simp] theorem sent_cons : sent (e :: L) = ((Event.sends e).toList ++ sent L) := by
  cases h : Event.sends e <;> simp [sent, List.filterMap_cons, h]

end Projections

/-- Events from `allowed`, then a close of `hSocket` exactly when the call `failed`. -/
def ClosesOnFailure (allowed : Event → Prop) (hSocket : SOCKET) (failed : Bool)
    (L : List Event) : Prop :=
  ∃ io, (∀ e ∈ io, allowed e) ∧ L = io ++ if failed then [.closesocket hSocket] else []

namespace ClosesOnFailure

variable {allowed : Event → Prop} {hSocket : SOCKET} {failed : Bool} {L : List Event}

theorem cons {e : Event} (admitted : allowed e) (rest : ClosesOnFailure allowed hSocket failed L) :
    ClosesOnFailure allowed hSocket failed (e :: L) :=
  let ⟨io, inside, shape⟩ := rest
  ⟨e :: io, by simpa [admitted] using inside, by simp [shape]⟩

theorem quiet {α : Type} {f : Event → Option α} (post : ClosesOnFailure allowed hSocket failed L)
    (ignored : ∀ e, allowed e → f e = none) (closing : f (.closesocket hSocket) = none) :
    L.filterMap f = [] := by
  obtain ⟨io, inside, rfl⟩ := post
  refine List.filterMap_eq_nil_iff.2 fun e mem => ?_
  rcases List.mem_append.1 mem with early | late
  · exact ignored e (inside e early)
  · cases failed <;> simp_all

theorem closed_eq (post : ClosesOnFailure allowed hSocket failed L)
    (ignored : ∀ e, allowed e → Event.closes e = none) :
    closed L = if failed then [hSocket] else [] := by
  obtain ⟨io, inside, rfl⟩ := post
  have quiet : closed io = [] := List.filterMap_eq_nil_iff.2 fun e mem => ignored e (inside e mem)
  cases failed <;> simp [quiet, Event.closes]

theorem mem_filterMap {α : Type} {f : Event → Option α} {x : α}
    (post : ClosesOnFailure allowed hSocket failed L) (closing : f (.closesocket hSocket) = none)
    (mem : x ∈ L.filterMap f) : ∃ e, allowed e ∧ f e = some x := by
  obtain ⟨io, inside, rfl⟩ := post
  obtain ⟨e, e_mem, seen⟩ := List.mem_filterMap.1 mem
  rcases List.mem_append.1 e_mem with early | late
  · exact ⟨e, inside e early, seen⟩
  · cases failed <;> simp_all

end ClosesOnFailure

section Socks5

variable (strDest : List Byte) (port : Int) (hSocket : SOCKET)

/-- What `Socks5` does on `hSocket`: send the greeting and the request for `strDest`,
and read. -/
def Socks5Event : Event → Prop
  | .send h data => h = hSocket ∧ (data = socks5Init ∨ data = socks5Request strDest port)
  | .recv h _ _ => h = hSocket
  | _ => False

/-- What `Socks5` leaves in the log: its events, then a close of `hSocket` exactly when
it failed. -/
def Socks5Closes (r : Except String Unit) (L : List Event) : Prop :=
  ClosesOnFailure (Socks5Event strDest port hSocket) hSocket (!r.isOk) L

variable {strDest port hSocket}

theorem abandon_socks5Closes (message : String) :
    Logs (abandon hSocket message : Net σ _) (Socks5Closes strDest port hSocket) :=
  Logs.bind (Logs.closesocket hSocket) fun _ _ single =>
    Logs.pure ⟨[], by simp, by simp [single, Except.isOk, Except.toBool]⟩

theorem recv_socks5Closes {f : Option (List Byte) → Net σ (Except String Unit)} (buffer len : Nat)
    (rest : ∀ r, Logs (f r) (Socks5Closes strDest port hSocket)) :
    Logs (recv hSocket buffer len >>= f) (Socks5Closes strDest port hSocket) :=
  Logs.call_bind (fun _ _ _ => ClosesOnFailure.cons rfl) rest

theorem send_socks5Closes {f : Int → Net σ (Except String Unit)} {data : List Byte}
    (admitted : data = socks5Init ∨ data = socks5Request strDest port)
    (rest : ∀ r, Logs (f r) (Socks5Closes strDest port hSocket)) :
    Logs (send hSocket data >>= f) (Socks5Closes strDest port hSocket) :=
  Logs.call_bind (fun _ _ _ => ClosesOnFailure.cons ⟨rfl, admitted⟩) rest

theorem finishReply_socks5Closes (ret : Bool) :
    Logs (finishReply hSocket ret : Net σ _) (Socks5Closes strDest port hSocket) :=
  Logs.ite (fun _ => abandon_socks5Closes _) fun _ =>
    recv_socks5Closes _ _ fun _ => Logs.ite (fun _ => abandon_socks5Closes _) fun _ =>
      Logs.pure ⟨[], by simp, by simp [Except.isOk, Except.toBool]⟩

theorem socks5Event_quiet {e : Event} (event : Socks5Event strDest port hSocket e) :
    Event.opens e = none ∧ Event.closes e = none ∧ Event.dials e = none ∧
      Event.resolves e = none ∧
      ∀ data, Event.sends e = some data → data = socks5Init ∨ data = socks5Request strDest port := by
  cases e <;> simp_all [Socks5Event, Event.opens, Event.closes, Event.dials, Event.resolves,
    Event.sends]

theorem Socks5Closes.log {r : Except String Unit} {L : List Event}
    (post : Socks5Closes strDest port hSocket r L) :
    opened L = [] ∧ closed L = (if r.isOk then [] else [hSocket]) ∧ dialled L = [] ∧
      lookups L = [] ∧ ∀ data ∈ sent L, data = socks5Init ∨ data = socks5Request strDest port := by
  refine ⟨post.quiet (fun _ event => (socks5Event_quiet event).1) rfl, ?_,
    post.quiet (fun _ event => (socks5Event_quiet event).2.2.1) rfl,
    post.quiet (fun _ event => (socks5Event_quiet event).2.2.2.1) rfl, fun data mem => ?_⟩
  · rw [post.closed_eq fun _ event => (socks5Event_quiet event).2.1]
    cases r.isOk <;> rfl
  · obtain ⟨e, event, sends⟩ := post.mem_filterMap rfl mem
    exact (socks5Event_quiet event).2.2.2.2 data sends

variable (strDest port hSocket)

/-- `Socks5` sends only the greeting and the request for `strDest`, and closes the
socket exactly when it fails, as its last act. -/
theorem socks5_closes :
    Logs (socks5 strDest port hSocket : Net σ _) (Socks5Closes strDest port hSocket) := by
  unfold socks5
  refine Logs.ite (fun _ => abandon_socks5Closes _) fun _ => send_socks5Closes (.inl rfl) fun _ => ?_
  refine Logs.ite (fun _ => abandon_socks5Closes _) fun _ => recv_socks5Closes 2 2 fun _ => ?_
  refine Logs.ite (fun _ => abandon_socks5Closes _) fun _ =>
    Logs.ite (fun _ => abandon_socks5Closes _) fun _ => send_socks5Closes (.inr rfl) fun _ => ?_
  refine Logs.ite (fun _ => abandon_socks5Closes _) fun _ => recv_socks5Closes 4 4 fun _ => ?_
  refine Logs.ite (fun _ => abandon_socks5Closes _) fun _ =>
    Logs.ite (fun _ => abandon_socks5Closes _) fun _ => ?_
  refine Logs.ite (fun _ => abandon_socks5Closes _) fun _ =>
    Logs.ite (fun _ => abandon_socks5Closes _) fun _ => ?_
  refine Logs.ite (fun _ => recv_socks5Closes 256 4 fun _ => finishReply_socks5Closes _) fun _ => ?_
  refine Logs.ite (fun _ => recv_socks5Closes 256 16 fun _ => finishReply_socks5Closes _) fun _ => ?_
  refine Logs.ite (fun _ => recv_socks5Closes 256 1 fun _ => ?_) fun _ => abandon_socks5Closes _
  exact Logs.ite (fun _ => abandon_socks5Closes _) fun _ =>
    recv_socks5Closes 256 _ fun _ => finishReply_socks5Closes _

end Socks5

section Direct

variable {size : Nat} (sockaddr : SockAddr) (hSocket : SOCKET)

/-- What `ConnectSocketDirectly` does on the socket it opened: set and clear non-blocking
mode, connect to `sockaddr`, wait, read the socket's error. -/
def DialEvent : Event → Prop
  | .fcntl h _ | .select h | .getsockopt h => h = hSocket
  | .connect h addr => h = hSocket ∧ addr = sockaddr
  | _ => False

/-- What `ConnectSocketDirectly` leaves once it has `hSocket`: its events, then a close
exactly when it fails; `hSocketRet` is the socket on success and invalid otherwise. -/
def DialCloses (r : Bool × SOCKET) (L : List Event) : Prop :=
  ClosesOnFailure (DialEvent sockaddr hSocket) hSocket (!r.1) L ∧
    r.2 = if r.1 then hSocket else INVALID_SOCKET

/-- Everything `ConnectSocketDirectly` can do: fail before it has a socket, or open one
socket for `addrConnect`'s address and close it exactly when it fails. -/
def Dialed (addrConnect : CService size) (r : Bool × SOCKET) (L : List Event) : Prop :=
  r = (false, INVALID_SOCKET) ∧ (L = [] ∨ ∃ family, L = [.socket family INVALID_SOCKET]) ∨
  ∃ sockaddr len hSocket, addrConnect.getSockAddr sizeofSockaddrStorage = some (sockaddr, len) ∧
    hSocket ≠ INVALID_SOCKET ∧ ∃ L', L = .socket sockaddr.family hSocket :: L' ∧
      DialCloses sockaddr hSocket r L'

variable {sockaddr hSocket}

theorem giveUp_dialCloses : Logs (giveUp hSocket : Net σ _) (DialCloses sockaddr hSocket) :=
  Logs.bind (Logs.closesocket hSocket) fun _ _ single =>
    Logs.pure ⟨⟨[], by simp, by simp [single]⟩, rfl⟩

theorem call_dialCloses {answer : Os σ → σ → α × σ} {event : α → Event}
    {f : α → Net σ (Bool × SOCKET)} (admitted : ∀ a, DialEvent sockaddr hSocket (event a))
    (rest : ∀ a, Logs (f a) (DialCloses sockaddr hSocket)) :
    Logs (Netbase.call answer event >>= f) (DialCloses sockaddr hSocket) :=
  Logs.call_bind (fun a _ _ post => ⟨ClosesOnFailure.cons (admitted a) post.1, post.2⟩) rest

theorem restoreBlocking_dialCloses :
    Logs (restoreBlocking hSocket : Net σ _) (DialCloses sockaddr hSocket) :=
  call_dialCloses (fun _ => rfl) fun _ =>
    Logs.ite (fun _ => giveUp_dialCloses) fun _ => Logs.pure ⟨⟨[], by simp, by simp⟩, rfl⟩

theorem dialEvent_quiet {e : Event} (event : DialEvent sockaddr hSocket e) :
    Event.opens e = none ∧ Event.closes e = none ∧ Event.resolves e = none ∧
      Event.sends e = none ∧ ∀ sa, Event.dials e = some sa → sa = sockaddr := by
  cases e <;> simp_all [DialEvent, Event.opens, Event.closes, Event.dials, Event.resolves,
    Event.sends]

theorem Dialed.log {addrConnect : CService size} {r : Bool × SOCKET} {L : List Event}
    (post : Dialed addrConnect r L) :
    (∀ sa ∈ dialled L, ∃ len, addrConnect.getSockAddr sizeofSockaddrStorage = some (sa, len)) ∧
      lookups L = [] ∧ sent L = [] ∧
      (r = (false, INVALID_SOCKET) ∧ opened L = [] ∧ closed L = [] ∨
        ∃ hSocket, hSocket ≠ INVALID_SOCKET ∧ opened L = [hSocket] ∧
          closed L = (if r.1 then [] else [hSocket]) ∧
          r.2 = if r.1 then hSocket else INVALID_SOCKET) := by
  rcases post with ⟨rfl, rfl | ⟨family, rfl⟩⟩ |
    ⟨sockaddr, len, hSocket, found, valid, L', rfl, post, ret⟩
  · simp
  · simp [Event.opens, Event.closes, Event.dials, Event.resolves, Event.sends]
  · have opens : opened L' = [] := post.quiet (fun _ event => (dialEvent_quiet event).1) rfl
    have resolves : lookups L' = [] := post.quiet (fun _ event => (dialEvent_quiet event).2.2.1) rfl
    have sends : sent L' = [] := post.quiet (fun _ event => (dialEvent_quiet event).2.2.2.1) rfl
    have closes := post.closed_eq fun _ event => (dialEvent_quiet event).2.1
    refine ⟨fun sa mem => ⟨len, ?_⟩, by simp [resolves, Event.resolves], by simp [sends, Event.sends],
      .inr ⟨hSocket, valid, by simp [opens, valid, Event.opens], ?_, ret⟩⟩
    · obtain ⟨e, event, dials⟩ :=
        post.mem_filterMap rfl (show sa ∈ dialled L' by simpa [Event.dials] using mem)
      rw [found, (dialEvent_quiet event).2.2.2.2 sa dials]
    · revert closes
      cases r.1 <;> simp [Event.closes]

/-- `ConnectSocketDirectly` opens at most one socket, dials only `addrConnect`, and
closes the socket exactly when it fails. -/
theorem connectSocketDirectly_dials (addrConnect : CService size) (nTimeout : Int) :
    Logs (connectSocketDirectly addrConnect nTimeout : Net σ _) (Dialed addrConnect) := by
  unfold connectSocketDirectly
  cases found : addrConnect.getSockAddr sizeofSockaddrStorage with
  | none => exact Logs.pure (.inl ⟨rfl, .inl rfl⟩)
  | some result =>
    obtain ⟨sockaddr, len⟩ := result
    refine Logs.bind (Logs.call _ _) fun hSocket L single => ?_
    refine Logs.ite (fun invalid => Logs.pure (.inl ⟨rfl, .inr ⟨sockaddr.family, by simp [single, invalid]⟩⟩))
      fun valid => Logs.imp (P := DialCloses sockaddr hSocket) ?_ fun r L' post =>
        .inr ⟨sockaddr, len, hSocket, found, valid, L', by simp [single], post⟩
    refine call_dialCloses (fun _ => rfl) fun _ => Logs.ite (fun _ => giveUp_dialCloses) fun _ => ?_
    refine call_dialCloses (fun _ => ⟨rfl, rfl⟩) fun err => ?_
    cases err with
    | none => exact restoreBlocking_dialCloses
    | some err =>
      refine Logs.ite (fun _ => ?_) fun _ => giveUp_dialCloses
      refine call_dialCloses (fun _ => rfl) fun _ => Logs.ite (fun _ => giveUp_dialCloses) fun _ =>
        Logs.ite (fun _ => giveUp_dialCloses) fun _ => call_dialCloses (fun _ => rfl) fun nRet => ?_
      cases nRet with
      | none => exact giveUp_dialCloses
      | some _ => exact Logs.ite (fun _ => giveUp_dialCloses) fun _ => restoreBlocking_dialCloses

end Direct

end Netbase.Proofs
