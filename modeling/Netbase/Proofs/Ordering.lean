import Netbase.Service

/-! `operator<` on `CService` is a strict weak order whose equivalence is
`operator==`, across native I2P services, which compare by destination alone, and
all others, which compare by slot, destination buffer and port. This is what
`std::set` and `std::map` keyed by services rely on. `GetKey()`, the byte key of a
service, agrees with `operator==` but in two cases: it ignores the destination buffer of a
service outside I2P, and it reads the buffer of a native service that `==` sees as empty
behind its leading zero. -/

namespace Netbase.Proofs.Ordering
open CService

variable {size : Nat}

/-- The comparison `operator<` and `operator==` read: services outside I2P first,
lexicographically on slot, destination buffer and port, then I2P services by
destination. -/
def order (a b : CService size) : Ordering :=
  match a.isNativeI2P, b.isNativeI2P with
  | true, true => memcmp a.getI2pDestination b.getI2pDestination
  | true, false => .gt
  | false, true => .lt
  | false, false =>
    (memcmp a.ip b.ip).then ((memcmp a.i2pDest b.i2pDest).then (compare a.port.toNat b.port.toNat))

private theorem then_lt_trans {x y z : List Byte} {r s t : Ordering}
    (rest : r = .lt → s = .lt → t = .lt)
    (first : (memcmp x y).then r = .lt) (second : (memcmp y z).then s = .lt) :
    (memcmp x z).then t = .lt := by
  simp only [Ordering.then_eq_lt, memcmp_eq_iff] at *
  rcases first with below | ⟨rfl, later⟩ <;> rcases second with below' | ⟨rfl, later'⟩
  · exact .inl (memcmp_trans below below')
  · exact .inl below
  · exact .inl below'
  · exact .inr ⟨rfl, rest later later'⟩

theorem order_trans {a b c : CService size} (first : order a b = .lt) (second : order b c = .lt) :
    order a c = .lt := by
  unfold order at *
  cases ha : a.isNativeI2P <;> cases hb : b.isNativeI2P <;> cases hc : c.isNativeI2P <;>
    simp only [ha, hb, hc, reduceCtorEq] at first second ⊢
  · refine then_lt_trans (then_lt_trans (fun below below' => ?_)) first second
    simp only [Nat.compare_eq_lt] at *
    omega
  · exact memcmp_trans first second

theorem order_swap (a b : CService size) : (order a b).swap = order b a := by
  unfold order
  cases a.isNativeI2P <;> cases b.isNativeI2P <;>
    simp only [memcmp_swap, Ordering.swap_then, Nat.compare_swap] <;> rfl

theorem lt_iff_order {a b : CService size} : a.lt b ↔ order a b = .lt := by
  unfold lt order CNetAddr.lt CNetAddr.eq
  cases a.isNativeI2P <;> cases b.isNativeI2P <;>
    simp [Ordering.then_eq_lt, Nat.compare_eq_lt, BitVec.lt_def, and_or_left, or_assoc, and_assoc]

theorem eq_iff_order {a b : CService size} : a.eq b ↔ order a b = .eq := by
  unfold eq order CNetAddr.eq
  cases a.isNativeI2P <;> cases b.isNativeI2P <;>
    simp [Ordering.then_eq_eq, Nat.compare_eq_eq, BitVec.toNat_eq, and_assoc]

theorem order_self (a : CService size) : order a a = .eq := by
  unfold order
  cases a.isNativeI2P <;> simp [Ordering.then, Nat.compare_eq_eq]

/-- `operator<` is irreflexive and transitive, two services are incomparable exactly
when `operator==` holds, and `operator!=` is the negation of `operator==`. -/
theorem lt_strict_weak_order :
    (∀ a : CService size, a.lt a = false) ∧
    (∀ a b c : CService size, a.lt b → b.lt c → a.lt c) ∧
    (∀ a b : CService size, (a.lt b = false ∧ b.lt a = false) ↔ a.eq b) ∧
    (∀ a b : CService size, a.ne b = !a.eq b) := by
  refine ⟨fun a => ?_, fun a b c first second => ?_, fun a b => ?_, fun a b => ?_⟩
  · simp [← Bool.not_eq_true, lt_iff_order, order_self]
  · exact lt_iff_order.2 (order_trans (lt_iff_order.1 first) (lt_iff_order.1 second))
  · simp only [← Bool.not_eq_true, lt_iff_order, eq_iff_order, ← order_swap a b]
    cases order a b <;> simp [Ordering.swap]
  · unfold ne eq CNetAddr.ne CNetAddr.eq
    cases a.isNativeI2P <;> cases b.isNativeI2P <;> simp [Bool.not_and, Bool.not_or] <;> rfl

theorem lt_strict_weak_order_across_families :
    (⟨⟨[0, 0, 0, 0, 0, 0, 0, 0, 0, 0, 0xFF, 0xFF, 1, 2, 3, 4], List.replicate 8 0, rfl, rfl⟩,
        8333⟩ : CService 8).lt
      ⟨⟨[0xFD, 0x60, 0xDB, 0x4D, 0xDD, 0xB5, 0, 0, 0, 0, 0, 0, 0, 0, 0, 0],
        [0x42, 0x42, 0x42, 0x42, 0x41, 0x41, 0x41, 0x41], rfl, rfl⟩, 0⟩ :=
  lt_strict_weak_order.2.1 _
    ⟨⟨[0x24, 0x02, 0x12, 0x34, 0, 0, 0, 0, 0, 0, 0, 0, 0, 0, 0, 1], List.replicate 8 0, rfl, rfl⟩,
      8333⟩ _ (by decide) (by decide)

section Keys

private theorem port_bytes_inj {p q : BitVec 16}
    (same : [BitVec.ofNat 8 (p.toNat / 0x100), BitVec.ofNat 8 (p.toNat &&& 0x0FF)] =
      [BitVec.ofNat 8 (q.toNat / 0x100), BitVec.ofNat 8 (q.toNat &&& 0x0FF)]) : p = q := by
  simp only [List.cons.injEq, and_true] at same
  have high := congrArg BitVec.toNat same.1
  have low := congrArg BitVec.toNat same.2
  have mask : ∀ x : Nat, x &&& 0x0FF = x % 2 ^ 8 := fun x => Nat.and_pow_two_sub_one_eq_mod x 8
  simp only [BitVec.toNat_ofNat, mask] at high low
  have := p.isLt
  have := q.isLt
  exact BitVec.eq_of_toNat_eq (by omega)

private theorem getI2pDestination_eq (a : CNetAddr size) :
    a.getI2pDestination = if a.i2pDest.headD 0 = 0 then [] else a.i2pDest := by
  by_cases lead : a.i2pDest.headD 0 = 0 <;> simp [CNetAddr.getI2pDestination, lead]

private theorem getI2pDestination_eq_iff {a b : CNetAddr size} :
    a.getI2pDestination = b.getI2pDestination ↔
      a.i2pDest = b.i2pDest ∨ (a.i2pDest.headD 0 = 0 ∧ b.i2pDest.headD 0 = 0) := by
  have nonempty : ∀ {d : List Byte}, d.headD 0 ≠ 0 → [] ≠ d := fun lead nil => lead (nil ▸ rfl)
  rw [getI2pDestination_eq, getI2pDestination_eq]
  by_cases ha : a.i2pDest.headD 0 = 0 <;> by_cases hb : b.i2pDest.headD 0 = 0 <;>
    simp only [ha, hb, if_true, if_false, and_true, and_false, or_false, or_true, iff_true]
  · exact iff_of_false (nonempty hb) fun same => hb (same ▸ ha)
  · exact iff_of_false (nonempty ha).symm fun same => ha (same ▸ hb)

theorem getKey_native {s : CService size} (native : s.isNativeI2P) (i2p : s.isI2P) :
    s.getKey = some s.i2pDest := by
  simp [getKey, native, i2p]

theorem getKey_other {s : CService size} (other : s.isNativeI2P = false) :
    s.getKey = some (s.ip ++ [BitVec.ofNat 8 (s.port.toNat / 0x100), BitVec.ofNat 8 (s.port.toNat &&& 0x0FF)]) := by
  simp [getKey, other]

theorem getKey_eq_none {s : CService size} : s.getKey = none ↔ s.isNativeI2P ∧ s.isI2P = false := by
  unfold getKey
  cases s.isNativeI2P <;> cases s.isI2P <;> simp

/-- `GetKey()` against `operator==`. The assert fails exactly for a native destination
beside a slot outside GarlicCat. Where both keys exist, and the destination buffer is not
18 bytes long like the key of a slot and port, the key and `==` disagree in two ways only:
two services outside I2P that differ in the destination buffer alone share a key and are
not `==`; and two native services whose buffers differ but both start with a zero are `==`,
as `GetI2pDestination` is empty for both, and have different keys. -/
theorem getKey_against_eq (short : size ≠ 18) :
    (∀ s : CService size, s.getKey = none ↔ s.isNativeI2P ∧ s.isI2P = false) ∧
    ∀ a b : CService size, a.getKey.isSome → b.getKey.isSome →
      ((a.getKey = b.getKey ∧ a.eq b = false) ↔
        (a.isNativeI2P = false ∧ b.isNativeI2P = false ∧ a.ip = b.ip ∧ a.port = b.port ∧
          a.i2pDest ≠ b.i2pDest)) ∧
      ((a.eq b ∧ a.getKey ≠ b.getKey) ↔
        (a.isNativeI2P ∧ b.isNativeI2P ∧ a.i2pDest.headD 0 = 0 ∧ b.i2pDest.headD 0 = 0 ∧
          a.i2pDest ≠ b.i2pDest)) := by
  refine ⟨fun s => getKey_eq_none, fun a b ka kb => ?_⟩
  have i2p : ∀ {s : CService size}, s.getKey.isSome → s.isNativeI2P → s.isI2P := fun key native => by
    by_contra other
    simp [getKey_eq_none.2 ⟨native, by simpa using other⟩] at key
  have apart : ∀ {x y : CService size}, x.isNativeI2P → y.isNativeI2P = false →
      x.getKey.isSome → x.getKey ≠ y.getKey ∧ x.eq y = false := by
    intro x y nx ny kx
    refine ⟨fun same => short ?_, by simp [CService.eq, nx, ny]⟩
    rw [getKey_native nx (i2p kx nx), getKey_other ny, Option.some.injEq] at same
    simpa [x.i2pDest_length, y.ip_length] using congrArg List.length same
  cases na : a.isNativeI2P <;> cases nb : b.isNativeI2P
  · -- Outside I2P: the key is the slot and the port, and `==` reads the buffer too.
    have keys : a.getKey = b.getKey ↔ a.ip = b.ip ∧ a.port = b.port := by
      rw [getKey_other na, getKey_other nb, Option.some.injEq]
      constructor
      · intro same
        obtain ⟨ip, port⟩ := List.append_inj same (by simp [a.ip_length, b.ip_length])
        exact ⟨ip, port_bytes_inj port⟩
      · rintro ⟨ip, port⟩
        rw [ip, port]
    have eq : a.eq b ↔ a.ip = b.ip ∧ a.i2pDest = b.i2pDest ∧ a.port = b.port := by
      simp [CService.eq, na, nb, CNetAddr.eq_iff, and_assoc]
    simp only [Bool.eq_false_iff, ne_eq, keys, eq, true_and, Bool.false_eq_true, false_and, iff_false]
    exact ⟨⟨fun ⟨⟨ip, port⟩, differ⟩ => ⟨ip, port, fun dest => differ ⟨ip, dest, port⟩⟩,
      fun ⟨ip, port, dest⟩ => ⟨⟨ip, port⟩, fun same => dest same.2.1⟩⟩,
      fun ⟨⟨ip, _, port⟩, differ⟩ => differ ⟨ip, port⟩⟩
  · obtain ⟨keys, eq⟩ := apart nb na kb
    simp [Ne.symm keys, CService.eq, na, nb]
  · obtain ⟨keys, eq⟩ := apart na nb ka
    simp [keys, eq]
  · -- Both native: the key is the buffer, and `==` reads `GetI2pDestination`.
    have keys : a.getKey = b.getKey ↔ a.i2pDest = b.i2pDest := by
      rw [getKey_native na (i2p ka na), getKey_native nb (i2p kb nb), Option.some.injEq]
    have eq : a.eq b ↔ a.i2pDest = b.i2pDest ∨ (a.i2pDest.headD 0 = 0 ∧ b.i2pDest.headD 0 = 0) := by
      simp only [CService.eq, na, nb, if_true, beq_iff_eq]
      exact getI2pDestination_eq_iff
    simp only [Bool.eq_false_iff, ne_eq, keys, eq, true_and, Bool.false_eq_true, false_and, iff_false]
    exact ⟨iff_of_false (fun ⟨same, differ⟩ => differ (.inl same)) fun ⟨untrue, _⟩ => untrue trivial,
      fun ⟨either, differ⟩ => ⟨(either.resolve_left differ).1, (either.resolve_left differ).2, differ⟩,
      fun ⟨za, zb, differ⟩ => ⟨.inr ⟨za, zb⟩, differ⟩⟩

/-- The destination buffer of the build is 516 bytes, not 18. -/
theorem getKey_against_eq_native_size :
    (516 : Nat) ≠ 18 ∧
    (∀ s : CService 516, s.getKey = none ↔ s.isNativeI2P ∧ s.isI2P = false) ∧
    ∀ a b : CService 516, a.getKey.isSome → b.getKey.isSome →
      ((a.getKey = b.getKey ∧ a.eq b = false) ↔
        (a.isNativeI2P = false ∧ b.isNativeI2P = false ∧ a.ip = b.ip ∧ a.port = b.port ∧
          a.i2pDest ≠ b.i2pDest)) ∧
      ((a.eq b ∧ a.getKey ≠ b.getKey) ↔
        (a.isNativeI2P ∧ b.isNativeI2P ∧ a.i2pDest.headD 0 = 0 ∧ b.i2pDest.headD 0 = 0 ∧
          a.i2pDest ≠ b.i2pDest)) :=
  ⟨by decide, getKey_against_eq (by decide)⟩

end Keys

end Netbase.Proofs.Ordering
