import Mathlib.Data.List.Basic
import Mathlib.Data.List.GetD
import Mathlib.Tactic.IntervalCases

/-! Bytes as netbase.cpp handles them. `unsigned char` and `char` are eight-bit
vectors, a `std::string` is its list of bytes, and `memcmp` is the lexicographic
comparison of two byte strings read unsigned. `EncodeBase32`, which `ToStringIP` calls
from util, is here too: five bits to a character of its alphabet. -/

namespace Netbase

abbrev Byte := BitVec 8

/-- `memcmp` over two byte strings of one length, and `std::string::compare`, where a
proper prefix sorts first. Bytes compare as unsigned values. -/
def memcmp : List Byte → List Byte → Ordering
  | [], [] => .eq
  | [], _ :: _ => .lt
  | _ :: _, [] => .gt
  | x :: xs, y :: ys => (compare x.toNat y.toNat).then (memcmp xs ys)

/-- An ASCII character literal as a byte. -/
def char (c : Char) : Byte := BitVec.ofNat 8 c.toNat

/-- The bytes of an ASCII string literal. -/
def ascii (s : String) : List Byte := s.toList.map char

/-- `std::string(p)` of a C string `p`: its bytes up to the terminating NUL. -/
def cstr (p : List Byte) : List Byte := p.takeWhile (· ≠ 0)

private theorem toNat_eq_iff {x y : Byte} : x.toNat = y.toNat ↔ x = y :=
  ⟨BitVec.eq_of_toNat_eq, congrArg _⟩

@[simp] theorem memcmp_eq_iff {a b : List Byte} : memcmp a b = .eq ↔ a = b := by
  induction a generalizing b with
  | nil => cases b <;> simp [memcmp]
  | cons x xs ih =>
    cases b with
    | nil => simp [memcmp]
    | cons y ys => simp [memcmp, Ordering.then_eq_eq, Nat.compare_eq_eq, toNat_eq_iff, ih]

@[simp] theorem memcmp_self (a : List Byte) : memcmp a a = .eq := memcmp_eq_iff.2 rfl

theorem memcmp_swap (a b : List Byte) : (memcmp a b).swap = memcmp b a := by
  induction a generalizing b with
  | nil => cases b <;> rfl
  | cons x xs ih =>
    cases b with
    | nil => rfl
    | cons y ys => simp [memcmp, Ordering.swap_then, Nat.compare_swap, ih]

theorem memcmp_trans {a b c : List Byte} (first : memcmp a b = .lt) (second : memcmp b c = .lt) :
    memcmp a c = .lt := by
  induction a generalizing b c with
  | nil => cases b <;> cases c <;> simp_all [memcmp]
  | cons x xs ih =>
    cases b with
    | nil => simp [memcmp] at first
    | cons y ys =>
      cases c with
      | nil => simp [memcmp] at second
      | cons z zs =>
        simp only [memcmp, Ordering.then_eq_lt, Nat.compare_eq_lt, Nat.compare_eq_eq] at *
        rcases first with below | ⟨same, rest⟩ <;> rcases second with below' | ⟨same', rest'⟩
        · exact .inl (by omega)
        · exact .inl (by omega)
        · exact .inl (by omega)
        · exact .inr ⟨by omega, ih rest rest'⟩

theorem or_fifteen_eq_iff (x y : Byte) : x ||| 15 = y ||| 15 ↔ x >>> 4 = y >>> 4 := by
  constructor
  · intro same
    apply BitVec.eq_of_getLsbD_eq
    intro ⟨i, _⟩
    have bit := congrArg (fun v => BitVec.getLsbD v (4 + i)) same
    simp only [BitVec.getLsbD_or, BitVec.getLsbD_ushiftRight] at bit ⊢
    interval_cases i <;> simp_all
  · intro same
    apply BitVec.eq_of_getLsbD_eq
    intro ⟨i, _⟩
    have bit := congrArg (fun v => BitVec.getLsbD v (i - 4)) same
    simp only [BitVec.getLsbD_or, BitVec.getLsbD_ushiftRight] at bit ⊢
    interval_cases i <;> simp_all

/-- `pbase32`, the alphabet of `EncodeBase32`. -/
def pbase32 : List Byte := ascii "abcdefghijklmnopqrstuvwxyz234567"

/-- `nPadding`: the `=` that close a last group cut short in each `mode`. -/
def nPadding (mode : Nat) : Nat := [0, 6, 4, 3, 1].getD mode 0

/-- The loop of `EncodeBase32` over the bytes left, then the padding. In `mode` the bits
`left` wait for the next byte to complete a character. -/
def encodeBase32.go (mode left : Nat) : List Byte → List Byte
  | enc :: rest =>
    match mode with
    | 0 => pbase32.getD (enc.toNat >>> 3) 0 :: go 1 ((enc.toNat &&& 7) <<< 2) rest
    | 1 =>
      pbase32.getD (left ||| enc.toNat >>> 6) 0 :: pbase32.getD ((enc.toNat >>> 1) &&& 31) 0 ::
        go 2 ((enc.toNat &&& 1) <<< 4) rest
    | 2 => pbase32.getD (left ||| enc.toNat >>> 4) 0 :: go 3 ((enc.toNat &&& 15) <<< 1) rest
    | 3 =>
      pbase32.getD (left ||| enc.toNat >>> 7) 0 :: pbase32.getD ((enc.toNat >>> 2) &&& 31) 0 ::
        go 4 ((enc.toNat &&& 3) <<< 3) rest
    | _ =>
      pbase32.getD (left ||| enc.toNat >>> 5) 0 :: pbase32.getD (enc.toNat &&& 31) 0 ::
        go 0 left rest
  | [] => if mode = 0 then [] else pbase32.getD left 0 :: List.replicate (nPadding mode) (char '=')

/-- Modelled from the spec: `EncodeBase32(pch, len)` is defined in util.cpp, which is not
among the sources. It writes RFC 4648 base32 in lower case with `=` padding, the text that
`ToStringIP` puts before ".onion". -/
def encodeBase32 (input : List Byte) : List Byte := encodeBase32.go 0 0 input

example : encodeBase32 (ascii "foobar") = ascii "mzxw6ytboi======" := by decide

namespace encodeBase32

theorem getD_mem_pbase32 {i : Nat} (small : i < 32) : pbase32.getD i 0 ∈ pbase32 := by
  rw [List.getD_eq_getElem _ _ (by simpa [pbase32, ascii] using small)]
  exact List.getElem_mem _

theorem high_lt (enc : Byte) {k : Nat} (shift : 3 ≤ k) : enc.toNat >>> k < 32 := by
  have byte := enc.isLt
  rw [Nat.shiftRight_eq_div_pow]
  have : enc.toNat / 2 ^ k ≤ enc.toNat / 2 ^ 3 :=
    Nat.div_le_div_left (Nat.pow_le_pow_right (by decide) shift) (by positivity)
  omega

theorem join_lt {left : Nat} (small : left < 32) (enc : Byte) {k : Nat} (shift : 3 ≤ k) :
    left ||| enc.toNat >>> k < 32 :=
  Nat.or_lt_two_pow (n := 5) small (high_lt enc shift)

theorem low_lt (x : Nat) : x &&& 31 < 32 := Nat.and_lt_two_pow (n := 5) x (by decide)

theorem carry_lt (enc : Byte) {m k : Nat} (fits : m * 2 ^ k < 32) :
    (enc.toNat &&& m) <<< k < 32 := by
  rw [Nat.shiftLeft_eq]
  exact lt_of_le_of_lt (Nat.mul_le_mul_right _ Nat.and_le_right) fits

theorem go_alphabet (mode left : Nat) (input : List Byte) (small : left < 32) :
    ∀ c ∈ go mode left input, c ∈ pbase32 ∨ c = char '=' := by
  induction input generalizing mode left with
  | nil =>
    simp only [go]
    split_ifs
    · simp
    · simp only [List.mem_cons, List.mem_replicate]
      rintro c (rfl | ⟨-, rfl⟩)
      · exact .inl (getD_mem_pbase32 small)
      · exact .inr rfl
  | cons enc rest ih =>
    rcases mode with _ | _ | _ | _ | mode <;> simp only [go, List.mem_cons]
    · rintro c (rfl | mem)
      · exact .inl (getD_mem_pbase32 (high_lt enc (by decide)))
      · exact ih _ _ (carry_lt enc (by decide)) c mem
    · rintro c (rfl | rfl | mem)
      · exact .inl (getD_mem_pbase32 (join_lt small enc (by decide)))
      · exact .inl (getD_mem_pbase32 (low_lt _))
      · exact ih _ _ (carry_lt enc (by decide)) c mem
    · rintro c (rfl | mem)
      · exact .inl (getD_mem_pbase32 (join_lt small enc (by decide)))
      · exact ih _ _ (carry_lt enc (by decide)) c mem
    · rintro c (rfl | rfl | mem)
      · exact .inl (getD_mem_pbase32 (join_lt small enc (by decide)))
      · exact .inl (getD_mem_pbase32 (low_lt _))
      · exact ih _ _ (carry_lt enc (by decide)) c mem
    · rintro c (rfl | rfl | mem)
      · exact .inl (getD_mem_pbase32 (join_lt small enc (by decide)))
      · exact .inl (getD_mem_pbase32 (low_lt _))
      · exact ih _ _ small c mem

end encodeBase32

theorem cstr_encodeBase32 (input : List Byte) : cstr (encodeBase32 input) = encodeBase32 input := by
  refine List.takeWhile_eq_self_iff.2 fun c mem => ?_
  rcases encodeBase32.go_alphabet 0 0 input (by decide) c mem with alphabet | rfl
  · exact decide_eq_true fun zero => absurd (zero ▸ alphabet) (by decide)
  · decide

theorem encodeBase32_ne_nil {input : List Byte} (nonempty : input ≠ []) : encodeBase32 input ≠ [] := by
  obtain ⟨enc, rest, rfl⟩ := List.exists_cons_of_ne_nil nonempty
  simp [encodeBase32, encodeBase32.go]

end Netbase
