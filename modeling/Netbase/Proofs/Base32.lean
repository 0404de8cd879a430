import Netbase.Bytes

/-! `DecodeBase32` of util reads back what `EncodeBase32` writes. The decoder is not among
the sources and the model leaves it to the library; it is written out here after util, so
that the round trip `SetSpecial` relies on can be shown to hold of it. Five bytes make
eight characters and back, and the bit surgery of both loops cancels. -/

namespace Netbase.Proofs.Base32

/-- `decode32_table`: the value of a base-32 character of either case, `-1` for others. -/
def decode32 (c : Byte) : Option Nat :=
  if 97 ≤ c.toNat ∧ c.toNat ≤ 122 then some (c.toNat - 97)
  else if 65 ≤ c.toNat ∧ c.toNat ≤ 90 then some (c.toNat - 65)
  else if 50 ≤ c.toNat ∧ c.toNat ≤ 55 then some (c.toNat - 24)
  else none

/-- The loop of `DecodeBase32`, up to the first character outside the alphabet: in `mode`
the bits `left` wait for the next character to complete a byte. -/
def decodeBase32.go (mode left : Nat) : List Byte → List Byte
  | c :: rest =>
    match decode32 c with
    | none => []
    | some dec =>
      match mode with
      | 0 => go 1 dec rest
      | 1 => BitVec.ofNat 8 (left <<< 3 ||| dec >>> 2) :: go 2 (dec &&& 3) rest
      | 2 => go 3 (left <<< 5 ||| dec) rest
      | 3 => BitVec.ofNat 8 (left <<< 1 ||| dec >>> 4) :: go 4 (dec &&& 15) rest
      | 4 => BitVec.ofNat 8 (left <<< 4 ||| dec >>> 1) :: go 5 (dec &&& 1) rest
      | 5 => go 6 (left <<< 5 ||| dec) rest
      | 6 => BitVec.ofNat 8 (left <<< 2 ||| dec >>> 3) :: go 7 (dec &&& 7) rest
      | _ => BitVec.ofNat 8 (left <<< 5 ||| dec) :: go 0 left rest
  | [] => []

/-- `DecodeBase32(p)` of a C string. -/
def decodeBase32 (p : List Byte) : List Byte := decodeBase32.go 0 0 p

example : decodeBase32 (ascii "mzxw6ytboi======") = ascii "foobar" := by decide

theorem decode32_pbase32 {i : Nat} (small : i < 32) : decode32 (pbase32.getD i 0) = some i := by
  interval_cases i <;> rfl

section Bits

theorem or_mul (a : Nat) {b k : Nat} (small : b < 2 ^ k) : a * 2 ^ k ||| b = a * 2 ^ k + b := by
  rw [Nat.mul_comm]
  exact (Nat.mul_add_lt_is_or small a).symm

theorem and_one (x : Nat) : x &&& 1 = x % 2 ^ 1 := Nat.and_pow_two_sub_one_eq_mod x 1
theorem and_three (x : Nat) : x &&& 3 = x % 2 ^ 2 := Nat.and_pow_two_sub_one_eq_mod x 2
theorem and_seven (x : Nat) : x &&& 7 = x % 2 ^ 3 := Nat.and_pow_two_sub_one_eq_mod x 3
theorem and_fifteen (x : Nat) : x &&& 15 = x % 2 ^ 4 := Nat.and_pow_two_sub_one_eq_mod x 4
theorem and_thirtyOne (x : Nat) : x &&& 31 = x % 2 ^ 5 := Nat.and_pow_two_sub_one_eq_mod x 5

theorem join_div (a : Nat) {b k : Nat} (small : b < 2 ^ k) : (a * 2 ^ k + b) / 2 ^ k = a := by
  rw [Nat.mul_comm, Nat.mul_add_div (Nat.two_pow_pos k), Nat.div_eq_of_lt small, Nat.add_zero]

theorem join_mod (a : Nat) {b k : Nat} (small : b < 2 ^ k) : (a * 2 ^ k + b) % 2 ^ k = b := by
  rw [Nat.mul_add_mod', Nat.mod_eq_of_lt small]

end Bits

theorem encode_mode_zero (left : Nat) (input : List Byte) :
    encodeBase32.go 0 left input = encodeBase32.go 0 0 input := by
  cases input <;> rfl

theorem decode_mode_zero (left : Nat) (p : List Byte) :
    decodeBase32.go 0 left p = decodeBase32.go 0 0 p := by
  cases p <;> rfl

theorem decode_encode_group (b₀ b₁ b₂ b₃ b₄ : Byte) (rest : List Byte) (left : Nat) :
    decodeBase32.go 0 0 (encodeBase32.go 0 left (b₀ :: b₁ :: b₂ :: b₃ :: b₄ :: rest)) =
      b₀ :: b₁ :: b₂ :: b₃ :: b₄ :: decodeBase32.go 0 0 (encodeBase32.go 0 0 rest) := by
  have h₀ : b₀.toNat < 256 := b₀.isLt
  have h₁ : b₁.toNat < 256 := b₁.isLt
  have h₂ : b₂.toNat < 256 := b₂.isLt
  have h₃ : b₃.toNat < 256 := b₃.isLt
  have h₄ : b₄.toNat < 256 := b₄.isLt
  simp only [encodeBase32.go, encode_mode_zero]
  simp (disch := omega) only [Nat.shiftRight_eq_div_pow, Nat.shiftLeft_eq, and_one, and_three,
    and_seven, and_fifteen, and_thirtyOne, or_mul, join_div, join_mod, decode32_pbase32, decodeBase32.go]
  rw [decode_mode_zero]
  simp only [List.cons.injEq, and_true]
  refine ⟨?_, ?_, ?_, ?_, ?_⟩ <;> apply BitVec.eq_of_toNat_eq <;> simp only [BitVec.toNat_ofNat] <;>
    omega

/-- Whole groups of five bytes come back as they were. -/
theorem decodeBase32_encodeBase32 (n : Nat) (input : List Byte) (groups : input.length = 5 * n) :
    decodeBase32 (encodeBase32 input) = input := by
  induction n generalizing input with
  | zero => simp_all [encodeBase32, decodeBase32, encodeBase32.go, decodeBase32.go]
  | succ n ih =>
    match input, groups with
    | b₀ :: b₁ :: b₂ :: b₃ :: b₄ :: rest, groups =>
      rw [encodeBase32, decodeBase32, decode_encode_group]
      exact congrArg (b₀ :: b₁ :: b₂ :: b₃ :: b₄ :: ·) (ih rest (by simp at groups; omega))

end Netbase.Proofs.Base32
