import Netbase.Special
import Netbase.Proofs.Base32

/-! What the address setters overwrite. `SetSpecial` writes the part of the address its
branch is about and keeps the rest: after the I2P branch `ip[6..15]` is the old value's,
after the `.onion` branch the destination buffer is. So two runs on one name agree exactly
when the old values agreed on what was kept. `SetI2pDestination` clears first, and its
result is the same from every address; it returns `true` only for a destination of exactly
`NATIVE_I2P_DESTINATION_SIZE` bytes, and `GetI2pDestination` gives a destination back only at
that size: a shorter one comes back padded with NULs. For `.onion` names, `SetSpecial` and `ToStringIP`
invert each other. -/

namespace Netbase.Proofs.Setters
open CNetAddr

variable {size : Nat} (lib : Library size) (fNameLookup : Bool)

/-- The destination buffer the I2P branch of `SetSpecial` writes, whatever the address
held before. -/
def specialDestination (strName : List Byte) : List Byte :=
  ((i2pSpecialDestination lib fNameLookup strName).getD [] ++ [0]).take size

/-- The payload the `.onion` branch writes behind OnionCat. -/
def onionPayload (strName : List Byte) : List Byte :=
  lib.decodeBase32 (cstr (strName.take (strName.length - 6)))

/-- What a successful `SetSpecial` writes, and what it keeps of the address before. -/
theorem setSpecial_true {x x' : CNetAddr size} {strName : List Byte}
    (set : x.setSpecial lib fNameLookup strName = some (true, x')) :
    if lib.isStringI2pDestination strName then
      x'.ip = pchGarlicCat ++ x.ip.drop 6 ∧ x'.i2pDest = specialDestination lib fNameLookup strName
    else x'.ip = pchOnionCat ++ onionPayload lib strName ∧ x'.i2pDest = x.i2pDest := by
  unfold setSpecial at set
  split at set
  · rename_i i2p
    rw [if_pos i2p]
    split at set
    · cases set
    · rename_i addr found
      split at set
      · cases set
        simp [specialDestination, found]
      · cases set
  · rename_i other
    rw [if_neg other]
    split at set
    · dsimp only at set
      split at set
      · cases set
        exact ⟨rfl, rfl⟩
      · cases set
    · cases set

theorem setI2pDestination_written (x : CNetAddr size) {sDestination : List Byte}
    (nonempty : sDestination ≠ []) :
    (x.setI2pDestination sDestination).2.ip = pchGarlicCat ++ List.replicate 10 0 ∧
      (x.setI2pDestination sDestination).2.i2pDest =
        sDestination.take size ++ List.replicate (size - sDestination.length) 0 := by
  simp [setI2pDestination, nonempty]

theorem setI2pDestination_fst (x : CNetAddr size) (sDestination : List Byte) :
    (x.setI2pDestination sDestination).1 =
      (sDestination.length == size && (x.setI2pDestination sDestination).2.isNativeI2P) := rfl

/-- `SetI2pDestination` returns `true` exactly for a destination of the buffer's size that
leaves a valid I2P address. -/
theorem setI2pDestination_returns (x : CNetAddr size) (sDestination : List Byte) :
    (x.setI2pDestination sDestination).1 ↔
      sDestination.length = size ∧ (x.setI2pDestination sDestination).2.isI2P ∧
        (x.setI2pDestination sDestination).2.isValid := by
  rw [setI2pDestination_fst]
  by_cases empty : sDestination = []
  · subst empty
    have cleared : (x.setI2pDestination []).2.isNativeI2P = false :=
      isNativeI2P_of_cleared (by simp [setI2pDestination])
    simp only [isValid, cleared, Bool.and_false, Bool.false_eq_true, false_iff, not_and]
    intro _ i2p
    simp [i2p]
  · have i2p : (x.setI2pDestination sDestination).2.isI2P := by
      simp [isI2P, (setI2pDestination_written x empty).1, pchGarlicCat]
    simp [isValid, i2p]

private theorem setI2pDestination_valid_length (x : CNetAddr size) (sDestination : List Byte)
    (i2p : (x.setI2pDestination sDestination).2.isI2P)
    (valid : (x.setI2pDestination sDestination).2.isValid) :
    sDestination.length = size ∨
      size < sDestination.length ∧ (sDestination.take size).drop (size - 4) = ascii "AAAA" := by
  have native : (x.setI2pDestination sDestination).2.isNativeI2P := by
    simpa [isValid, i2p] using valid
  by_cases empty : sDestination = []
  · subst empty
    have cleared : (x.setI2pDestination []).2.i2pDest = List.replicate size 0 := by
      simp [setI2pDestination]
    simp [isNativeI2P_of_cleared cleared] at native
  · simp only [isNativeI2P, (setI2pDestination_written x empty).2, beq_iff_eq] at native
    rcases Nat.lt_trichotomy sDestination.length size with short | same | long
    · -- A shorter destination leaves a NUL at the end of the buffer.
      obtain ⟨k, padding⟩ : ∃ k, size - sDestination.length = k + 1 :=
        ⟨size - sDestination.length - 1, by omega⟩
      have nul : [(0 : Byte)] <:+ ascii "AAAA" := by
        rw [← native]
        refine List.suffix_of_suffix_length_le ?_ (List.drop_suffix _ _) (by rw [native]; decide)
        rw [padding, List.replicate_succ']
        exact (List.suffix_append _ _).trans (List.suffix_append _ _)
      exact absurd nul (by decide)
    · exact .inl same
    · refine .inr ⟨long, ?_⟩
      rwa [Nat.sub_eq_zero_of_le long.le, List.replicate_zero, List.append_nil] at native

/-- The setters overwrite what their branch writes and keep the rest. Two runs of
`SetSpecial` on one name agree afterwards exactly when the addresses agreed on what the
branch keeps: `ip[6..15]` after an I2P name, the destination buffer after an `.onion` name.
Two runs of `SetI2pDestination` on one non-empty destination always agree, and it returns
`true` exactly when the address left satisfies `IsI2P` and `IsValid`, for every destination
but a longer one whose first `NATIVE_I2P_DESTINATION_SIZE` bytes end in `AAAA`. -/
theorem setters_overwrite :
    (∀ (x y x' y' : CNetAddr size) strName,
      x.setSpecial lib fNameLookup strName = some (true, x') →
      y.setSpecial lib fNameLookup strName = some (true, y') →
      (x'.eq y' ↔
        if lib.isStringI2pDestination strName then x.ip.drop 6 = y.ip.drop 6
        else x.i2pDest = y.i2pDest)) ∧
    (∀ (x y : CNetAddr size) sDestination, sDestination ≠ [] →
      (x.setI2pDestination sDestination).2.eq (y.setI2pDestination sDestination).2) ∧
    ∀ (x : CNetAddr size) sDestination,
      (size < sDestination.length → (sDestination.take size).drop (size - 4) ≠ ascii "AAAA") →
      ((x.setI2pDestination sDestination).1 ↔
        (x.setI2pDestination sDestination).2.isI2P ∧ (x.setI2pDestination sDestination).2.isValid) := by
  refine ⟨fun x y x' y' strName setX setY => ?_, fun x y sDestination nonempty => ?_,
    fun x sDestination unlike => ?_⟩
  · have writtenX := setSpecial_true lib fNameLookup setX
    have writtenY := setSpecial_true lib fNameLookup setY
    rw [eq_iff]
    split_ifs at writtenX writtenY ⊢ <;> rw [writtenX.1, writtenY.1, writtenX.2, writtenY.2] <;> simp
  · obtain ⟨ipX, destX⟩ := setI2pDestination_written x nonempty
    obtain ⟨ipY, destY⟩ := setI2pDestination_written y nonempty
    exact eq_iff.2 ⟨ipX.trans ipY.symm, destX.trans destY.symm⟩
  · rw [setI2pDestination_returns]
    refine ⟨fun returned => returned.2, fun ⟨i2p, valid⟩ => ?_⟩
    rcases setI2pDestination_valid_length x sDestination i2p valid with same | ⟨long, ending⟩
    · exact ⟨same, i2p, valid⟩
    · exact absurd ending (unlike long)

/-- `GetI2pDestination` after `SetI2pDestination(sDestination)`, from any address: the
destination cut or padded with NULs to the buffer's size, or the empty string where it
starts with a NUL. So it gives the destination back exactly when that is empty, or has
the buffer's size and no leading NUL; a shorter destination comes back with trailing
NULs. -/
theorem getI2pDestination_setI2pDestination (x : CNetAddr size) (sDestination : List Byte) :
    (x.setI2pDestination sDestination).2.getI2pDestination =
        (if sDestination.headD 0 = 0 then []
          else sDestination.take size ++ List.replicate (size - sDestination.length) 0) ∧
      ((x.setI2pDestination sDestination).2.getI2pDestination = sDestination ↔
        sDestination = [] ∨ sDestination.length = size ∧ sDestination.headD 0 ≠ 0) := by
  rcases sDestination with _ | ⟨d, rest⟩
  · have cleared : (x.setI2pDestination []).2.i2pDest = List.replicate size 0 := by
      simp [setI2pDestination]
    have empty : (x.setI2pDestination []).2.getI2pDestination = [] := by
      cases size <;> simp [getI2pDestination, cleared, List.replicate_succ]
    simp [empty]
  · have buffer := (setI2pDestination_written x (List.cons_ne_nil d rest)).2
    have long : (d :: rest).take size ++ List.replicate (size - (d :: rest).length) 0 ≠ d :: rest ∨
        (d :: rest).length = size := by
      by_cases fits : (d :: rest).length = size
      · exact .inr fits
      · refine .inl fun same => fits ?_
        have := congrArg List.length same
        simp only [List.length_append, List.length_take, List.length_replicate] at this
        omega
    cases size with
    | zero => simp [getI2pDestination, buffer]
    | succ n =>
      have get : (x.setI2pDestination (d :: rest)).2.getI2pDestination =
          if d = 0 then []
          else (d :: rest).take (n + 1) ++ List.replicate (n + 1 - (d :: rest).length) 0 := by
        have head : (x.setI2pDestination (d :: rest)).2.i2pDest.headD 0 = d := by
          rw [buffer]
          rfl
        unfold getI2pDestination
        rw [head, buffer]
        by_cases lead : d = 0 <;> simp [lead]
      refine ⟨get, ?_⟩
      rw [get]
      by_cases lead : d = 0
      · simp [lead]
      · rw [if_neg lead]
        refine ⟨fun same => .inr ⟨long.resolve_left (not_not.2 same), lead⟩, ?_⟩
        rintro (nil | ⟨fits, -⟩)
        · cases nil
        · rw [← fits, List.take_length, Nat.sub_self, List.replicate_zero, List.append_nil]

/-- A library for `.onion` names: util's `DecodeBase32`, and no name an I2P one. -/
def onionLibrary (size : Nat) : Library size where
  setSpecial _ := none
  isStringI2pDestination _ := false
  isValidI2pB32 _ := false
  isValidI2pAddress _ := false
  getI2pBase64Destination _ := []
  isI2PEnabled := false
  namingLookup _ := []
  decodeBase32 := Base32.decodeBase32
  inetPton4 _ := none
  inetPton6 _ := none
  b32AddressFromDestination _ := []
  getnameinfo _ := none

theorem onionLibrary_decodes (size : Nat) (payload : List Byte) (ten : payload.length = 10) :
    (onionLibrary size).decodeBase32 (encodeBase32 payload) = payload :=
  Base32.decodeBase32_encodeBase32 2 payload ten

section Onion

variable {lib}
variable (decodes : ∀ payload : List Byte, payload.length = 10 →
    lib.decodeBase32 (encodeBase32 payload) = payload)
  (notI2p : ∀ s, lib.isStringI2pDestination (s ++ ascii ".onion") = false)

include decodes notI2p

theorem setSpecial_onion (x : CNetAddr size) {payload : List Byte} (ten : payload.length = 10) :
    ∃ b : CNetAddr size,
      x.setSpecial lib fNameLookup (encodeBase32 payload ++ ascii ".onion") = some (true, b) ∧
        b.ip = pchOnionCat ++ payload ∧ b.i2pDest = x.i2pDest := by
  have written := (encodeBase32_ne_nil (List.ne_nil_of_length_pos (by omega) : payload ≠ []))
  have text : (encodeBase32 payload ++ ascii ".onion").length - 6 = (encodeBase32 payload).length := by
    simp [ascii]
  have long : 6 < (encodeBase32 payload ++ ascii ".onion").length := by
    have := List.length_pos.2 written
    simp [ascii]
    omega
  unfold setSpecial
  simp only [notI2p, Bool.false_eq_true, if_false, long, text, List.drop_left, List.take_left,
    cstr_encodeBase32, decodes payload ten, true_and, if_true]
  rw [dif_pos (by simp [ten, pchOnionCat])]
  exact ⟨_, rfl, rfl, rfl⟩

omit decodes notI2p in
theorem toStringIP_tor {a : CNetAddr size} (tor : a.isTor) :
    toStringIP lib a = encodeBase32 ((a.ip.drop 6).take 10) ++ ascii ".onion" := by
  simp [toStringIP, a.isTor_not_isI2P tor, tor]

/-- `.onion` names and Tor addresses, one the other's text. The name of every ten-byte
payload sets a fresh address to the Tor address of that payload, whose text is the name;
and the text of every Tor address with a cleared destination buffer sets a fresh address
equal to it. -/
theorem setSpecial_toStringIP_onion :
    (∀ payload : List Byte, payload.length = 10 → ∃ a : CNetAddr size,
      CNetAddr.init.setSpecial lib fNameLookup (encodeBase32 payload ++ ascii ".onion") =
          some (true, a) ∧
        a.isTor ∧ a.ip.drop 6 = payload ∧ toStringIP lib a = encodeBase32 payload ++ ascii ".onion") ∧
    ∀ a : CNetAddr size, a.isTor → a.i2pDest = List.replicate size 0 →
      ∃ b : CNetAddr size,
        CNetAddr.init.setSpecial lib fNameLookup (toStringIP lib a) = some (true, b) ∧ b.eq a := by
  refine ⟨fun payload ten => ?_, fun a tor cleared => ?_⟩
  · obtain ⟨b, set, ip, -⟩ := setSpecial_onion fNameLookup decodes notI2p CNetAddr.init ten
    have tor : b.isTor := by simp [isTor, ip, pchOnionCat]
    refine ⟨b, set, tor, by simp [ip, pchOnionCat], ?_⟩
    rw [toStringIP_tor tor, ip, List.drop_left' (show pchOnionCat.length = 6 from rfl),
      List.take_of_length_le (by omega)]
  · have rest : (a.ip.drop 6).length = 10 := by simp [a.ip_length]
    obtain ⟨b, set, ip, dest⟩ := setSpecial_onion fNameLookup decodes notI2p CNetAddr.init
      ((List.take_of_length_le rest.le).symm ▸ rest)
    have prefixed : a.ip.take 6 = pchOnionCat := by simpa [isTor] using tor
    refine ⟨b, toStringIP_tor tor ▸ set, eq_iff.2 ⟨?_, dest.trans cleared.symm⟩⟩
    rw [ip, List.take_of_length_le rest.le, ← prefixed, List.take_append_drop]

end Onion

/-- The hypotheses hold of util's `DecodeBase32` and of a library that reads no `.onion`
name as an I2P one. -/
theorem setSpecial_toStringIP_onion_util :
    (∀ payload : List Byte, payload.length = 10 →
      (onionLibrary 516).decodeBase32 (encodeBase32 payload) = payload) ∧
    (∀ s, (onionLibrary 516).isStringI2pDestination (s ++ ascii ".onion") = false) ∧
    (∀ payload : List Byte, payload.length = 10 → ∃ a : CNetAddr 516,
      CNetAddr.init.setSpecial (onionLibrary 516) false (encodeBase32 payload ++ ascii ".onion") =
          some (true, a) ∧
        a.isTor ∧ a.ip.drop 6 = payload ∧
          toStringIP (onionLibrary 516) a = encodeBase32 payload ++ ascii ".onion") ∧
    ∀ a : CNetAddr 516, a.isTor → a.i2pDest = List.replicate 516 0 →
      ∃ b : CNetAddr 516,
        CNetAddr.init.setSpecial (onionLibrary 516) false (toStringIP (onionLibrary 516) a) =
          some (true, b) ∧ b.eq a :=
  ⟨onionLibrary_decodes 516, fun _ => rfl,
    setSpecial_toStringIP_onion false (onionLibrary_decodes 516) fun _ => rfl⟩

theorem keep_stale_bytes_of_size (n : Nat) :
    ∃ x' y' : CNetAddr (n + 4),
      CNetAddr.init.setSpecial (onionLibrary (n + 4)) false
          (encodeBase32 (List.replicate 10 0) ++ ascii ".onion") = some (true, x') ∧
      (⟨List.replicate 16 0, 1 :: List.replicate (n + 3) 0, List.length_replicate _ _, by simp⟩ :
          CNetAddr (n + 4)).setSpecial (onionLibrary (n + 4)) false
          (encodeBase32 (List.replicate 10 0) ++ ascii ".onion") = some (true, y') ∧
      x'.eq y' = false := by
  obtain ⟨x', fresh, -, cleared⟩ := setSpecial_onion false (onionLibrary_decodes (n + 4))
    (fun _ => rfl) CNetAddr.init (List.length_replicate 10 0)
  obtain ⟨y', stale, -, kept⟩ := setSpecial_onion false (onionLibrary_decodes (n + 4))
    (fun _ => rfl) ⟨List.replicate 16 0, 1 :: List.replicate (n + 3) 0, List.length_replicate _ _,
      by simp⟩ (List.length_replicate 10 0)
  refine ⟨x', y', fresh, stale, Bool.eq_false_iff.2 fun same => ?_⟩
  have buffers := (eq_iff.1 same).2
  rw [cleared, kept] at buffers
  simp [CNetAddr.init, List.replicate_succ] at buffers

/-- The same at `NATIVE_I2P_DESTINATION_SIZE`, 516 bytes. -/
theorem setters_keep_stale_bytes :
    ∃ x' y' : CNetAddr 516,
      CNetAddr.init.setSpecial (onionLibrary 516) false
          (encodeBase32 (List.replicate 10 0) ++ ascii ".onion") = some (true, x') ∧
      (⟨List.replicate 16 0, 1 :: List.replicate 515 0, List.length_replicate _ _,
        by rw [List.length_cons, List.length_replicate]⟩ :
          CNetAddr 516).setSpecial (onionLibrary 516) false
          (encodeBase32 (List.replicate 10 0) ++ ascii ".onion") = some (true, y') ∧
      x'.eq y' = false :=
  keep_stale_bytes_of_size 512

private theorem refuses_long_of_size (n : Nat) :
    ((CNetAddr.init : CNetAddr (n + 4)).setI2pDestination
      (List.replicate (n + 5) (char 'A'))).1 = false ∧
    ((CNetAddr.init : CNetAddr (n + 4)).setI2pDestination
      (List.replicate (n + 5) (char 'A'))).2.isI2P ∧
    ((CNetAddr.init : CNetAddr (n + 4)).setI2pDestination
      (List.replicate (n + 5) (char 'A'))).2.isValid := by
  have nonempty : List.replicate (n + 5) (char 'A') ≠ [] := by simp
  have native : ((CNetAddr.init : CNetAddr (n + 4)).setI2pDestination
      (List.replicate (n + 5) (char 'A'))).2.isNativeI2P := by
    simp [isNativeI2P, (setI2pDestination_written _ nonempty).2, List.take_replicate,
      List.drop_replicate, ascii]
  have i2p : ((CNetAddr.init : CNetAddr (n + 4)).setI2pDestination
      (List.replicate (n + 5) (char 'A'))).2.isI2P := by
    simp [isI2P, (setI2pDestination_written _ nonempty).1, pchGarlicCat]
  exact ⟨by simp [setI2pDestination_fst], i2p, by simp [isValid, i2p, native]⟩

/-- A destination of 517 `A`s leaves a valid I2P address, yet `SetI2pDestination` returns
`false`. -/
theorem setI2pDestination_refuses_long :
    ((CNetAddr.init : CNetAddr 516).setI2pDestination (List.replicate 517 (char 'A'))).1 = false ∧
    ((CNetAddr.init : CNetAddr 516).setI2pDestination (List.replicate 517 (char 'A'))).2.isI2P ∧
    ((CNetAddr.init : CNetAddr 516).setI2pDestination (List.replicate 517 (char 'A'))).2.isValid :=
  refuses_long_of_size 512

end Netbase.Proofs.Setters
