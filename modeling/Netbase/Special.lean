import Netbase.Connect

/-! The setters that write an overlay address into a `CNetAddr` that already holds one:
`SetSpecial`, for `.onion` names and I2P names and destinations, and
`SetI2pDestination`. Each writes part of the address; what it leaves is the value's
before the call. -/

namespace Netbase

namespace CNetAddr

variable {size : Nat} (lib : Library size) (fNameLookup : Bool) (a : CNetAddr size)

/-- The destination the I2P branch of `SetSpecial` copies: a native destination as it is,
and for a `.b32.i2p` name the address book's answer or else the router's, which lookups
must be allowed to ask; `none` where `SetSpecial` returns `false` first. -/
def i2pSpecialDestination (strName : List Byte) : Option (List Byte) :=
  if lib.isValidI2pB32 strName then
    let addr := lib.getI2pBase64Destination strName
    if lib.isI2PEnabled && fNameLookup then
      let addr := if addr.length = 0 then lib.namingLookup strName else addr
      if !lib.isValidI2pAddress addr then none else some addr
    else none
  else some strName

/-- `SetSpecial(strName)`: what it returns, and the address after the call, or `none` where
`memcpy` reads past the end of the destination, whose bytes and terminating NUL are fewer
than `NATIVE_I2P_DESTINATION_SIZE`. The I2P branch writes the GarlicCat prefix and the
destination and keeps `ip[6..15]`; the `.onion` branch writes all of `ip` and keeps
`i2pDest`. -/
def setSpecial (strName : List Byte) : Option (Bool × CNetAddr size) :=
  if lib.isStringI2pDestination strName then
    match i2pSpecialDestination lib fNameLookup strName with
    | none => some (false, a)
    | some addr =>
      if copied : size ≤ addr.length + 1 then
        some (true, ⟨pchGarlicCat ++ a.ip.drop 6, (addr ++ [0]).take size,
          by simp [pchGarlicCat, a.ip_length], by simp [copied]⟩)
      else none
  else if 6 < strName.length ∧ strName.drop (strName.length - 6) = ascii ".onion" then
    let vchAddr := lib.decodeBase32 (cstr (strName.take (strName.length - 6)))
    if decoded : vchAddr.length = 16 - pchOnionCat.length then
      some (true, ⟨pchOnionCat ++ vchAddr, a.i2pDest, by simp [decoded, pchOnionCat],
        a.i2pDest_length⟩)
    else some (false, a)
  else some (false, a)

/-- `SetI2pDestination(sDestination)`: what it returns, and the address after the call. A
non-empty destination clears the address, writes the GarlicCat prefix and copies at most
`NATIVE_I2P_DESTINATION_SIZE` bytes; an empty one clears the destination buffer alone. -/
def setI2pDestination (sDestination : List Byte) : Bool × CNetAddr size :=
  let iSize := sDestination.length
  let a : CNetAddr size :=
    if iSize ≠ 0 then
      ⟨pchGarlicCat ++ List.replicate 10 0,
        sDestination.take size ++ List.replicate (size - iSize) 0, by simp [pchGarlicCat],
        by simp only [List.length_append, List.length_take, List.length_replicate]; omega⟩
    else { a with i2pDest := List.replicate size 0, i2pDest_length := List.length_replicate _ _ }
  (iSize == size && a.isNativeI2P, a)

end CNetAddr

end Netbase
