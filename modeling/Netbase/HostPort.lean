import Netbase.Bytes

/-! `SplitHostPort`: a `host:port` string cut at its last colon. The colon separates a
port only when no other colon precedes it or the host is bracketed, so that bare IPv6
literals pass through whole; the port text is read by `strtol` and narrowed to `int`. -/

namespace Netbase

/-- The last position of `c` in `s`. -/
def findLast (c : Byte) : List Byte → Option Nat
  | [] => none
  | x :: xs =>
    match findLast c xs with
    | some i => some (i + 1)
    | none => if x = c then some 0 else none

/-- `s.find_last_of(c, pos)`: the last position at or before `pos` holding `c`. The
position is `none` for `npos`, which no position of a string exceeds. -/
def findLastOf (s : List Byte) (c : Byte) : Option Nat → Option Nat
  | none => findLast c s
  | some pos => findLast c (s.take (pos + 1))

/-- `isspace` in the C locale. -/
def isSpace (c : Byte) : Bool := c = char ' ' || (9 ≤ c.toNat && c.toNat ≤ 13)

def isDigit (c : Byte) : Bool := 48 ≤ c.toNat && c.toNat ≤ 57

/-- The value of a string of decimal digits. -/
def digitsValue (digits : List Byte) : Nat := digits.foldl (fun v d => 10 * v + (d.toNat - 48)) 0

def LONG_MIN : Int := -2 ^ 63
def LONG_MAX : Int := 2 ^ 63 - 1

/-- `strtol(nptr, &endp, 10)` over the C string `s`: the value, clamped to `long`, and
`endp - nptr`, the bytes read. Leading white space and one sign are accepted; with no
digit after them nothing is read. -/
def strtol (s : List Byte) : Int × Nat :=
  let spaces := (s.takeWhile isSpace).length
  let rest := s.drop spaces
  let negative := rest.head? = some (char '-')
  let signs := if rest.head? = some (char '+') ∨ negative then 1 else 0
  let digits := (rest.drop signs).takeWhile isDigit
  if digits = [] then (0, 0)
  else
    let value : Int := if negative then -(digitsValue digits : Int) else digitsValue digits
    (max LONG_MIN (min LONG_MAX value), spaces + signs + digits.length)

/-- The `int` a `long` is narrowed to: its low 32 bits, read signed. -/
def toInt32 (v : Int) : Int := (v + 2 ^ 31) % 2 ^ 32 - 2 ^ 31

/-- `SplitHostPort(in, portOut, hostOut)`: the port it leaves in `portOut` and the host. -/
def splitHostPort (input : List Byte) (portOut : Int) : Int × List Byte :=
  let (input, portOut) :=
    match findLastOf input (char ':') none with
    | none => (input, portOut)
    | some colon =>
      let fBracketed := input.headD 0 = char '[' && input.getD (colon - 1) 0 = char ']'
      -- `colon-1` as a `size_t`: below zero it wraps to `npos`
      let fMultiColon :=
        (findLastOf input (char ':') (if colon = 0 then none else some (colon - 1))).isSome
      if colon = 0 || fBracketed || !fMultiColon then
        let text := (input.drop (colon + 1)).takeWhile (· ≠ 0)
        let (value, read) := strtol text
        let n := toInt32 value
        -- `*endp == 0`: `strtol` stopped at the terminating NUL
        if read = text.length ∧ 0 ≤ n then
          (input.take colon, if 0 < n ∧ n < 0x10000 then n else portOut)
        else (input, portOut)
      else (input, portOut)
  (portOut,
    if 0 < input.length ∧ input.headD 0 = char '[' ∧ input.getLastD 0 = char ']' then
      (input.drop 1).take (input.length - 2)
    else input)

end Netbase
