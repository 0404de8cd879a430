import Netbase.Service
import Mathlib.Data.List.Sort

/-! `AddTimeData`: the clock offset taken from the times peers report. Each address
counts once; the offsets pass through a median filter over the last 200 samples, whose
median becomes the offset when `abs64` puts it within 35 minutes. `int64_t` is
`BitVec 64`, so the subtraction and `abs64` wrap as the C code's do. -/

namespace Netbase

/-- Modelled from the spec: `abs64` is defined in util.h, which is not among the sources.
Its body there is `n >= 0 ? n : -n`; at `INT64_MIN` the negation wraps. -/
def abs64 (n : BitVec 64) : BitVec 64 := if 0 ≤ n.toInt then n else -n

/-- Modelled from the spec: `CMedianFilter<int64_t>` is declared in util.h, which is not
among the sources. It keeps the last `nSize` inputs, oldest first, and `AddTimeData` reads
their median. -/
structure CMedianFilter where
  nSize : Nat
  vValues : List (BitVec 64)
  deriving DecidableEq

namespace CMedianFilter

/-- `CMedianFilter(size, initial_value)`. -/
def init (size : Nat) (initialValue : BitVec 64) : CMedianFilter := ⟨size, [initialValue]⟩

/-- `input`: a full filter drops its oldest value first. -/
def input (f : CMedianFilter) (value : BitVec 64) : CMedianFilter :=
  { f with vValues := (if f.vValues.length = f.nSize then f.vValues.drop 1 else f.vValues) ++ [value] }

def size (f : CMedianFilter) : Nat := f.vValues.length

/-- `sorted()`: the values in ascending order, as `std::sort` leaves them. -/
def sorted (f : CMedianFilter) : List (BitVec 64) :=
  f.vValues.insertionSort fun a b => a.toInt ≤ b.toInt

/-- `median()`: the middle sorted value, or at an even size the mean of the two middle
ones, divided as C divides. -/
def median (f : CMedianFilter) : BitVec 64 :=
  if f.size % 2 = 1 then f.sorted.getD (f.size / 2) 0
  else (f.sorted.getD (f.size / 2 - 1) 0 + f.sorted.getD (f.size / 2) 0).sdiv 2

end CMedianFilter

/-- The statics and globals `AddTimeData` reads and writes. -/
structure TimeData (size : Nat) where
  setKnown : List (CNetAddr size)
  vTimeOffsets : CMedianFilter
  nTimeOffset : BitVec 64
  fDone : Bool
  strMiscWarning : String

namespace TimeData

variable {size : Nat}

/-- Start-up: no peer known, the filter seeded with one zero, no offset. -/
def init : TimeData size := ⟨[], CMedianFilter.init 200 0, 0, false, ""⟩

end TimeData

def clockWarning : String :=
  "Warning: Please check that your computer\x27s date and time are correct! If your clock is wrong Anoncoin will not work properly."

variable {size : Nat}

/-- `AddTimeData(ip, nTime)` with `GetTime()` returning `now`. `std::set<CNetAddr>`
finds a duplicate by `operator<`, whose equivalence is `operator==`. -/
def addTimeData (s : TimeData size) (ip : CNetAddr size) (nTime now : BitVec 64) : TimeData size :=
  let nOffsetSample := nTime - now
  if s.setKnown.any (·.eq ip) then s
  else
    let vTimeOffsets := s.vTimeOffsets.input nOffsetSample
    let s := { s with setKnown := ip :: s.setKnown, vTimeOffsets }
    if vTimeOffsets.size ≥ 5 ∧ vTimeOffsets.size % 2 = 1 then
      let nMedian := vTimeOffsets.median
      let vSorted := vTimeOffsets.sorted
      if (abs64 nMedian).toInt < 35 * 60 then { s with nTimeOffset := nMedian }
      else
        let s := { s with nTimeOffset := 0 }
        if !s.fDone then
          let fMatch := vSorted.any fun nOffset => nOffset ≠ 0 ∧ (abs64 nOffset).toInt < 5 * 60
          if !fMatch then { s with fDone := true, strMiscWarning := clockWarning } else s
        else s
    else s

/-- The state after peers' reports `(ip, nTime, now)` in order, from start-up. -/
def runTimeData (reports : List (CNetAddr size × BitVec 64 × BitVec 64)) : TimeData size :=
  reports.foldl (fun s report => addTimeData s report.1 report.2.1 report.2.2) TimeData.init

end Netbase
