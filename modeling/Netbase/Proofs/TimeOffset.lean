import Netbase.TimeData

/-! The offset `AddTimeData` adopts lies within 35 minutes of the local clock, or it is
`INT64_MIN`: `abs64` wraps there, so a median of `INT64_MIN` passes the guard. Three
peers that report `now + INT64_MIN` make the median so. -/

namespace Netbase.Proofs.TimeOffset

variable {size : Nat}

/-- The offsets `AddTimeData` can leave: within 35 minutes, or `INT64_MIN`. -/
def OffsetBound (offset : BitVec 64) : Prop :=
  offset = BitVec.intMin 64 ∨ offset.toInt.natAbs < 35 * 60

theorem abs64_guard {n : BitVec 64} (small : (abs64 n).toInt < 35 * 60) : OffsetBound n := by
  unfold abs64 at small
  split_ifs at small with nonneg
  · exact .inr (by omega)
  · by_cases least : n = BitVec.intMin 64
    · exact .inl least
    · rw [BitVec.toInt_neg_of_ne_intMin least] at small
      exact .inr (by omega)

/-- How one call can change the offset: not at all, to zero, or to a median that passed
the guard. -/
theorem addTimeData_nTimeOffset (s : TimeData size) (ip : CNetAddr size) (nTime now : BitVec 64) :
    (addTimeData s ip nTime now).nTimeOffset = s.nTimeOffset ∨
      (addTimeData s ip nTime now).nTimeOffset = 0 ∨
      (abs64 (addTimeData s ip nTime now).nTimeOffset).toInt < 35 * 60 := by
  unfold addTimeData
  dsimp only
  split_ifs <;> simp_all

theorem addTimeData_bound (s : TimeData size) (ip : CNetAddr size) (nTime now : BitVec 64)
    (bound : OffsetBound s.nTimeOffset) : OffsetBound (addTimeData s ip nTime now).nTimeOffset := by
  rcases addTimeData_nTimeOffset s ip nTime now with same | zero | guard
  · exact same ▸ bound
  · exact .inr (by simp [zero])
  · exact abs64_guard guard

/-- Whatever the peers report, the offset stays within 35 minutes or is `INT64_MIN`. -/
theorem runTimeData_offset_bound (reports : List (CNetAddr size × BitVec 64 × BitVec 64)) :
    OffsetBound (runTimeData reports).nTimeOffset := by
  suffices ∀ (s : TimeData size), OffsetBound s.nTimeOffset → OffsetBound
      (reports.foldl (fun s report => addTimeData s report.1 report.2.1 report.2.2) s).nTimeOffset from
    this _ (.inr (by simp [TimeData.init]))
  induction reports with
  | nil => exact fun _ bound => bound
  | cons report reports ih => exact fun s bound => ih _ (addTimeData_bound _ _ _ _ bound)

/-- A peer at `10.0.0.k`. -/
def peer (k : Byte) : CNetAddr 0 := CNetAddr.ofInAddr ⟨[10, 0, 0, k], rfl⟩

/-- Four peers, three of them reporting `now + INT64_MIN`: the median of the five
samples is `INT64_MIN`, `abs64` leaves it negative, and it becomes the offset. -/
theorem runTimeData_offset_int64_min :
    (runTimeData [(peer 1, BitVec.intMin 64, 0), (peer 2, BitVec.intMin 64, 0),
      (peer 3, BitVec.intMin 64, 0), (peer 4, 0, 0)]).nTimeOffset.toInt = -2 ^ 63 := by
  decide

end Netbase.Proofs.TimeOffset
