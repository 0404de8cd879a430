import Netbase.Proofs.TimeOffset
import Mathlib.Data.List.DropRight
import Mathlib.Data.List.GetD

/-! Which reports `AddTimeData` counts, over whole runs. Each address counts once, with
the first time it sent: the known set is the addresses heard from, and the filter holds
the start-up zero and the samples of first reports, the last 200 of them. A repeated
address changes nothing, the offset is always zero or a sample a peer sent, and a median
of the samples the filter held when it was set, and fewer than four addresses never move
it. The clock warning goes up at the first report from a
new address that leaves the filter alarming, and is never taken back. -/

namespace Netbase.Proofs.TimeSamples
open TimeOffset

variable {size : Nat}

/-- A peer's report: its address, the time it sent, and `GetTime()` on arrival. -/
abbrev Report (size : Nat) := CNetAddr size × BitVec 64 × BitVec 64

/-- The sample a report gives, `nTime - GetTime()`. -/
def offset (report : Report size) : BitVec 64 := report.2.1 - report.2.2

/-- The reports that should count, oldest first: the first from each address. -/
def firstReports (reports : List (Report size)) : List (Report size) :=
  (reports.reverse.pwFilter fun r r' => r.1 ≠ r'.1).reverse

section Spec

private theorem distinct_split {x y z : Report size} (distinct : x.1 ≠ z.1) :
    x.1 ≠ y.1 ∨ y.1 ≠ z.1 := by
  by_cases same : x.1 = y.1
  · exact .inr (same ▸ distinct)
  · exact .inl same

theorem mem_firstReports_fst {reports : List (Report size)} {ip : CNetAddr size} :
    ip ∈ (firstReports reports).map Prod.fst ↔ ip ∈ reports.map Prod.fst := by
  have kept := @List.forall_mem_pwFilter _ (fun r r' : Report size => r.1 ≠ r'.1) _
    distinct_split (ip, 0, 0) reports.reverse
  simp only [firstReports, List.map_reverse, List.mem_reverse, List.mem_map]
  constructor
  · rintro ⟨r, mem, rfl⟩
    exact ⟨r, List.mem_reverse.1 (List.pwFilter_subset _ mem), rfl⟩
  · rintro ⟨r, mem, rfl⟩
    by_contra absent
    exact kept.1 (fun b inside same => absent ⟨b, inside, same.symm⟩) r
      (List.mem_reverse.2 mem) rfl

theorem firstReports_append (reports : List (Report size)) (report : Report size) :
    firstReports (reports ++ [report]) =
      if report.1 ∈ reports.map Prod.fst then firstReports reports
      else firstReports reports ++ [report] := by
  have fresh := @List.forall_mem_pwFilter _ (fun r r' : Report size => r.1 ≠ r'.1) _
    distinct_split report reports.reverse
  simp only [firstReports, List.reverse_append, List.reverse_singleton, List.singleton_append]
  split_ifs with heard
  · obtain ⟨r, mem, same⟩ := List.mem_map.1 heard
    rw [List.pwFilter_cons_of_neg fun all => fresh.1 all r (List.mem_reverse.2 mem) same.symm]
  · rw [List.pwFilter_cons_of_pos, List.reverse_cons]
    exact fresh.2 fun r mem same => heard (List.mem_map.2 ⟨r, List.mem_reverse.1 mem, same.symm⟩)

theorem firstReports_length_le (reports : List (Report size)) :
    (firstReports reports).length ≤ reports.length := by
  simpa [firstReports] using (List.pwFilter_sublist reports.reverse).length_le

theorem firstReports_sublist (reports : List (Report size)) (report : Report size) :
    firstReports reports <+: firstReports (reports ++ [report]) := by
  rw [firstReports_append]
  split_ifs
  · exact List.prefix_refl _
  · exact List.prefix_append _ _

end Spec

section Step

theorem eq_iff {a b : CNetAddr size} : a.eq b ↔ a = b :=
  CNetAddr.eq_iff.trans ⟨fun ⟨ip, dest⟩ => CNetAddr.ext a ip dest, fun same => same ▸ ⟨rfl, rfl⟩⟩

theorem known_iff (known : List (CNetAddr size)) (ip : CNetAddr size) :
    known.any (·.eq ip) ↔ ip ∈ known := by
  simp [eq_iff]

theorem addTimeData_known {s : TimeData size} {ip : CNetAddr size} (known : ip ∈ s.setKnown)
    (nTime now : BitVec 64) : addTimeData s ip nTime now = s := by
  simp [addTimeData, (known_iff _ ip).2 known]

theorem addTimeData_fresh {s : TimeData size} {ip : CNetAddr size} (fresh : ip ∉ s.setKnown)
    (nTime now : BitVec 64) :
    (addTimeData s ip nTime now).setKnown = ip :: s.setKnown ∧
      (addTimeData s ip nTime now).vTimeOffsets = s.vTimeOffsets.input (nTime - now) := by
  have unknown : s.setKnown.any (·.eq ip) = false :=
    Bool.eq_false_iff.2 fun known => fresh ((known_iff _ ip).1 known)
  unfold addTimeData
  simp only [unknown, Bool.false_eq_true, if_false]
  split_ifs <;> exact ⟨rfl, rfl⟩

/-- How one call leaves the offset and `fDone`: as they were, or, where the filter has
reached an odd count of five or more, the offset at the median or at zero. -/
def Settles (s s' : TimeData size) : Prop :=
  s'.nTimeOffset = s.nTimeOffset ∧ s'.fDone = s.fDone ∨
    5 ≤ s'.vTimeOffsets.size ∧ s'.vTimeOffsets.size % 2 = 1 ∧
      (s'.nTimeOffset = s'.vTimeOffsets.median ∨ s'.nTimeOffset = 0)

theorem addTimeData_settles (s : TimeData size) (ip : CNetAddr size) (nTime now : BitVec 64) :
    Settles s (addTimeData s ip nTime now) := by
  unfold addTimeData Settles
  dsimp only
  split_ifs with known odd
  · exact .inl ⟨rfl, rfl⟩
  · exact .inr ⟨odd.1, odd.2, .inl rfl⟩
  all_goals first
    | exact .inr ⟨odd.1, odd.2, .inr rfl⟩
    | exact .inl ⟨rfl, rfl⟩

theorem input_rtake (n : Nat) (values : List (BitVec 64)) (value : BitVec 64) :
    CMedianFilter.input ⟨n + 1, values.rtake (n + 1)⟩ value =
      ⟨n + 1, (values ++ [value]).rtake (n + 1)⟩ := by
  simp only [CMedianFilter.input, List.rtake_concat_succ, CMedianFilter.mk.injEq, true_and,
    List.append_left_inj]
  simp only [List.rtake, List.length_drop]
  split_ifs with full
  · rw [List.drop_drop]
    congr 1
    omega
  · congr 1
    omega

private theorem rtake_subset (values : List (BitVec 64)) (n : Nat) : values.rtake n ⊆ values :=
  List.drop_subset _ _

theorem median_mem {f : CMedianFilter} (odd : f.size % 2 = 1) : f.median ∈ f.vValues := by
  have inside : f.size / 2 < f.sorted.length := by
    rw [CMedianFilter.sorted, List.length_insertionSort]
    unfold CMedianFilter.size at odd ⊢
    omega
  simp only [CMedianFilter.median, odd, if_true, List.getD_eq_getElem _ _ inside]
  exact (List.perm_insertionSort _ _).subset (List.getElem_mem inside)

/-- A median of some values: one of them, with fewer than half of them strictly below it
and fewer than half strictly above. -/
def IsMedian (values : List (BitVec 64)) (m : BitVec 64) : Prop :=
  m ∈ values ∧ 2 * values.countP (fun v => v.toInt < m.toInt) < values.length ∧
    2 * values.countP (fun v => m.toInt < v.toInt) < values.length

private theorem sorted_sorted (f : CMedianFilter) : f.sorted.Sorted fun a b => a.toInt ≤ b.toInt := by
  haveI : IsTotal (BitVec 64) fun a b => a.toInt ≤ b.toInt := ⟨fun a b => le_total _ _⟩
  haveI : IsTrans (BitVec 64) fun a b => a.toInt ≤ b.toInt := ⟨fun _ _ _ => le_trans⟩
  exact List.sorted_insertionSort _ _

private theorem middle_counts {l : List (BitVec 64)} (sorted : l.Sorted fun a b => a.toInt ≤ b.toInt)
    {k : Nat} (middle : k < l.length) :
    l.countP (fun v => v.toInt < l[k].toInt) ≤ k ∧
      l.countP (fun v => l[k].toInt < v.toInt) ≤ l.length - (k + 1) := by
  have split : ∀ (n : Nat) (p : BitVec 64 → Bool), l.countP p = (l.take n).countP p + (l.drop n).countP p :=
    fun n p => by rw [← List.countP_append, List.take_append_drop]
  have after : ∀ v ∈ l.drop k, l[k].toInt ≤ v.toInt := by
    have tail := sorted.sublist (List.drop_sublist k l)
    rw [← List.getElem_cons_drop l k middle, List.pairwise_cons] at tail
    rw [← List.getElem_cons_drop l k middle]
    rintro v (_ | ⟨_, mem⟩)
    · exact le_refl _
    · exact tail.1 v mem
  have before : ∀ v ∈ l.take (k + 1), v.toInt ≤ l[k].toInt := by
    have head := sorted.sublist (List.take_sublist (k + 1) l)
    rw [List.take_succ, List.getElem?_eq_getElem middle, Option.toList_some, List.pairwise_append] at head
    rw [List.take_succ, List.getElem?_eq_getElem middle, Option.toList_some]
    intro v mem
    rcases List.mem_append.1 mem with earlier | last
    · exact head.2.2 v earlier _ (List.mem_singleton_self _)
    · rw [List.mem_singleton.1 last]
  have none_below : (l.drop k).countP (fun v => v.toInt < l[k].toInt) = 0 :=
    List.countP_eq_zero.2 fun v mem => by simpa using after v mem
  have none_above : (l.take (k + 1)).countP (fun v => l[k].toInt < v.toInt) = 0 :=
    List.countP_eq_zero.2 fun v mem => by simpa using before v mem
  constructor
  · rw [split k, none_below, Nat.add_zero]
    exact (List.countP_le_length _).trans (by simp [Nat.min_eq_left middle.le])
  · rw [split (k + 1), none_above, Nat.zero_add]
    exact (List.countP_le_length _).trans (by simp)

/-- At an odd count `median()` is a median of the values. -/
theorem median_isMedian {f : CMedianFilter} (odd : f.size % 2 = 1) : IsMedian f.vValues f.median := by
  have perm : f.sorted.Perm f.vValues := List.perm_insertionSort _ _
  have length : f.sorted.length = f.size := perm.length_eq
  have inside : f.size / 2 < f.sorted.length := by omega
  have median : f.median = f.sorted[f.size / 2] := by
    simp only [CMedianFilter.median, odd, if_true, List.getD_eq_getElem _ _ inside]
  obtain ⟨below, above⟩ := middle_counts (sorted_sorted f) inside
  rw [perm.countP_eq, ← median] at below above
  have values : f.vValues.length = f.size := rfl
  exact ⟨median_mem odd, by omega, by omega⟩

end Step

section Runs

theorem runTimeData_append (reports : List (Report size)) (report : Report size) :
    runTimeData (reports ++ [report]) =
      addTimeData (runTimeData reports) report.1 report.2.1 report.2.2 := by
  simp [runTimeData, List.foldl_append]

theorem runTimeData_setKnown (reports : List (Report size)) :
    (runTimeData reports).setKnown = ((firstReports reports).map Prod.fst).reverse := by
  induction reports using List.reverseRecOn with
  | nil => rfl
  | append_singleton reports report ih =>
    have heard : report.1 ∈ (runTimeData reports).setKnown ↔ report.1 ∈ reports.map Prod.fst := by
      rw [ih, List.mem_reverse, mem_firstReports_fst]
    rw [runTimeData_append, firstReports_append]
    split_ifs with known
    · rw [addTimeData_known (heard.2 known), ih]
    · rw [(addTimeData_fresh (heard.not.2 known) _ _).1, ih]
      simp

theorem mem_setKnown_runTimeData {reports : List (Report size)} {ip : CNetAddr size} :
    ip ∈ (runTimeData reports).setKnown ↔ ip ∈ reports.map Prod.fst := by
  rw [runTimeData_setKnown, List.mem_reverse, mem_firstReports_fst]

theorem runTimeData_vTimeOffsets (reports : List (Report size)) :
    (runTimeData reports).vTimeOffsets =
      ⟨200, (0 :: (firstReports reports).map offset).rtake 200⟩ := by
  induction reports using List.reverseRecOn with
  | nil => simp [runTimeData, TimeData.init, CMedianFilter.init, firstReports, List.rtake]
  | append_singleton reports report ih =>
    rw [runTimeData_append, firstReports_append]
    split_ifs with known
    · rw [addTimeData_known (mem_setKnown_runTimeData.2 known), ih]
    · rw [(addTimeData_fresh (mem_setKnown_runTimeData.not.2 known) _ _).2, ih, input_rtake 199]
      simp [offset]

/-- Every run from start-up counts the first report from each address and no other: the
known set is their addresses, newest first, and the filter holds the start-up zero and
their samples, oldest first, the last 200 of them. -/
theorem runTimeData_first_reports (reports : List (Report size)) :
    (runTimeData reports).setKnown = ((firstReports reports).map Prod.fst).reverse ∧
      (runTimeData reports).vTimeOffsets =
        ⟨200, (0 :: (firstReports reports).map offset).rtake 200⟩ :=
  ⟨runTimeData_setKnown reports, runTimeData_vTimeOffsets reports⟩

/-- A report from an address heard from before leaves every static as it was, whatever
time it gives. -/
theorem runTimeData_ignores_repeat (reports : List (Report size)) (report : Report size)
    (heard : report.1 ∈ reports.map Prod.fst) :
    runTimeData (reports ++ [report]) = runTimeData reports := by
  rw [runTimeData_append, addTimeData_known (mem_setKnown_runTimeData.2 heard)]

theorem runTimeData_ignores_repeat_peer :
    peer 1 ∈ [(peer 1, (5 : BitVec 64), (0 : BitVec 64))].map Prod.fst ∧
      runTimeData [(peer 1, 5, 0), (peer 1, 9, 0)] = runTimeData [(peer 1, 5, 0)] :=
  ⟨by simp, runTimeData_ignores_repeat [(peer 1, 5, 0)] (peer 1, 9, 0) (by simp)⟩

/-- The offset is zero or the sample of some address's first report: it is read from the
filter, never made up. -/
theorem runTimeData_offset_sampled (reports : List (Report size)) :
    (runTimeData reports).nTimeOffset = 0 ∨
      ∃ report ∈ firstReports reports, (runTimeData reports).nTimeOffset = offset report := by
  induction reports using List.reverseRecOn with
  | nil => exact .inl rfl
  | append_singleton reports report ih =>
    have settles := addTimeData_settles (runTimeData reports) report.1 report.2.1 report.2.2
    rw [← runTimeData_append] at settles
    rcases settles with ⟨same, -⟩ | ⟨-, odd, median | zero⟩
    · rw [same]
      exact ih.imp_right fun ⟨r, mem, sampled⟩ =>
        ⟨r, (firstReports_sublist reports report).subset mem, sampled⟩
    · rw [median]
      have window := median_mem odd
      simp only [runTimeData_vTimeOffsets] at window ⊢
      rcases List.mem_cons.1 (rtake_subset _ _ window) with zero | sampled
      · exact .inl zero
      · obtain ⟨r, mem, same⟩ := List.mem_map.1 sampled
        exact .inr ⟨r, mem, same.symm⟩
    · exact .inl zero

/-- The offset is zero or a median of what the filter held at some point of the run: the
start-up zero and the samples of the first reports so far, the last 200 of them, fewer than
half of which lie below it and fewer than half above. -/
theorem runTimeData_offset_median (reports : List (Report size)) :
    (runTimeData reports).nTimeOffset = 0 ∨ ∃ pre, pre <+: reports ∧
      IsMedian ((0 :: (firstReports pre).map offset).rtake 200) (runTimeData reports).nTimeOffset := by
  induction reports using List.reverseRecOn with
  | nil => exact .inl rfl
  | append_singleton reports report ih =>
    have settles := addTimeData_settles (runTimeData reports) report.1 report.2.1 report.2.2
    rw [← runTimeData_append] at settles
    rcases settles with ⟨same, -⟩ | ⟨-, odd, median | zero⟩
    · rw [same]
      exact ih.imp_right fun ⟨pre, before, isMedian⟩ =>
        ⟨pre, before.trans (List.prefix_append _ _), isMedian⟩
    · have window := median_isMedian odd
      have values : (runTimeData (reports ++ [report])).vTimeOffsets.vValues =
          (0 :: (firstReports (reports ++ [report])).map offset).rtake 200 := by
        rw [runTimeData_vTimeOffsets]
      rw [← median, values] at window
      exact .inr ⟨reports ++ [report], List.prefix_refl _, window⟩
    · exact .inl zero

/-- Fewer than four addresses never move the clock or raise the warning: the filter then
holds at most four samples, and the code asks for five. -/
theorem runTimeData_needs_four_peers (reports : List (Report size))
    (few : (firstReports reports).length < 4) :
    (runTimeData reports).nTimeOffset = 0 ∧ (runTimeData reports).fDone = false := by
  induction reports using List.reverseRecOn with
  | nil => exact ⟨rfl, rfl⟩
  | append_singleton reports report ih =>
    have earlier := ih (lt_of_le_of_lt (firstReports_sublist reports report).length_le few)
    have settles := addTimeData_settles (runTimeData reports) report.1 report.2.1 report.2.2
    rw [← runTimeData_append] at settles
    rcases settles with ⟨same, done⟩ | ⟨many, -⟩
    · exact ⟨same.trans earlier.1, done.trans earlier.2⟩
    · simp only [runTimeData_vTimeOffsets, CMedianFilter.size, List.rtake, List.length_drop,
        List.length_cons, List.length_map] at many
      omega

/-- Three peers reporting `now + INT64_MIN` do not move the offset. -/
theorem runTimeData_needs_four_peers_three :
    (firstReports [(peer 1, BitVec.intMin 64, 0), (peer 2, BitVec.intMin 64, 0),
      (peer 3, BitVec.intMin 64, 0)]).length < 4 ∧
    (runTimeData [(peer 1, BitVec.intMin 64, 0), (peer 2, BitVec.intMin 64, 0),
      (peer 3, BitVec.intMin 64, 0)]).nTimeOffset = 0 ∧
    (runTimeData [(peer 1, BitVec.intMin 64, 0), (peer 2, BitVec.intMin 64, 0),
      (peer 3, BitVec.intMin 64, 0)]).fDone = false :=
  have few := lt_of_le_of_lt (firstReports_length_le _) (by decide)
  ⟨few, runTimeData_needs_four_peers _ few⟩

end Runs

section Warning

/-- When the filter calls for the clock warning: an odd count of five samples or more, the
median 35 minutes off or more, and no sample but zero within five minutes. -/
def Alarming (f : CMedianFilter) : Prop :=
  5 ≤ f.size ∧ f.size % 2 = 1 ∧ 35 * 60 ≤ (abs64 f.median).toInt ∧
    ∀ nOffset ∈ f.vValues, nOffset = 0 ∨ 5 * 60 ≤ (abs64 nOffset).toInt

instance : DecidablePred Alarming := fun _ => by unfold Alarming; infer_instance

private theorem sorted_any (f : CMedianFilter) (p : BitVec 64 → Bool) :
    f.sorted.any p = f.vValues.any p := by
  have perm : f.sorted.Perm f.vValues := List.perm_insertionSort _ _
  refine Bool.eq_iff_iff.2 ?_
  simp only [List.any_eq_true]
  exact ⟨fun ⟨x, mem, px⟩ => ⟨x, perm.subset mem, px⟩, fun ⟨x, mem, px⟩ => ⟨x, perm.symm.subset mem, px⟩⟩

/-- One call raises the warning exactly when it has not been raised, the address is new
and the filter it feeds becomes alarming; and only then does it write `fDone` or the
warning text. -/
theorem addTimeData_warning (s : TimeData size) (ip : CNetAddr size) (nTime now : BitVec 64) :
    ((addTimeData s ip nTime now).fDone, (addTimeData s ip nTime now).strMiscWarning) =
      if s.fDone = false ∧ s.setKnown.any (·.eq ip) = false ∧
          Alarming (s.vTimeOffsets.input (nTime - now))
      then (true, clockWarning) else (s.fDone, s.strMiscWarning) := by
  unfold addTimeData
  dsimp only
  by_cases known : s.setKnown.any (·.eq ip)
  · -- A known address changes nothing.
    rw [if_pos known, if_neg fun due => absurd due.2.1 (by simp [known])]
  rw [if_neg known]
  generalize s.vTimeOffsets.input (nTime - now) = f
  by_cases odd : f.size ≥ 5 ∧ f.size % 2 = 1
  swap
  · -- Too few samples, or an even count: no median is taken.
    rw [if_neg odd, if_neg fun due => odd ⟨due.2.2.1, due.2.2.2.1⟩]
  rw [if_pos odd]
  by_cases small : (abs64 f.median).toInt < 35 * 60
  · -- The median moves the clock.
    rw [if_pos small, if_neg fun due => not_le.2 small due.2.2.2.2.1]
  rw [if_neg small]
  cases done : s.fDone
  swap
  · -- Raised before: the offset is cleared, and nothing else.
    rw [if_neg (show ¬(!true) = true by decide), if_neg fun due => Bool.true_eq_false ▸ due.1]
  rw [if_pos (show (!false) = true from rfl)]
  cases fMatch : f.sorted.any fun nOffset => nOffset ≠ 0 ∧ (abs64 nOffset).toInt < 5 * 60
  · -- Nobody is within five minutes: the warning goes up.
    have quiet := List.any_eq_false.1 ((sorted_any f _).symm.trans fMatch)
    have alarming : Alarming f := by
      refine ⟨odd.1, odd.2, not_lt.1 small, fun nOffset mem => ?_⟩
      by_cases zero : nOffset = 0
      · exact .inl zero
      · exact .inr (not_lt.1 fun near => quiet nOffset mem (decide_eq_true ⟨zero, near⟩))
    rw [if_pos (show (!false) = true from rfl), if_pos ⟨rfl, Bool.eq_false_iff.2 known, alarming⟩]
  · -- Someone is: no warning.
    obtain ⟨nOffset, mem, near⟩ := List.any_eq_true.1 ((sorted_any f _).symm.trans fMatch)
    obtain ⟨nonzero, close⟩ := of_decide_eq_true near
    rw [if_neg (show ¬(!true) = true by decide), if_neg fun due =>
      (due.2.2.2.2.2 nOffset mem).elim nonzero fun far => not_le.2 close far]

private theorem input_fresh {reports : List (Report size)} {report : Report size}
    (fresh : report.1 ∉ reports.map Prod.fst) :
    (runTimeData reports).vTimeOffsets.input (report.2.1 - report.2.2) =
      ⟨200, (0 :: (firstReports (reports ++ [report])).map offset).rtake 200⟩ := by
  rw [← (addTimeData_fresh (mem_setKnown_runTimeData.not.2 fresh) _ _).2, ← runTimeData_append,
    runTimeData_vTimeOffsets]

private theorem exists_prefix_concat {α : Type} (P : List α → α → Prop) (l : List α) (x : α) :
    (∃ pre r, pre ++ [r] <+: l ++ [x] ∧ P pre r) ↔ (∃ pre r, pre ++ [r] <+: l ∧ P pre r) ∨ P l x := by
  constructor
  · rintro ⟨pre, r, before, holds⟩
    rcases List.prefix_concat_iff.1 before with last | before
    · obtain ⟨rfl, same⟩ := List.append_inj' last rfl
      obtain rfl := List.singleton_inj.1 same
      exact .inr holds
    · exact .inl ⟨pre, r, before, holds⟩
  · rintro (⟨pre, r, before, holds⟩ | holds)
    · exact ⟨pre, r, before.trans (List.prefix_append _ _), holds⟩
    · exact ⟨l, x, List.prefix_refl _, holds⟩

/-- The clock warning over every run from start-up. It is up, with its text in
`strMiscWarning`, exactly when some report so far came from a new address and left the
filter alarming; otherwise `strMiscWarning` is empty. So it is raised at most once and
never taken back. -/
theorem runTimeData_clock_warning (reports : List (Report size)) :
    (runTimeData reports).strMiscWarning = (if (runTimeData reports).fDone then clockWarning else "") ∧
    ((runTimeData reports).fDone ↔ ∃ pre r, pre ++ [r] <+: reports ∧ r.1 ∉ pre.map Prod.fst ∧
      Alarming ⟨200, (0 :: (firstReports (pre ++ [r])).map offset).rtake 200⟩) := by
  induction reports using List.reverseRecOn with
  | nil => simp [runTimeData, TimeData.init]
  | append_singleton reports report ih =>
    obtain ⟨warning, done⟩ := ih
    have step := addTimeData_warning (runTimeData reports) report.1 report.2.1 report.2.2
    rw [← runTimeData_append] at step
    have fresh : (runTimeData reports).setKnown.any (·.eq report.1) = false ↔
        report.1 ∉ reports.map Prod.fst := by
      rw [Bool.eq_false_iff, ne_eq, known_iff, mem_setKnown_runTimeData]
    rw [exists_prefix_concat, ← done]
    by_cases raise : (runTimeData reports).fDone = false ∧
        (runTimeData reports).setKnown.any (·.eq report.1) = false ∧
        Alarming ((runTimeData reports).vTimeOffsets.input (report.2.1 - report.2.2))
    · -- This report raises the warning.
      rw [if_pos raise, Prod.mk.injEq] at step
      rw [step.1, step.2]
      have new := fresh.1 raise.2.1
      exact ⟨rfl, iff_of_true rfl (.inr ⟨new, input_fresh new ▸ raise.2.2⟩)⟩
    · -- It leaves both as they were: up already, or not due.
      rw [if_neg raise, Prod.mk.injEq] at step
      rw [step.1, step.2]
      refine ⟨warning, .inl, fun earlier => earlier.elim id fun ⟨new, alarming⟩ => ?_⟩
      by_contra notDone
      exact raise ⟨Bool.eq_false_iff.2 notDone, fresh.2 new, (input_fresh new).symm ▸ alarming⟩

/-- Four peers an hour ahead raise the warning: the start-up zero is the fifth sample, and a
zero is no match. -/
example : (runTimeData [(peer 1, 3600, 0), (peer 2, 3600, 0), (peer 3, 3600, 0),
    (peer 4, 3600, 0)]).strMiscWarning = clockWarning := by decide

end Warning

end Netbase.Proofs.TimeSamples
