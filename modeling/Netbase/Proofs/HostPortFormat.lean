import Netbase.HostPort
import Netbase.Service

/-! `SplitHostPort` reads back the `host:port` text `ToStringIPPort` writes: an
unbracketed host without colons, and any bracketed host, come back with their port,
while a bare IPv6 literal passes through with the default port. What the port text
may be is what `strtol` accepts whole. -/

namespace Netbase.Proofs.HostPortFormat

section FindLast

variable {c : Byte}

theorem findLast_append (front back : List Byte) :
    findLast c (front ++ back) =
      match findLast c back with
      | some i => some (i + front.length)
      | none => findLast c front := by
  induction front with
  | nil => cases h : findLast c back <;> simp [h, findLast]
  | cons x xs ih => cases h : findLast c back <;> simp_all [findLast, Nat.add_assoc]

@[simp] theorem findLast_eq_none {s : List Byte} : findLast c s = none ↔ c ∉ s := by
  induction s with
  | nil => simp [findLast]
  | cons x xs ih =>
    simp only [findLast, List.mem_cons, not_or]
    cases h : findLast c xs with
    | some i => simp_all
    | none => by_cases same : x = c <;> simp_all [eq_comm]

theorem findLast_some {s : List Byte} {i : Nat} (found : findLast c s = some i) :
    s.take i ++ c :: s.drop (i + 1) = s ∧ c ∉ s.drop (i + 1) := by
  induction s generalizing i with
  | nil => simp [findLast] at found
  | cons x xs ih =>
    simp only [findLast] at found
    cases rest : findLast c xs with
    | some j =>
      simp only [rest, Option.some.injEq] at found
      subst found
      obtain ⟨split, absent⟩ := ih rest
      exact ⟨by simp [split], by simpa using absent⟩
    | none =>
      simp only [rest] at found
      split_ifs at found with same
      cases found
      exact ⟨by simp [same], by simpa using rest⟩

theorem findLast_last {c : Byte} (front tail : List Byte) (absent : c ∉ tail) :
    findLast c (front ++ c :: tail) = some front.length := by
  rw [findLast_append, findLast, findLast_eq_none.2 absent]
  simp

end FindLast

section Decimal

private theorem digitsValue_snoc (digits : List Byte) (d : Byte) :
    digitsValue (digits ++ [d]) = 10 * digitsValue digits + (d.toNat - 48) := by
  simp [digitsValue, List.foldl_append]

private theorem decimal_go (fuel : Nat) :
    ∀ n < fuel, decimal.go n fuel ≠ [] ∧ (∀ d ∈ decimal.go n fuel, isDigit d) ∧
      digitsValue (decimal.go n fuel) = n := by
  induction fuel with
  | zero => intro n below; omega
  | succ fuel ih =>
    intro n below
    have digit : (BitVec.ofNat 8 (48 + n % 10)).toNat = 48 + n % 10 := by
      simp only [BitVec.toNat_ofNat]
      omega
    by_cases small : n < 10
    · simp [decimal.go, small, isDigit, digitsValue, digit]
      omega
    · obtain ⟨-, digits, value⟩ := ih (n / 10) (by omega)
      refine ⟨by simp [decimal.go], ?_, ?_⟩
      · simp only [decimal.go, small, if_false, List.mem_append, List.mem_singleton]
        rintro d (inside | rfl)
        · exact digits d inside
        · simp only [isDigit, digit, Bool.and_eq_true, decide_eq_true_eq]
          omega
      · simp only [decimal.go, small, if_false, digitsValue_snoc, value, digit]
        omega

theorem decimal_digits (n : Nat) :
    decimal n ≠ [] ∧ (∀ d ∈ decimal n, isDigit d) ∧ digitsValue (decimal n) = n :=
  decimal_go (n + 1) n (by omega)

private theorem digit_facts {d : Byte} (digit : isDigit d) :
    isSpace d = false ∧ d ≠ char '+' ∧ d ≠ char '-' ∧ d ≠ 0 ∧ d ≠ char ':' := by
  simp only [isDigit, Bool.and_eq_true, decide_eq_true_eq] at digit
  refine ⟨?_, ?_, ?_, ?_, ?_⟩
  · simp only [isSpace, char, Bool.or_eq_false_iff, decide_eq_false_iff_not, Bool.and_eq_false_iff,
      not_le]
    constructor
    · intro same
      subst same
      simp at digit
    · omega
  all_goals
    intro same
    subst same
    simp [char] at digit

theorem strtol_decimal (n : Nat) (fits : n < 2 ^ 63) :
    strtol (decimal n) = ((n : Int), (decimal n).length) := by
  obtain ⟨nonempty, digits, value⟩ := decimal_digits n
  obtain ⟨d, rest, shape⟩ := List.exists_cons_of_ne_nil nonempty
  obtain ⟨space, plus, minus, -, -⟩ := digit_facts (digits d (by simp [shape]))
  have whole : (decimal n).takeWhile isDigit = decimal n := List.takeWhile_eq_self_iff.2 digits
  have noSpace : (decimal n).takeWhile isSpace = [] := by
    rw [shape, List.takeWhile_cons_of_neg (by simp [space])]
  have head : (decimal n).head? = some d := by rw [shape]; rfl
  simp only [strtol, noSpace, List.length_nil, List.drop_zero, head, Option.some.injEq, plus, minus,
    or_self, if_false, whole, nonempty, value, LONG_MIN, LONG_MAX, Nat.add_zero, Nat.zero_add]
  simp only [Prod.mk.injEq, and_true]
  omega

theorem colon_not_mem_decimal (p : Nat) : char ':' ∉ decimal p :=
  fun mem => (digit_facts ((decimal_digits p).2.1 _ mem)).2.2.2.2 rfl

end Decimal

section Strtol

end Strtol

section Split

/-- The colon `SplitHostPort` takes for the port separator. -/
def separator (input : List Byte) : Option Nat :=
  match findLastOf input (char ':') none with
  | none => none
  | some colon =>
    if colon = 0 || (input.headD 0 = char '[' && input.getD (colon - 1) 0 = char ']') ||
        !(findLastOf input (char ':') (if colon = 0 then none else some (colon - 1))).isSome
      then some colon else none

/-- The port text behind the separator, as far as its C string reaches. -/
def portText (input : List Byte) (colon : Nat) : List Byte :=
  (input.drop (colon + 1)).takeWhile (· ≠ 0)

/-- The `int` read from the port text, when `strtol` reads all of it and it is not negative. -/
def readPort (text : List Byte) : Option Int :=
  if (strtol text).2 = text.length ∧ 0 ≤ toInt32 (strtol text).1 then some (toInt32 (strtol text).1)
  else none

def stripBrackets (input : List Byte) : List Byte :=
  if 0 < input.length ∧ input.headD 0 = char '[' ∧ input.getLastD 0 = char ']' then
    (input.drop 1).take (input.length - 2)
  else input

theorem splitHostPort_eq (input : List Byte) (portOut : Int) :
    splitHostPort input portOut =
      match separator input with
      | none => (portOut, stripBrackets input)
      | some colon =>
        match readPort (portText input colon) with
        | none => (portOut, stripBrackets input)
        | some n => (if 0 < n ∧ n < 0x10000 then n else portOut, stripBrackets (input.take colon)) := by
  unfold splitHostPort separator portText readPort stripBrackets
  cases findLastOf input (char ':') none with
  | none => rfl
  | some colon =>
    dsimp only
    -- the separator test, written alike on both sides
    generalize (_ || _ || _ : Bool) = sep
    cases sep
    · rfl
    · simp only [↓reduceIte]
      split_ifs <;> dsimp only <;> (try split_ifs) <;> rfl

private theorem getD_pred_length {front : List Byte} (rest : List Byte) (nonempty : front ≠ []) :
    (front ++ rest).getD (front.length - 1) 0 = front.getLastD 0 := by
  have below : front.length - 1 < front.length := by
    have := List.length_pos.2 nonempty
    omega
  simp [List.getD_eq_getElem?_getD, List.getElem?_append_left below, List.getLast?_eq_getElem?,
    List.getLastD_eq_getLast?]

private theorem headD_eq_iff {front : List Byte} {x : Byte} (nonempty : front ≠ []) :
    front.headD 0 = x ↔ front.head? = some x := by
  cases front <;> simp_all

theorem separator_append {front tail : List Byte} (absent : char ':' ∉ tail) :
    separator (front ++ char ':' :: tail) =
      if front = [] ∨ (front.head? = some (char '[') ∧ front.getLast? = some (char ']')) ∨
          char ':' ∉ front
        then some front.length else none := by
  unfold separator findLastOf
  rw [findLast_last front tail absent]
  by_cases empty : front = []
  · simp [empty]
  · have positive := List.length_pos.2 empty
    have before : front.length - 1 + 1 = front.length := by omega
    have head : (front ++ char ':' :: tail).headD 0 = front.headD 0 := by
      cases front <;> simp_all
    obtain ⟨last, hlast⟩ := Option.isSome_iff_exists.1 (List.getLast?_isSome.2 empty)
    simp only [head, getD_pred_length _ empty, headD_eq_iff empty, List.getLastD_eq_getLast?, hlast,
      positive.ne', ↓reduceIte, before, List.take_left']
    simp [empty]

theorem stripBrackets_of_plain {host : List Byte}
    (plain : ¬(host.head? = some (char '[') ∧ host.getLast? = some (char ']'))) :
    stripBrackets host = host := by
  refine if_neg fun ⟨positive, head, last⟩ => plain ⟨(headD_eq_iff (List.length_pos.1 positive)).1 head, ?_⟩
  obtain ⟨y, hy⟩ := Option.isSome_iff_exists.1 (List.getLast?_isSome.2 (List.length_pos.1 positive))
  simp_all [List.getLastD_eq_getLast?]

theorem stripBrackets_bracketed (host : List Byte) :
    stripBrackets (char '[' :: host ++ [char ']']) = host := by
  simp [stripBrackets, List.getLastD_eq_getLast?, List.getLast?_cons, List.getLast?_append]

private theorem portText_decimal (front : List Byte) (p : Nat) :
    portText (front ++ char ':' :: decimal p) front.length = decimal p := by
  simp only [portText, List.drop_append, List.drop_succ_cons, List.drop_zero]
  exact List.takeWhile_eq_self_iff.2 fun d mem =>
    decide_eq_true (digit_facts ((decimal_digits p).2.1 d mem)).2.2.2.1

private theorem readPort_decimal {p : Nat} (below : p < 0x10000) : readPort (decimal p) = some (p : Int) := by
  have small : toInt32 p = p := by
    simp only [toInt32]
    omega
  simp [readPort, strtol_decimal p (by omega), small]

theorem splitHostPort_append_decimal {front : List Byte} {p : Nat} (d : Int) (positive : 0 < p)
    (below : p < 0x10000)
    (separates : front = [] ∨ (front.head? = some (char '[') ∧ front.getLast? = some (char ']')) ∨
      char ':' ∉ front) :
    splitHostPort (front ++ char ':' :: decimal p) d = ((p : Int), stripBrackets front) := by
  rw [splitHostPort_eq, separator_append (colon_not_mem_decimal p), if_pos separates]
  dsimp only
  rw [portText_decimal, readPort_decimal below]
  dsimp only
  rw [if_pos (by omega), List.take_left]

/-- The same for every port below `0x10000`, 0 included: a port of 0 is not taken, and
the default stays. -/
theorem splitHostPort_append_port {front : List Byte} {p : Nat} (d : Int) (below : p < 0x10000)
    (separates : front = [] ∨ (front.head? = some (char '[') ∧ front.getLast? = some (char ']')) ∨
      char ':' ∉ front) :
    splitHostPort (front ++ char ':' :: decimal p) d =
      (if 0 < p then (p : Int) else d, stripBrackets front) := by
  rw [splitHostPort_eq, separator_append (colon_not_mem_decimal p), if_pos separates]
  dsimp only
  rw [portText_decimal, readPort_decimal below]
  dsimp only
  rw [List.take_left]
  congr 1
  split_ifs <;> omega

end Split

/-- `SplitHostPort` reads back what `ToStringIPPort` writes: a host without colons
followed by a colon and the port, and any bracketed host followed by a colon and the
port. A string with two colons that does not open with a bracket is a host alone. -/
theorem splitHostPort_inverts_format :
    (∀ (h : List Byte) (p : Nat) (d : Int), char ':' ∉ h →
        ¬(h.head? = some (char '[') ∧ h.getLast? = some (char ']')) → 0 < p → p < 0x10000 →
        splitHostPort (h ++ char ':' :: decimal p) d = ((p : Int), h)) ∧
    (∀ (h : List Byte) (p : Nat) (d : Int), 0 < p → p < 0x10000 →
        splitHostPort (char '[' :: h ++ char ']' :: char ':' :: decimal p) d = ((p : Int), h)) ∧
    (∀ (s : List Byte) (d : Int), 2 ≤ s.count (char ':') → s.head? ≠ some (char '[') →
        splitHostPort s d = (d, s)) := by
  refine ⟨fun h p d noColon plain positive below => ?_, fun h p d positive below => ?_,
    fun s d twice opening => ?_⟩
  · rw [splitHostPort_append_decimal d positive below (.inr (.inr noColon)), stripBrackets_of_plain plain]
  · have shape : char '[' :: h ++ char ']' :: char ':' :: decimal p =
        (char '[' :: h ++ [char ']']) ++ char ':' :: decimal p := by simp
    have last : (char '[' :: h ++ [char ']']).getLast? = some (char ']') := by
      rw [List.getLast?_concat]
    rw [shape, @splitHostPort_append_decimal (char '[' :: h ++ [char ']']) p d positive below
      (.inr (.inl ⟨rfl, last⟩)), stripBrackets_bracketed]
  · have present : char ':' ∈ s := List.count_pos_iff.1 (by omega)
    obtain ⟨colon, found⟩ := Option.ne_none_iff_exists'.1 (mt findLast_eq_none.1 (not_not.2 present))
    obtain ⟨shape, after⟩ := findLast_some found
    obtain ⟨front, tail, rfl, absent⟩ : ∃ front tail, s = front ++ char ':' :: tail ∧ char ':' ∉ tail :=
      ⟨_, _, shape.symm, after⟩
    have earlier : char ':' ∈ front := by
      simp only [List.count_append, List.count_cons_self, List.count_eq_zero_of_not_mem absent] at twice
      exact List.count_pos_iff.1 (by omega)
    have nonempty : front ≠ [] := List.ne_nil_of_mem earlier
    have head : (front ++ char ':' :: tail).head? = front.head? := by
      cases front <;> simp_all
    have sep : separator (front ++ char ':' :: tail) = none := by
      rw [separator_append absent, if_neg]
      rintro (empty | ⟨bracket, -⟩ | absent')
      · exact nonempty empty
      · exact opening (head ▸ bracket)
      · exact absent' earlier
    rw [splitHostPort_eq, sep]
    exact congrArg _ (stripBrackets_of_plain fun bracket => opening bracket.1)

theorem splitHostPort_inverts_format_examples :
    splitHostPort (ascii "example.com" ++ char ':' :: decimal 8080) 0 = (8080, ascii "example.com") ∧
    splitHostPort (char '[' :: ascii "::1" ++ char ']' :: char ':' :: decimal 8080) 0 = (8080, ascii "::1") ∧
    splitHostPort (ascii "::1") 8333 = (8333, ascii "::1") :=
  ⟨splitHostPort_inverts_format.1 _ 8080 0 (by decide) (by decide) (by decide) (by decide),
    splitHostPort_inverts_format.2.1 _ 8080 0 (by decide) (by decide),
    splitHostPort_inverts_format.2.2 _ 8333 (by decide) (by decide)⟩

/-- The int narrowing lets a port of 4294967376 through the range check as 80. -/
theorem splitHostPort_narrows_port : splitHostPort (ascii "h:4294967376") 0 = (80, ascii "h") := by
  decide

end Netbase.Proofs.HostPortFormat
