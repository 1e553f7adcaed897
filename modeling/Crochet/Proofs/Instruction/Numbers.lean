/-
# Crochet.Proofs.Instruction.Numbers -- which numbers of a line are read at their value

A digit of any script has a value, its distance from the zero of the script, so
every digit run writes a number.  A line is searched for digits of every
script, but a count is read from ASCII digits only: a run of these is read at
its value, capped, and any other run as the greatest count, however small the
number that it writes.
-/
import Crochet.Proofs.Instruction.Grammar

set_option autoImplicit false

namespace Crochet.Instruction

open Text

/-! ## Digits of every script -/

/-- The value of a digit: how far it stands behind the zero of its script. -/
def digitValue (c : Char) : Nat :=
  match zeros.find? fun first => first ≤ c.toNat && c.toNat < first + 10 with
  | some first => c.toNat - first
  | none => 0

/-- The number that some digits write. -/
def writtenNumber (digits : List Char) : Nat :=
  digits.foldl (fun number c => 10 * number + digitValue c) 0

theorem digitValue_of_isAsciiDigit {c : Char} (ascii : isAsciiDigit c = true) :
    digitValue c = c.toNat - 48 := by
  obtain ⟨least, greatest⟩ := toNat_of_isAsciiDigit ascii
  have within : (decide (0x30 ≤ c.toNat) && decide (c.toNat < 0x30 + 10)) = true := by
    simp only [Bool.and_eq_true, decide_eq_true_eq]
    omega
  simp only [digitValue, zeros, List.find?_cons, within]

/-- ASCII digits write the number that is read from them. -/
theorem writtenNumber_of_ascii {digits : List Char}
    (ascii : ∀ c ∈ digits, isAsciiDigit c = true) :
    writtenNumber digits = Nat.ofDigitChars 10 digits 0 := by
  suffices same : ∀ start, digits.foldl (fun number c => 10 * number + digitValue c) start =
      Nat.ofDigitChars 10 digits start from same 0
  induction digits with
  | nil => exact fun start => rfl
  | cons c digits ih =>
      intro start
      rw [List.foldl_cons, digitValue_of_isAsciiDigit (ascii c List.mem_cons_self),
        ih fun d inside => ascii d (List.mem_cons_of_mem c inside)]
      rfl

/-! ## Runs as counts -/

/-- A run of ASCII digits is read at its value, capped; any other one as the greatest count. -/
theorem toNat_readCount {digits : List Char} (isRun : IsRun digits) :
    (readCount digits).toNat =
      if digits.all isAsciiDigit then min (writtenNumber digits) Count.greatest
      else Count.greatest := by
  have filled : digits.isEmpty = false := List.isEmpty_eq_false_iff.mpr isRun.ne_nil
  split
  · rename_i ascii
    have spelled : decimalValue? digits = some (writtenNumber digits) := by
      rw [decimalValue?, filled, ascii, writtenNumber_of_ascii (List.all_eq_true.mp ascii)]
      rfl
    rw [readCount, spelled, Count.toNat_cap]
  · rename_i other
    have unspelled : decimalValue? digits = none := by
      rw [decimalValue?, filled, Bool.eq_false_iff.mpr other]
      rfl
    rw [readCount, unspelled, Count.toNat_cap, Nat.min_self]

/-! ## The runs that a line is counted by -/

/-- The rule takes its number from this digit run of the line. -/
def CountRule.Uses (line digits : List Char) : CountRule → Prop
  | stated => StatesTotal line digits
  | bracketRepeat => ∃ inside, LeftmostGroup line ⟨inside, digits⟩
  | magicRing => FirstRun line digits
  | lastNumber => LastRun line digits
  | growth | carried => False

/-- The rules whose count is a number of the line. -/
def CountRule.quoting : List CountRule := [.stated, .magicRing, .lastNumber]

variable {line digits : List Char} {previous : Count}

theorem CountRule.Uses.isRun {rule : CountRule} (uses : rule.Uses line digits) : IsRun digits := by
  cases rule with
  | stated => exact uses.1
  | bracketRepeat =>
      obtain ⟨inside, before, opened, -, ⟨-, after, -, multiplies⟩, -⟩ := uses
      obtain ⟨-, -, -, -, -, -, -, -, isRun, -⟩ := multiplies
      exact isRun
  | magicRing =>
      obtain ⟨before, after, -, -, isRun, -⟩ := uses
      exact isRun
  | lastNumber =>
      obtain ⟨before, after, -, -, isRun, -⟩ := uses
      exact isRun
  | growth | carried => exact uses.elim

/-- A quoting rule gives what is read from the run that it uses. -/
theorem count_of_uses (quotes : (resolve line previous).rule ∈ CountRule.quoting)
    (uses : (resolve line previous).rule.Uses line digits) :
    (resolve line previous).count = readCount digits := by
  have right := resolve_right line previous
  refine ((right.gives_iff _).mp ?_).symm
  generalize (resolve line previous).rule = rule at quotes uses
  cases rule with
  | stated => exact ⟨digits, uses, rfl⟩
  | magicRing => exact .inl ⟨digits, uses, rfl⟩
  | lastNumber => exact ⟨digits, uses, rfl⟩
  | bracketRepeat | growth | carried => simp [CountRule.quoting] at quotes

/-- The group rule multiplies by what is read from the run that it uses. -/
theorem count_of_uses_group {inside : List Char}
    (rule : (resolve line previous).rule = .bracketRepeat)
    (leftmost : LeftmostGroup line ⟨inside, digits⟩) :
    (resolve line previous).count =
      Count.cap (min (stitchesPerRepeat inside) Count.greatest * (readCount digits).toNat) := by
  have right := resolve_right line previous
  refine ((right.gives_iff _).mp ?_).symm
  rw [rule]
  exact ⟨_, leftmost, rfl⟩

/-- A quoting rule uses a run, except for a magic ring without any digit, which has six stitches. -/
theorem exists_uses (quotes : (resolve line previous).rule ∈ CountRule.quoting) :
    (∃ digits, (resolve line previous).rule.Uses line digits) ∨
      (resolve line previous).count = 6 := by
  have given := ((resolve_right line previous).gives_iff _).mpr rfl
  generalize (resolve line previous).rule = rule at quotes given
  cases rule with
  | stated =>
      obtain ⟨digits, uses, -⟩ := given
      exact .inl ⟨digits, uses⟩
  | magicRing =>
      rcases given with ⟨digits, uses, -⟩ | ⟨-, six⟩
      · exact .inl ⟨digits, uses⟩
      · exact .inr six
  | lastNumber =>
      obtain ⟨digits, uses, -⟩ := given
      exact .inl ⟨digits, uses⟩
  | bracketRepeat | growth | carried => simp [CountRule.quoting] at quotes

/-- **The numbers of a line are read at their value exactly where they are written in ASCII
digits.**  Whatever the line and the count before it, a run that the deciding rule uses is read as
the number that it writes, capped, when all its digits are ASCII digits, and otherwise as the
greatest count.  The count of a stated total, of a magic ring with a number and of a last number
is what is read from the run, and a group is multiplied by it.  So where one of the first three is
the greatest count, the number on the line is at least that, or it is not all ASCII digits. -/
theorem resolve_reads_written (line : List Char) (previous : Count) :
    (∀ digits, (resolve line previous).rule.Uses line digits →
      (readCount digits).toNat =
        if digits.all isAsciiDigit then min (writtenNumber digits) 4294967295
        else 4294967295) ∧
    (∀ digits, (resolve line previous).rule.Uses line digits →
      (resolve line previous).rule ∈ CountRule.quoting →
      (resolve line previous).count = readCount digits) ∧
    (∀ inside digits, (resolve line previous).rule = .bracketRepeat →
      LeftmostGroup line ⟨inside, digits⟩ → (resolve line previous).count =
        Count.cap (min (stitchesPerRepeat inside) 4294967295 * (readCount digits).toNat)) ∧
    ((resolve line previous).rule ∈ CountRule.quoting →
      (resolve line previous).count = 4294967295 →
      ∃ digits, (resolve line previous).rule.Uses line digits ∧
        (4294967295 ≤ writtenNumber digits ∨ ∃ c ∈ digits, isAsciiDigit c = false)) := by
  refine ⟨fun digits uses => toNat_readCount uses.isRun, fun digits uses quotes =>
    count_of_uses quotes uses, fun inside digits rule leftmost =>
    count_of_uses_group rule leftmost, fun quotes most => ?_⟩
  rcases exists_uses quotes with ⟨digits, uses⟩ | six
  · refine ⟨digits, uses, ?_⟩
    have read := toNat_readCount uses.isRun
    rw [← count_of_uses quotes uses, most] at read
    split at read
    · rename_i ascii
      left
      have isLeast : 4294967295 = min (writtenNumber digits) 4294967295 := read
      omega
    · rename_i other
      right
      simpa using other
  · rw [six] at most
    cases most

/-- Twelve, the last digit of it in another script. -/
def mixedTotal : List Char := "(1٢)".toList

theorem resolve_reads_written_mixedTotal :
    CountRule.stated.Uses mixedTotal "1٢".toList ∧ (resolve mixedTotal 6).rule = .stated ∧
      (readCount "1٢".toList).toNat = 4294967295 ∧
      (resolve mixedTotal 6).count = readCount "1٢".toList ∧
      ∃ digits, StatesTotal mixedTotal digits ∧ ∃ c ∈ digits, isAsciiDigit c = false := by
  have rule : (resolve mixedTotal 6).rule = .stated := by decide +kernel
  have uses : CountRule.stated.Uses mixedTotal "1٢".toList :=
    statedTotal_eq_some_iff.mp (by decide +kernel)
  obtain ⟨read, quoted, -, most⟩ := resolve_reads_written mixedTotal 6
  rw [rule] at read quoted most
  have quotes : CountRule.stated ∈ CountRule.quoting := by decide
  have other : ¬ "1٢".toList.all isAsciiDigit = true := by decide +kernel
  have greatest := read _ uses
  rw [if_neg other] at greatest
  obtain ⟨digits, used, large | foreign⟩ := most quotes (by decide +kernel)
  · -- the run is the only total of the line, and writes twelve
    have same : some digits = some "1٢".toList :=
      (statedTotal_eq_some_iff.mpr used).symm.trans (statedTotal_eq_some_iff.mpr uses)
    obtain rfl := Option.some.inj same
    exact absurd large (by decide +kernel)
  · exact ⟨uses, rule, greatest, quoted _ uses quotes, digits, used, foreign⟩

/-- A small total that is counted as the greatest one. -/
theorem mixedTotal_misread :
    StatesTotal mixedTotal "1٢".toList ∧ writtenNumber "1٢".toList = 12 ∧
      resolve mixedTotal 6 = ⟨4294967295, .stated⟩ ∧
      ¬(readCount "1٢".toList).toNat = min (writtenNumber "1٢".toList) 4294967295 := by
  exact ⟨statedTotal_eq_some_iff.mp (by decide +kernel), by decide +kernel, by decide +kernel,
    by decide +kernel⟩

end Crochet.Instruction
