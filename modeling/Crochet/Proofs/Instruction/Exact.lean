/-
# Crochet.Proofs.Instruction.Exact -- lines resolved without a greatest count

`resolveExactly` resolves a line in unbounded numbers: digit runs are read at
full value, and sums, products and growth are exact.  Where all digits are
ASCII digits, `resolve` gives the same rule and the exact number capped, even
after a previous count that was capped already.
-/
import Crochet.Instruction.Resolve
import Crochet.Proofs.Instruction.Notation

set_option autoImplicit false

namespace Crochet.Instruction

open Text

/-- The number that an ASCII digit run spells, however large. -/
def exactNumber (digits : List Char) : Nat := Nat.ofDigitChars 10 digits 0

/-- A number of stitches without a limit, and the rule that gave it. -/
structure Exact where
  number : Nat
  rule : CountRule
deriving DecidableEq, Repr

/-- The rules for a line with neither a stated total nor a bracket group, in exact numbers. -/
def resolvePlainExactly (line : List Char) (previous : Nat) : Exact :=
  let runs := digitRuns line
  if namesMagicRing line then
    { number := (runs.head?.map exactNumber).getD 6, rule := .magicRing }
  else if namesIncrease line then
    { number := 3 * previous / 2, rule := .growth }
  else
    match runs.getLast? with
    | some digits => { number := exactNumber digits, rule := .lastNumber }
    | none => { number := previous, rule := .carried }

/-- The number of stitches of a line after a round of `previous` stitches, both exact. -/
def resolveExactly (line : List Char) (previous : Nat) : Exact :=
  match statedTotal line with
  | some digits => { number := exactNumber digits, rule := .stated }
  | none =>
    match bracketGroup line with
    | some group =>
      { number := stitchesPerRepeat group.inside * exactNumber group.digits
        rule := .bracketRepeat }
    | none => resolvePlainExactly line previous

/-- The exact number as a count. -/
def Exact.capped (exact : Exact) : Resolved := { count := .cap exact.number, rule := exact.rule }

/-! ## Reading digit runs -/

/-- Every digit of the text is an ASCII digit. -/
def AsciiDigits (cs : List Char) : Prop := ∀ c ∈ cs, isDigit c = true → isAsciiDigit c = true

variable {line : List Char}

theorem readCount_eq {digits : List Char} (ascii : AsciiDigits line) (isRun : IsRun digits)
    (inside : digits ⊆ line) : readCount digits = Count.cap (exactNumber digits) := by
  have all : ∀ c ∈ digits, isAsciiDigit c = true := fun c member =>
    ascii c (inside member) (isRun.digits c member)
  have spelled : decimalValue? digits = some (exactNumber digits) := by
    simpa [decimalValue?, exactNumber, isRun.ne_nil] using all
  rw [readCount, spelled]

/-- A piece between two others is part of the text. -/
theorem subset_between (before piece after : List Char) : piece ⊆ before ++ (piece ++ after) :=
  fun _ member => List.mem_append_right _ (List.mem_append_left _ member)

theorem readCount_stated {digits : List Char} (ascii : AsciiDigits line)
    (stated : StatesTotal line digits) : readCount digits = Count.cap (exactNumber digits) := by
  obtain ⟨isRun, front, rfl⟩ := stated
  refine readCount_eq ascii isRun ?_
  simpa using subset_between (front ++ ['(']) digits [')']

theorem readCount_group {group : Group} (ascii : AsciiDigits line)
    (leftmost : LeftmostGroup line group) :
    readCount group.digits = Count.cap (exactNumber group.digits) := by
  obtain ⟨before, opened, rfl, ⟨-, after, rfl, multiplies⟩, -⟩ := leftmost
  obtain ⟨blanks, mark, more, rest, rfl, -, -, -, isRun, -⟩ := multiplies
  refine readCount_eq ascii isRun ?_
  simpa using subset_between (before ++ '[' :: (group.inside ++ ']' :: (blanks ++ mark :: more)))
    group.digits rest

theorem readCount_first {digits : List Char} (ascii : AsciiDigits line)
    (first : FirstRun line digits) : readCount digits = Count.cap (exactNumber digits) := by
  obtain ⟨before, after, rfl, -, isRun, -⟩ := first
  exact readCount_eq ascii isRun (subset_between before digits after)

theorem readCount_last {digits : List Char} (ascii : AsciiDigits line)
    (last : LastRun line digits) : readCount digits = Count.cap (exactNumber digits) := by
  obtain ⟨before, after, rfl, -, isRun, -⟩ := last
  exact readCount_eq ascii isRun (subset_between before digits after)

/-! ## Resolving a line -/

theorem resolvePlain_cap (ascii : AsciiDigits line) (previous : Nat) :
    resolvePlain line (.cap previous) = (resolvePlainExactly line previous).capped := by
  simp only [resolvePlain, resolvePlainExactly]
  split
  · cases found : (digitRuns line).head? with
    | none => rfl
    | some digits =>
        have read := readCount_first ascii (head?_digitRuns_eq_some_iff.mp found)
        simp [Exact.capped, read]
  · split
    · rw [Count.grown_cap]
      rfl
    · cases found : (digitRuns line).getLast? with
      | none => rfl
      | some digits =>
          have read := readCount_last ascii (getLast?_digitRuns_eq_some_iff.mp found)
          simp [Exact.capped, read]

/-- **Resolving a line after a capped count** caps the exact number. -/
theorem resolve_cap (ascii : AsciiDigits line) (previous : Nat) :
    resolve line (.cap previous) = (resolveExactly line previous).capped := by
  rw [resolve, resolveExactly]
  cases found : statedTotal line with
  | some digits =>
      have read := readCount_stated ascii (statedTotal_eq_some_iff.mp found)
      simp [Exact.capped, read]
  | none =>
      cases grouped : bracketGroup line with
      | some group =>
          have read := readCount_group ascii (bracketGroup_eq_some_iff.mp grouped)
          simp [Exact.capped, Group.total, perRepeat_eq, read, Count.times_cap]
      | none => exact resolvePlain_cap ascii previous

end Crochet.Instruction
