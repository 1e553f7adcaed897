/-
# Crochet.Proofs.Text.Runs -- the digit runs of a text

`digitRuns` finds the maximal digit runs.  Cutting a text beside a character
that is no digit cuts the list of its runs in two, so the first and the last
run are told by what stands around them: no digit before the first one, none
after the last one.
-/
import Crochet.Proofs.Text.Cuts
import Crochet.Proofs.Text.Digits
import Mathlib.Data.List.Basic

set_option autoImplicit false

namespace Crochet.Text

/-- A run of digits: at least one, and nothing else. -/
structure IsRun (run : List Char) : Prop where
  ne_nil : run ≠ []
  digits : ∀ c ∈ run, isDigit c = true

/-- The leftmost maximal digit run of a text. -/
def FirstRun (cs run : List Char) : Prop :=
  ∃ before after, cs = before ++ (run ++ after) ∧ (∀ c ∈ before, isDigit c = false) ∧
    IsRun run ∧ Stops isDigit after

/-- The rightmost maximal digit run of a text. -/
def LastRun (cs run : List Char) : Prop :=
  ∃ before after, cs = before ++ (run ++ after) ∧ Stops isDigit before.reverse ∧
    IsRun run ∧ ∀ c ∈ after, isDigit c = false

/-! ## Digits and blanks -/

/-- The blanks behind the ASCII range. -/
def wideBlanks : List Nat := [0x85, 0xA0, 0x1680, 0x2000, 0x2001, 0x2002, 0x2003, 0x2004, 0x2005,
  0x2006, 0x2007, 0x2008, 0x2009, 0x200A, 0x2028, 0x2029, 0x202F, 0x205F, 0x3000]

theorem zeros_of_wideBlanks :
    ∀ n ∈ wideBlanks, (zeros.any fun z => z ≤ n && n < z + 10) = false := by decide

theorem mem_wideBlanks {c : Char} (wide : 0x80 ≤ c.toNat) (blank : isBlank c = true) :
    c.toNat ∈ wideBlanks := by
  simp only [isBlank, Bool.or_eq_true, Bool.and_eq_true, decide_eq_true_eq, beq_iff_eq] at blank
  simp only [wideBlanks, List.mem_cons, List.not_mem_nil, or_false]
  omega

/-- No digit is blank. -/
theorem isBlank_of_isDigit {c : Char} (digit : isDigit c = true) : isBlank c = false := by
  rcases Bool.or_eq_true_iff.mp digit with ascii | other
  · exact isBlank_of_isAsciiDigit ascii
  · by_contra blank
    obtain ⟨wide, isZero⟩ := Bool.and_eq_true_iff.mp other
    have known := mem_wideBlanks (decide_eq_true_eq.mp wide) (by simpa using blank)
    rw [zeros_of_wideBlanks _ known] at isZero
    cases isZero

/-! ## Cutting a text between its runs -/

theorem digitRunsFrom_append_cons (run before after : List Char) {c : Char}
    (gap : isDigit c = false) :
    digitRunsFrom run (before ++ c :: after) = digitRunsFrom run before ++ digitRuns after := by
  -- the run read so far is ended by the gap, if not by a character before it
  induction before generalizing run with
  | nil =>
      simp only [List.nil_append, digitRunsFrom, gap, digitRuns]
      cases run <;> simp
  | cons d before ih =>
      simp only [List.cons_append, digitRunsFrom]
      split
      · exact ih _
      · split
        · exact ih _
        · rw [ih, List.cons_append]

theorem digitRuns_cons {c : Char} (gap : isDigit c = false) (cs : List Char) :
    digitRuns (c :: cs) = digitRuns cs :=
  digitRunsFrom_append_cons [] [] cs gap

/-- A text is cut into its runs piece by piece where no run goes across. -/
theorem digitRuns_append {before after : List Char}
    (apart : Stops isDigit before.reverse ∨ Stops isDigit after) :
    digitRuns (before ++ after) = digitRuns before ++ digitRuns after := by
  rcases apart with left | right
  · rcases List.eq_nil_or_concat' before with rfl | ⟨front, c, rfl⟩
    · rfl
    · rw [List.reverse_concat] at left
      have gap : isDigit c = false := stops_cons.mp left
      have alone : digitRuns (front ++ [c]) = digitRuns front ++ digitRuns [] :=
        digitRunsFrom_append_cons [] front [] gap
      rw [alone, List.append_assoc]
      simpa [digitRuns, digitRunsFrom] using digitRunsFrom_append_cons [] front after gap
  · cases after with
    | nil => simp [digitRuns, digitRunsFrom]
    | cons c after =>
        have gap : isDigit c = false := stops_cons.mp right
        rw [digitRuns_cons gap]
        exact digitRunsFrom_append_cons [] before after gap

theorem digitRuns_of_no_digit {cs : List Char} (none : ∀ c ∈ cs, isDigit c = false) :
    digitRuns cs = [] := by
  induction cs with
  | nil => rfl
  | cons c cs ih =>
      rw [digitRuns_cons (none c List.mem_cons_self)]
      exact ih fun d inside => none d (List.mem_cons_of_mem c inside)

theorem digitRunsFrom_of_digits {digits : List Char} (run : List Char)
    (all : ∀ c ∈ digits, isDigit c = true) :
    digitRunsFrom run digits = digitRunsFrom (digits.reverse ++ run) [] := by
  induction digits generalizing run with
  | nil => rfl
  | cons d digits ih =>
      have first : isDigit d = true := all d List.mem_cons_self
      have step : digitRunsFrom run (d :: digits) = digitRunsFrom (d :: run) digits := by
        simp [digitRunsFrom, first]
      rw [step, ih _ fun c inside => all c (List.mem_cons_of_mem d inside)]
      simp

theorem digitRuns_of_isRun {run : List Char} (isRun : IsRun run) : digitRuns run = [run] := by
  rw [digitRuns, digitRunsFrom_of_digits [] isRun.digits]
  simp [digitRunsFrom, isRun.ne_nil]

/-- A maximal run is one of the runs, behind those before it and before those behind it. -/
theorem digitRuns_around {before run after : List Char} (left : Stops isDigit before.reverse)
    (isRun : IsRun run) (right : Stops isDigit after) :
    digitRuns (before ++ (run ++ after)) = digitRuns before ++ run :: digitRuns after := by
  rw [digitRuns_append (.inl left), digitRuns_append (.inr right), digitRuns_of_isRun isRun]
  rfl

/-! ## The first and the last run -/

theorem stops_of_no_digit {cs : List Char} (none : ∀ c ∈ cs, isDigit c = false) :
    Stops isDigit cs := fun c first => none c (List.mem_of_head? first)

theorem FirstRun.head? {cs run : List Char} (first : FirstRun cs run) :
    (digitRuns cs).head? = some run := by
  obtain ⟨before, after, rfl, gap, isRun, stop⟩ := first
  have left : Stops isDigit before.reverse :=
    stops_of_no_digit fun c inside => gap c (List.mem_reverse.mp inside)
  rw [digitRuns_around left isRun stop, digitRuns_of_no_digit gap]
  rfl

theorem LastRun.getLast? {cs run : List Char} (last : LastRun cs run) :
    (digitRuns cs).getLast? = some run := by
  obtain ⟨before, after, rfl, left, isRun, gap⟩ := last
  rw [digitRuns_around left isRun (stops_of_no_digit gap), digitRuns_of_no_digit gap]
  simp

theorem exists_firstRun {cs : List Char} (any : ∃ c ∈ cs, isDigit c = true) :
    ∃ run, FirstRun cs run := by
  obtain ⟨before, rest, rfl, gap, start⟩ := exists_cut (fun c => !isDigit c) cs
  obtain ⟨run, after, rfl, digits, stop⟩ := exists_cut isDigit rest
  have none : ∀ c ∈ before, isDigit c = false := fun c inside => by simpa using gap c inside
  refine ⟨run, before, after, rfl, none, ⟨?_, digits⟩, stop⟩
  rintro rfl
  -- then the rest starts neither with a digit nor with another character
  obtain ⟨c, inside, digit⟩ := any
  rcases List.mem_append.mp inside with early | late
  · rw [none c early] at digit
    cases digit
  · cases after with
    | nil => cases late
    | cons d after =>
        have noDigit : isDigit d = false := stops_cons.mp stop
        have isDigit : isDigit d = true := by simpa using stops_cons.mp start
        rw [noDigit] at isDigit
        cases isDigit

theorem exists_lastRun {cs : List Char} (any : ∃ c ∈ cs, isDigit c = true) :
    ∃ run, LastRun cs run := by
  -- the last run is the first one of the text read backwards
  obtain ⟨c, inside, digit⟩ := any
  obtain ⟨run, before, after, shape, gap, isRun, stop⟩ :=
    exists_firstRun ⟨c, List.mem_reverse.mpr inside, digit⟩
  have same : cs = after.reverse ++ (run.reverse ++ before.reverse) := by
    rw [← List.reverse_reverse cs, shape]
    simp
  refine ⟨run.reverse, after.reverse, before.reverse, same, ?_, ⟨?_, fun d digit => ?_⟩,
    fun d early => ?_⟩
  · rwa [List.reverse_reverse]
  · exact fun empty => isRun.ne_nil (List.reverse_eq_nil_iff.mp empty)
  · exact isRun.digits d (List.mem_reverse.mp digit)
  · exact gap d (List.mem_reverse.mp early)

theorem digitRuns_eq_nil_iff {cs : List Char} :
    digitRuns cs = [] ↔ ∀ c ∈ cs, isDigit c = false := by
  constructor
  · intro empty c inside
    by_contra digit
    obtain ⟨run, first⟩ := exists_firstRun ⟨c, inside, by simpa using digit⟩
    simpa [empty] using first.head?
  · exact digitRuns_of_no_digit

theorem exists_digit {cs : List Char} (some : digitRuns cs ≠ []) :
    ∃ c ∈ cs, isDigit c = true := by
  by_contra none
  exact some (digitRuns_eq_nil_iff.mpr (by simpa using none))

theorem head?_digitRuns_eq_some_iff {cs run : List Char} :
    (digitRuns cs).head? = some run ↔ FirstRun cs run := by
  constructor
  · intro head
    have some : digitRuns cs ≠ [] := fun empty => by simp [empty] at head
    obtain ⟨other, first⟩ := exists_firstRun (exists_digit some)
    obtain rfl : run = other := Option.some.inj (head.symm.trans first.head?)
    exact first
  · exact FirstRun.head?

theorem getLast?_digitRuns_eq_some_iff {cs run : List Char} :
    (digitRuns cs).getLast? = some run ↔ LastRun cs run := by
  constructor
  · intro tail
    have some : digitRuns cs ≠ [] := fun empty => by simp [empty] at tail
    obtain ⟨other, last⟩ := exists_lastRun (exists_digit some)
    obtain rfl : run = other := Option.some.inj (tail.symm.trans last.getLast?)
    exact last
  · exact LastRun.getLast?

end Crochet.Text
