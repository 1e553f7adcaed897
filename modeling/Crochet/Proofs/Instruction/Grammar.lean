/-
# Crochet.Proofs.Instruction.Grammar -- the ranked grammar of counting lines

Every rule says to which lines it applies and which count it gives there, by
the shape of the line alone.  A rule decides a line when it applies and no rule
of lower rank does, so exactly one rule decides.  `resolve` reports that rule
and the one count that it gives.
-/
import Crochet.Instruction.Resolve
import Crochet.Proofs.Instruction.Notation

set_option autoImplicit false

namespace Crochet.Instruction

open Text

namespace CountRule

/-- The rank of a rule: a lower one is tried first. -/
def rank : CountRule → Nat
  | stated => 0
  | bracketRepeat => 1
  | magicRing => 2
  | growth => 3
  | lastNumber => 4
  | carried => 5

/-- The rule has something to say about the line. -/
def Applies (line : List Char) : CountRule → Prop
  | stated => ∃ digits, StatesTotal line digits
  | bracketRepeat => ∃ before opened, line = before ++ '[' :: opened ∧
      ∃ group : Group, group.Opens opened
  | magicRing => "MR".toList <:+: line ∨ "magic ring".toList <:+: line
  | growth => "inc".toList <:+: line
  | lastNumber => ∃ c ∈ line, isDigit c = true
  | carried => True

/-- The rule gives this count to the line after a round of `previous` stitches. -/
def Gives (line : List Char) (previous count : Count) : CountRule → Prop
  | stated => ∃ digits, StatesTotal line digits ∧ count = readCount digits
  | bracketRepeat => ∃ group, LeftmostGroup line group ∧ count = Count.cap
      (min (stitchesPerRepeat group.inside) Count.greatest * (readCount group.digits).toNat)
  | magicRing => (∃ digits, FirstRun line digits ∧ count = readCount digits) ∨
      ((∀ c ∈ line, isDigit c = false) ∧ count = 6)
  | growth => count = Count.cap (previous.toNat + previous.toNat / 2)
  | lastNumber => ∃ digits, LastRun line digits ∧ count = readCount digits
  | carried => count = previous

/-- No rule of lower rank applies to the line. -/
def Reached (line : List Char) (rank : Nat) : Prop :=
  ∀ other : CountRule, other.rank < rank → ¬ other.Applies line

/-- The rule is the first one that applies. -/
def Decides (line : List Char) (rule : CountRule) : Prop :=
  rule.Applies line ∧ Reached line rule.rank

theorem rank_injective : Function.Injective rank := by
  intro rule other same
  cases rule <;> cases other <;> first | rfl | cases same

theorem reached_zero (line : List Char) : Reached line 0 :=
  fun _ less => absurd less (Nat.not_lt_zero _)

/-- A rule that does not apply hands the line on to the next one. -/
theorem Reached.next {line : List Char} (rule : CountRule) (reached : Reached line rule.rank)
    (silent : ¬ rule.Applies line) : Reached line (rule.rank + 1) := by
  intro other less
  rcases Nat.lt_succ_iff_lt_or_eq.mp less with lower | same
  · exact reached other lower
  · rwa [rank_injective same]

/-- No two rules decide a line. -/
theorem Decides.unique {line : List Char} {rule other : CountRule} (decides : rule.Decides line)
    (also : other.Decides line) : rule = other := by
  rcases Nat.lt_trichotomy rule.rank other.rank with less | same | more
  · exact absurd decides.1 (also.2 rule less)
  · exact rank_injective same
  · exact absurd also.1 (decides.2 other more)

end CountRule

/-! ## When a finder finds nothing -/

theorem statedTotal_eq_none_iff {line : List Char} :
    statedTotal line = none ↔ ¬ CountRule.stated.Applies line := by
  simp only [CountRule.Applies, ← statedTotal_eq_some_iff, Option.eq_none_iff_forall_ne_some,
    not_exists, ne_eq]

theorem bracketGroup_eq_none_iff {line : List Char} :
    bracketGroup line = none ↔ ¬ CountRule.bracketRepeat.Applies line := by
  rw [bracketGroup_eq_none_iff_forall]
  simp only [CountRule.Applies, not_exists, not_and]

theorem namesMagicRing_iff {line : List Char} :
    namesMagicRing line = true ↔ CountRule.magicRing.Applies line := by
  rw [namesMagicRing, Bool.or_eq_true, occurs_iff, occurs_iff]
  rfl

theorem namesIncrease_iff {line : List Char} :
    namesIncrease line = true ↔ CountRule.growth.Applies line := occurs_iff _ line

theorem getLast?_digitRuns_eq_none_iff {line : List Char} :
    (digitRuns line).getLast? = none ↔ ¬ CountRule.lastNumber.Applies line := by
  rw [List.getLast?_eq_none_iff, digitRuns_eq_nil_iff]
  simp [CountRule.Applies]

/-! ## What a rule gives when its finder found something -/

variable {line : List Char} {previous : Count}

theorem gives_stated_iff {digits : List Char} (found : statedTotal line = some digits)
    (count : Count) :
    CountRule.stated.Gives line previous count ↔ count = readCount digits := by
  simp [CountRule.Gives, ← statedTotal_eq_some_iff, found]

theorem Group.total_eq (group : Group) :
    group.total = Count.cap
      (min (stitchesPerRepeat group.inside) Count.greatest * (readCount group.digits).toNat) := by
  rw [Group.total, perRepeat_eq, Count.times, Count.toNat_cap]

theorem gives_bracketRepeat_iff {group : Group} (found : bracketGroup line = some group)
    (count : Count) :
    CountRule.bracketRepeat.Gives line previous count ↔ count = group.total := by
  simp only [CountRule.Gives, ← bracketGroup_eq_some_iff, found, ← Group.total_eq]
  simp

theorem gives_magicRing_iff (count : Count) :
    CountRule.magicRing.Gives line previous count ↔
      count = (((digitRuns line).head?.map readCount).getD firstRound) := by
  simp only [CountRule.Gives, ← head?_digitRuns_eq_some_iff, ← digitRuns_eq_nil_iff]
  cases digitRuns line with
  | nil => simp [firstRound]
  | cons run runs => simp

theorem gives_growth_iff (count : Count) :
    CountRule.growth.Gives line previous count ↔ count = previous.grown := by
  have half : (previous / 2).toNat = previous.toNat / 2 := UInt32.toNat_div _ _
  rw [CountRule.Gives, Count.grown, Count.plus, half]

theorem gives_lastNumber_iff {digits : List Char} (found : (digitRuns line).getLast? = some digits)
    (count : Count) :
    CountRule.lastNumber.Gives line previous count ↔ count = readCount digits := by
  simp [CountRule.Gives, ← getLast?_digitRuns_eq_some_iff, found]

/-! ## The rule that decides -/

/-- What a line is resolved to: the rule that decides it and the one count that this rule gives. -/
structure Resolved.Right (resolved : Resolved) (line : List Char) (previous : Count) : Prop where
  decides : resolved.rule.Decides line
  gives_iff : ∀ count, resolved.rule.Gives line previous count ↔ count = resolved.count

theorem resolvePlain_right (reached : CountRule.Reached line CountRule.magicRing.rank) :
    (resolvePlain line previous).Right line previous := by
  simp only [resolvePlain]
  split
  · rename_i magic
    exact ⟨⟨namesMagicRing_iff.mp magic, reached⟩, gives_magicRing_iff⟩
  · rename_i noRing
    have pastRing := reached.next .magicRing (namesMagicRing_iff.not.mp noRing)
    split
    · rename_i grows
      exact ⟨⟨namesIncrease_iff.mp grows, pastRing⟩, gives_growth_iff⟩
    · rename_i noIncrease
      have pastGrowth := pastRing.next .growth (namesIncrease_iff.not.mp noIncrease)
      split
      · rename_i digits found
        have numbered : CountRule.lastNumber.Applies line := by
          by_contra unnumbered
          rw [getLast?_digitRuns_eq_none_iff.mpr unnumbered] at found
          cases found
        exact ⟨⟨numbered, pastGrowth⟩, gives_lastNumber_iff found⟩
      · rename_i found
        have pastNumbers := pastGrowth.next .lastNumber
          (getLast?_digitRuns_eq_none_iff.mp found)
        exact ⟨⟨trivial, pastNumbers⟩, fun count => Iff.rfl⟩

theorem resolve_right (line : List Char) (previous : Count) :
    (resolve line previous).Right line previous := by
  have start : CountRule.Reached line CountRule.stated.rank := CountRule.reached_zero line
  rw [resolve]
  split
  · rename_i digits found
    exact ⟨⟨⟨digits, statedTotal_eq_some_iff.mp found⟩, start⟩, gives_stated_iff found⟩
  · rename_i found
    have pastTotal := start.next .stated (statedTotal_eq_none_iff.mp found)
    split
    · rename_i group found
      obtain ⟨before, opened, shape, opens, -⟩ := bracketGroup_eq_some_iff.mp found
      exact ⟨⟨⟨before, opened, shape, group, opens⟩, pastTotal⟩, gives_bracketRepeat_iff found⟩
    · rename_i found
      exact resolvePlain_right
        (pastTotal.next .bracketRepeat (bracketGroup_eq_none_iff.mp found))

/-! ## What the count before can change -/

/-- The rules that take a count from the line alone. -/
def CountRule.selfContained : List CountRule := [.stated, .bracketRepeat, .magicRing, .lastNumber]

theorem CountRule.gives_congr {rule : CountRule} (self : rule ∈ selfContained)
    (previous other count : Count) : rule.Gives line previous count ↔ rule.Gives line other count := by
  cases rule with
  | stated | bracketRepeat | magicRing | lastNumber => exact Iff.rfl
  | growth | carried => simp [selfContained] at self

/-- Which rule decides a line is read off the line. -/
theorem resolve_rule (line : List Char) (previous other : Count) :
    (resolve line previous).rule = (resolve line other).rule :=
  (resolve_right line previous).decides.unique (resolve_right line other).decides

theorem resolve_count (line : List Char) (previous other : Count)
    (self : (resolve line previous).rule ∈ CountRule.selfContained) :
    (resolve line previous).count = (resolve line other).count := by
  have given := ((resolve_right line previous).gives_iff _).mpr rfl
  rw [CountRule.gives_congr self previous other, resolve_rule line previous other] at given
  exact ((resolve_right line other).gives_iff _).mp given

/-! ## The grammar as a whole -/

/-- **Resolving a line follows its ranked grammar exactly**, for every line and every count before
it: the rule is the first one that applies, and the count is the one which that rule gives. -/
theorem resolve_iff (line : List Char) (previous : Count) :
    (∀ rule, (resolve line previous).rule = rule ↔
      rule.Applies line ∧ ∀ other : CountRule, other.rank < rule.rank → ¬ other.Applies line) ∧
    ∀ count, (resolve line previous).rule.Gives line previous count ↔
      count = (resolve line previous).count := by
  have right := resolve_right line previous
  refine ⟨fun rule => ⟨?_, fun decides => ?_⟩, right.gives_iff⟩
  · rintro rfl
    exact right.decides
  · exact right.decides.unique decides

/-- An opening bracket goes with the first closing one behind it. -/
example : resolve "[a, [inc, b] x2] x3 (9) MR".toList 6 = ⟨6, .bracketRepeat⟩ := by decide +kernel

end Crochet.Instruction
