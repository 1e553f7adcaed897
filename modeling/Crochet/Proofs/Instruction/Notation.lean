/-
# Crochet.Proofs.Instruction.Notation -- what the finders of counting marks find

Each mark is described by the shape of the line around it: the digits and the
parenthesis that end it, or an opening bracket, its first closing bracket and
a multiplier right behind.  The finders find exactly the marks so described,
and of several bracket groups the leftmost.
-/
import Crochet.Instruction.Notation
import Crochet.Proofs.Count
import Crochet.Proofs.Text.Pieces
import Crochet.Proofs.Text.Runs

set_option autoImplicit false

namespace Crochet.Instruction

open Text

/-! ## Stated totals -/

/-- The line ends in a total of these digits, in parentheses. -/
def StatesTotal (line digits : List Char) : Prop :=
  IsRun digits ∧ ∃ front, line = front ++ '(' :: (digits ++ [')'])

theorem StatesTotal.found {line digits : List Char} (stated : StatesTotal line digits) :
    statedTotal line = some digits := by
  obtain ⟨isRun, front, rfl⟩ := stated
  -- the finder reads the line backwards, from its closing parenthesis
  have reversed : (front ++ '(' :: (digits ++ [')'])).reverse =
      ')' :: (digits.reverse ++ '(' :: front.reverse) := by simp
  have all : ∀ c ∈ digits.reverse, isDigit c = true := fun c inside =>
    isRun.digits c (List.mem_reverse.mp inside)
  have stop : Stops isDigit ('(' :: front.reverse) := stops_cons.mpr (by decide)
  obtain ⟨d, ds, shape⟩ : ∃ d ds, digits.reverse = d :: ds :=
    List.exists_cons_of_ne_nil fun empty => isRun.ne_nil (List.reverse_eq_nil_iff.mp empty)
  have back : (d :: ds).reverse = digits := by rw [← shape, List.reverse_reverse]
  simp only [statedTotal, reversed, takeWhile_run all stop, dropWhile_run all stop]
  simp only [shape, back]

theorem statedTotal_eq_some_iff {line digits : List Char} :
    statedTotal line = some digits ↔ StatesTotal line digits := by
  constructor
  · intro found
    unfold statedTotal at found
    split at found
    · rename_i rest reversed
      split at found
      · rename_i d ds front run after
        obtain rfl := Option.some.inj found
        refine ⟨⟨by simp, fun c inside => ?_⟩, front.reverse, ?_⟩
        · have isTaken : c ∈ rest.takeWhile isDigit := run ▸ List.mem_reverse.mp inside
          exact List.mem_takeWhile_imp isTaken
        · have whole : rest = d :: ds ++ '(' :: front := by
            rw [← run, ← after, List.takeWhile_append_dropWhile]
          rw [← List.reverse_reverse line, reversed, whole]
          simp
      · cases found
    · cases found
  · exact StatesTotal.found

/-! ## Bracket groups -/

/-- The text starts with an `x` and these digits, blanks around the `x` allowed, and the digits
end there. -/
def Multiplies (after digits : List Char) : Prop :=
  ∃ blanks mark more rest, after = blanks ++ mark :: (more ++ (digits ++ rest)) ∧
    (∀ c ∈ blanks, isBlank c = true) ∧ (mark = 'x' ∨ mark = 'X') ∧
    (∀ c ∈ more, isBlank c = true) ∧ IsRun digits ∧ Stops isDigit rest

theorem trimStart_run {blanks rest : List Char} (all : ∀ c ∈ blanks, isBlank c = true)
    (stop : Stops isBlank rest) : trimStart (blanks ++ rest) = rest := dropWhile_run all stop

theorem Multiplies.found {after digits : List Char} (multiplies : Multiplies after digits) :
    multiplier after = some digits := by
  obtain ⟨blanks, mark, more, rest, rfl, allBlank, isMark, allMore, isRun, stop⟩ := multiplies
  have markStop : Stops isBlank (mark :: (more ++ (digits ++ rest))) := by
    rcases isMark with rfl | rfl <;> exact stops_cons.mpr (by decide)
  obtain ⟨d, ds, rfl⟩ : ∃ d ds, digits = d :: ds := List.exists_cons_of_ne_nil isRun.ne_nil
  have digitStop : Stops isBlank ((d :: ds) ++ rest) :=
    stops_cons.mpr (isBlank_of_isDigit (isRun.digits d List.mem_cons_self))
  rw [multiplier, trimStart_run allBlank markStop]
  simp only [isMark, if_true, trimStart_run allMore digitStop, takeWhile_run isRun.digits stop]

theorem multiplier_eq_some_iff {after digits : List Char} :
    multiplier after = some digits ↔ Multiplies after digits := by
  constructor
  · intro found
    obtain ⟨blanks, tail, rfl, allBlank, stop⟩ := exists_cut isBlank after
    rw [multiplier, trimStart_run allBlank stop] at found
    cases tail with
    | nil => cases found
    | cons mark tail =>
        obtain ⟨more, rest, rfl, allMore, stop⟩ := exists_cut isBlank tail
        obtain ⟨run, rest, rfl, allDigits, ends⟩ := exists_cut isDigit rest
        simp only [trimStart_run allMore stop, takeWhile_run allDigits ends] at found
        split at found
        · rename_i isMark
          cases run with
          | nil => cases found
          | cons d ds =>
              obtain rfl := Option.some.inj found
              exact ⟨blanks, mark, more, rest, rfl, allBlank, isMark, allMore,
                ⟨by simp, allDigits⟩, ends⟩
        · cases found
  · exact Multiplies.found

/-- The text behind an opening bracket goes on with this group: the inside up to the first closing
bracket, and a multiplier right behind that. -/
def Group.Opens (group : Group) (opened : List Char) : Prop :=
  ']' ∉ group.inside ∧ ∃ after, opened = group.inside ++ ']' :: after ∧
    Multiplies after group.digits

theorem groupAt_eq {inside after : List Char} (unclosed : ']' ∉ inside) :
    groupAt (inside ++ ']' :: after) = (multiplier after).map (Group.mk inside) := by
  have all : ∀ c ∈ inside, decide (c ≠ ']') = true := by
    intro c member
    exact decide_eq_true fun same => unclosed (same ▸ member)
  have stop : Stops (fun c => decide (c ≠ ']')) (']' :: after) := stops_cons.mpr (by decide)
  simp only [groupAt, takeWhile_run all stop, dropWhile_run all stop]

theorem groupAt_eq_some_iff {opened : List Char} {group : Group} :
    groupAt opened = some group ↔ group.Opens opened := by
  constructor
  · intro found
    obtain ⟨inside, rest, rfl, all, stop⟩ := exists_cut (fun c => decide (c ≠ ']')) opened
    have unclosed : ']' ∉ inside := fun member => by simpa using all ']' member
    cases rest with
    | nil =>
        have unmatched : (inside ++ []).dropWhile (fun c => decide (c ≠ ']')) = [] :=
          dropWhile_run all stop
        simp only [groupAt, unmatched] at found
        cases found
    | cons c after =>
        obtain rfl : c = ']' := by simpa using stops_cons.mp stop
        rw [groupAt_eq unclosed] at found
        obtain ⟨digits, multiplied, rfl⟩ := Option.map_eq_some_iff.mp found
        exact ⟨unclosed, after, rfl, multiplier_eq_some_iff.mp multiplied⟩
  · rintro ⟨unclosed, after, rfl, multiplies⟩
    rw [groupAt_eq unclosed, multiplies.found]
    rfl

theorem groupAt_eq_none_iff {opened : List Char} :
    groupAt opened = none ↔ ∀ group : Group, ¬ group.Opens opened := by
  simp only [← groupAt_eq_some_iff, Option.eq_none_iff_forall_ne_some, ne_eq]

/-! ## The leftmost group -/

/-- A group that opens at some bracket of the line, and no other opens at an earlier one. -/
def LeftmostGroup (line : List Char) (group : Group) : Prop :=
  ∃ before opened, line = before ++ '[' :: opened ∧ group.Opens opened ∧
    ∀ early later, line = early ++ '[' :: later → early.length < before.length →
      ∀ other : Group, ¬ other.Opens later

theorem bracketGroup_cons (c : Char) (cs : List Char) :
    bracketGroup (c :: cs) = (if c = '[' then groupAt cs else none).or (bracketGroup cs) := by
  simp only [bracketGroup]
  split
  · cases groupAt cs <;> rfl
  · rfl

/-- The openings of a line are its first character, if that is one, and those behind it. -/
theorem cons_eq_opening_iff {c : Char} {cs before opened : List Char} :
    c :: cs = before ++ '[' :: opened ↔ (before = [] ∧ c = '[' ∧ cs = opened) ∨
      ∃ front, before = c :: front ∧ cs = front ++ '[' :: opened := by
  rw [List.cons_eq_append_iff]
  simp [eq_comm]

theorem bracketGroup_eq_none_iff_forall {line : List Char} :
    bracketGroup line = none ↔
      ∀ before opened, line = before ++ '[' :: opened → ∀ group : Group, ¬ group.Opens opened := by
  induction line with
  | nil => simp [bracketGroup]
  | cons c cs ih =>
      rw [bracketGroup_cons, Option.or_eq_none_iff, ih]
      constructor
      · rintro ⟨here, later⟩ before opened shape
        rcases cons_eq_opening_iff.mp shape with ⟨-, bracket, rfl⟩ | ⟨front, -, rest⟩
        · rw [if_pos bracket] at here
          exact groupAt_eq_none_iff.mp here
        · exact later front opened rest
      · intro nowhere
        constructor
        · split
          · rename_i bracket
            exact groupAt_eq_none_iff.mpr
              (nowhere [] cs (cons_eq_opening_iff.mpr (.inl ⟨rfl, bracket, rfl⟩)))
          · rfl
        · intro front opened rest
          exact nowhere (c :: front) opened (cons_eq_opening_iff.mpr (.inr ⟨front, rfl, rest⟩))

/-- The leftmost group opens at the first character or is the leftmost one behind it. -/
theorem leftmostGroup_cons_iff {c : Char} {cs : List Char} {group : Group} :
    LeftmostGroup (c :: cs) group ↔ (c = '[' ∧ group.Opens cs) ∨
      ((c = '[' → ∀ other : Group, ¬ other.Opens cs) ∧ LeftmostGroup cs group) := by
  constructor
  · rintro ⟨before, opened, shape, opens, first⟩
    rcases cons_eq_opening_iff.mp shape with ⟨-, bracket, rfl⟩ | ⟨front, rfl, rest⟩
    · exact .inl ⟨bracket, opens⟩
    -- an opening behind the first character is one character earlier in the rest of the line
    · refine .inr ⟨fun bracket => ?_, front, opened, rest, opens, fun early later shape less => ?_⟩
      · exact first [] cs (cons_eq_opening_iff.mpr (.inl ⟨rfl, bracket, rfl⟩)) (by simp)
      · exact first (c :: early) later (cons_eq_opening_iff.mpr (.inr ⟨early, rfl, shape⟩))
          (by simpa using less)
  · rintro (⟨rfl, opens⟩ | ⟨unopened, front, opened, rest, opens, first⟩)
    · exact ⟨[], cs, rfl, opens, by simp⟩
    · refine ⟨c :: front, opened, by rw [rest]; rfl, opens, fun early later shape less => ?_⟩
      rcases cons_eq_opening_iff.mp shape with ⟨-, bracket, rfl⟩ | ⟨early, rfl, behind⟩
      · exact unopened bracket
      · exact first early later behind (by simpa using less)

theorem bracketGroup_eq_some_iff {line : List Char} {group : Group} :
    bracketGroup line = some group ↔ LeftmostGroup line group := by
  induction line with
  | nil => simp [bracketGroup, LeftmostGroup]
  | cons c cs ih =>
      rw [bracketGroup_cons, leftmostGroup_cons_iff, Option.or_eq_some_iff, ih]
      by_cases bracket : c = '['
      · simp [bracket, groupAt_eq_some_iff, groupAt_eq_none_iff]
      · simp [bracket]

/-! ## The stitches of a group -/

/-- What an instruction of a group leaves behind, at full value. -/
def stitchesOf (token : List Char) : Nat := if token = ['i', 'n', 'c'] then 2 else 1

/-- The stitches that one repeat leaves behind, at full value: the inside is split at commas, the
pieces are trimmed, and those that are not empty are added up. -/
def stitchesPerRepeat (inside : List Char) : Nat :=
  ((((inside.splitOn ',').map trim).filter (· ≠ [])).map stitchesOf).sum

theorem contribution_eq (token : List Char) : contribution token = Count.cap (stitchesOf token) := by
  unfold contribution stitchesOf
  split <;> rfl

/-- The total of a repeat is its exact total, capped. -/
theorem perRepeat_eq (inside : List Char) :
    perRepeat inside = Count.cap (stitchesPerRepeat inside) := by
  have kept : tokens inside = ((inside.splitOn ',').map trim).filter (· ≠ []) := by
    rw [tokens, pieces_eq_splitOn]
    congr 1
    funext token
    cases token <;> simp
  have counted : (tokens inside).map contribution =
      ((tokens inside).map stitchesOf).map Count.cap := by
    rw [List.map_map]
    exact List.map_congr_left fun token _ => contribution_eq token
  have summed := Count.foldl_plus_cap 0 ((tokens inside).map stitchesOf)
  rw [perRepeat, counted, stitchesPerRepeat, ← kept]
  rwa [Nat.zero_add] at summed

end Crochet.Instruction
