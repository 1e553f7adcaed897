/-
# Crochet.Proofs.Pattern.Lines -- patterns are read one line after another

All that a reader keeps between two lines is the number of the next round and
the count of the last one.  So a text that is continued behind a line break is
read on from there: the earlier rounds stay, and of the later ones only the
numbers move, and the counts up to the first line that has one of its own.
-/
import Crochet.Pattern
import Crochet.Proofs.Instruction.Grammar

set_option autoImplicit false

namespace Crochet.Pattern

open Text Instruction

/-! ## Lines -/

/-- Two texts with a line break between them have the lines of both, whatever stands at the end of
the one and at the start of the other. -/
theorem lines_append (front back : List Char) :
    lines (front ++ '\n' :: back) = lines front ++ lines back := by
  rw [lines, pieces_append_sep, List.map_append, List.filter_append, ← lines, ← lines]

/-! ## Reading on -/

/-- The count that a round follows: that of the last round before it, or the one before them
all. -/
def countAfter (previous : Count) (rounds : List Round) : Count :=
  (rounds.getLast?.map Round.stitches).getD previous

/-- Every round has the count that its text gets after the round before it. -/
def Counted : Count → List Round → Prop
  | _, [] => True
  | previous, round :: rest =>
      round.stitches = (resolve round.text.toList previous).count ∧ Counted round.stitches rest

theorem countAfter_cons (previous : Count) (round : Round) (rounds : List Round) :
    countAfter previous (round :: rounds) = countAfter round.stitches rounds := by
  cases rounds with
  | nil => rfl
  | cons next rounds => simp [countAfter, List.getLast?_cons]

theorem readLines_append (index : Nat) (previous : Count) (front back : List (List Char)) :
    readLines index previous (front ++ back) = readLines index previous front ++
      readLines (front.length + index)
        (countAfter previous ((readLines index previous front).map Prod.fst)) back := by
  induction front generalizing index previous with
  | nil => simp [readLines, countAfter]
  | cons line front ih =>
      have numbered : front.length + (index + 1) = (line :: front).length + index := by
        rw [List.length_cons]
        omega
      rw [List.cons_append, readLines, ih, numbered, readLines, List.map_cons, countAfter_cons]
      rfl

theorem readLines_length (index : Nat) (previous : Count) (lines : List (List Char)) :
    (readLines index previous lines).length = lines.length := by
  induction lines generalizing index previous with
  | nil => rfl
  | cons line rest ih => rw [readLines, List.length_cons, List.length_cons, ih]

theorem readLines_texts (index : Nat) (previous : Count) (lines : List (List Char)) :
    ((readLines index previous lines).map Prod.fst).map Round.text = lines.map String.ofList := by
  induction lines generalizing index previous with
  | nil => rfl
  | cons line rest ih =>
      rw [readLines, List.map_cons, List.map_cons, ih, List.map_cons]
      rfl

theorem readLines_counted (index : Nat) (previous : Count) (lines : List (List Char)) :
    Counted previous ((readLines index previous lines).map Prod.fst) := by
  induction lines generalizing index previous with
  | nil => trivial
  | cons line rest ih => exact ⟨by simp [Round.ofText], ih _ _⟩

/-! ## Reading from elsewhere -/

/-- Read from a later number and after another count, lines give the same rounds with later
numbers, by the same rules; the counts are left open. -/
theorem readLines_shift (shift index : Nat) (previous other : Count) (lines : List (List Char)) :
    (readLines (shift + index) previous lines).map (fun (round, rule) =>
        (round.index, round.text, round.increases, round.decreases, rule)) =
      (readLines index other lines).map fun (round, rule) =>
        (shift + round.index, round.text, round.increases, round.decreases, rule) := by
  induction lines generalizing index previous other with
  | nil => rfl
  | cons line rest ih =>
      have later := ih (index + 1) (resolve line previous).count (resolve line other).count
      rw [← Nat.add_assoc] at later
      rw [readLines, readLines, List.map_cons, List.map_cons, later,
        resolve_rule line previous other]
      rfl

/-- Counts do not depend on where the numbers start. -/
theorem readLines_counts (index start : Nat) (previous : Count) (lines : List (List Char)) :
    (readLines index previous lines).map (fun entry => entry.1.stitches) =
      (readLines start previous lines).map fun entry => entry.1.stitches := by
  induction lines generalizing index start previous with
  | nil => rfl
  | cons line rest ih =>
      rw [readLines, readLines, List.map_cons, List.map_cons, ih (index + 1) (start + 1)]
      rfl

/-- From the first line that has a count of its own, the count before all lines does not show. -/
theorem readLines_counts_from (index start : Nat) (previous other : Count)
    (lines : List (List Char)) (k : Nat) (rule : CountRule)
    (decided : ((readLines start other lines).map Prod.snd)[k]? = some rule)
    (self : rule ∈ CountRule.selfContained) :
    ((readLines index previous lines).map fun entry => entry.1.stitches).drop k =
      ((readLines start other lines).map fun entry => entry.1.stitches).drop k := by
  induction lines generalizing index start previous other k with
  | nil => rfl
  | cons line rest ih =>
      cases k with
      | zero =>
          have here : (resolve line other).rule = rule := by
            simpa [readLines] using decided
          have same : (resolve line previous).count = (resolve line other).count :=
            (resolve_count line other previous (here ▸ self)).symm
          have later := readLines_counts (index + 1) (start + 1) (resolve line other).count rest
          rw [List.drop_zero, List.drop_zero, readLines, readLines, List.map_cons, List.map_cons,
            same, later]
          rfl
      | succ k =>
          have behind : ((readLines (start + 1) (resolve line other).count rest).map
              Prod.snd)[k]? = some rule := by
            simpa [readLines] using decided
          rw [readLines, readLines, List.map_cons, List.map_cons, List.drop_succ_cons,
            List.drop_succ_cons]
          exact ih (index + 1) (start + 1) _ _ k behind

/-! ## Patterns -/

theorem parse_rounds (text : String) :
    (parse text).rounds = (readLines 1 firstRound (lines text.toList)).map Prod.fst := rfl

theorem parse_texts (text : String) :
    (parse text).rounds.map Round.text = (lines text.toList).map String.ofList :=
  readLines_texts 1 firstRound (lines text.toList)

theorem read_append (a b : String) :
    read (a ++ "\n" ++ b) = read a ++
      readLines ((parse a).length + 1) (countAfter firstRound (parse a).rounds)
        (lines b.toList) := by
  have chars : (a ++ "\n" ++ b).toList = a.toList ++ '\n' :: b.toList := by simp
  have rounds : (lines a.toList).length = (parse a).length := by
    rw [length, parse, List.length_map, read, readLines_length]
  rw [read, chars, lines_append, readLines_append, rounds]
  rfl

/-- **A text is read line by line, and read on behind a line break.**  The rounds of a text stay
when another one is put behind it.  The rounds of that one follow, with their texts and flags and
by their rules, numbered on from the last round and each counted after the one before it; and
their counts are those of the text alone from the first round that has a count of its own. -/
theorem parse_append (a b : String) :
    ∃ later : List Round, (parse (a ++ "\n" ++ b)).rounds = (parse a).rounds ++ later ∧
      later.map (fun round => (round.index, round.text, round.increases, round.decreases)) =
        (parse b).rounds.map (fun round =>
          ((parse a).length + round.index, round.text, round.increases, round.decreases)) ∧
      Counted ((parse a).counts.getLast?.getD 6) later ∧
      (read (a ++ "\n" ++ b)).map Prod.snd =
        (read a).map Prod.snd ++ (read b).map Prod.snd ∧
      ∀ (k : Nat) (rule : CountRule), ((read b).map Prod.snd)[k]? = some rule →
        rule ∈ [CountRule.stated, .bracketRepeat, .magicRing, .lastNumber] →
        (later.map Round.stitches).drop k = (parse b).counts.drop k := by
  have shifted := readLines_shift (parse a).length 1 (countAfter firstRound (parse a).rounds)
    firstRound (lines b.toList)
  have last : (parse a).counts.getLast?.getD 6 = countAfter firstRound (parse a).rounds := by
    rw [countAfter, counts, List.getLast?_map]
    rfl
  refine ⟨(readLines ((parse a).length + 1) (countAfter firstRound (parse a).rounds)
    (lines b.toList)).map Prod.fst, ?_, ?_, ?_, ?_, fun k rule decided self => ?_⟩
  · have whole := congrArg (List.map Prod.fst) (read_append a b)
    rw [List.map_append] at whole
    exact whole
  · have marks := congrArg (List.map fun entry =>
      (entry.1, entry.2.1, entry.2.2.1, entry.2.2.2.1)) shifted
    simp only [List.map_map] at marks
    rw [List.map_map, parse_rounds b, List.map_map]
    exact marks
  · rw [last]
    exact readLines_counted _ _ _
  · have rules := congrArg (List.map fun entry => entry.2.2.2.2) shifted
    simp only [List.map_map] at rules
    rw [read_append, List.map_append]
    exact congrArg _ rules
  · rw [List.map_map, counts, parse_rounds b, List.map_map]
    exact readLines_counts_from _ _ _ _ _ k rule decided self

/-- A text that ends in a carriage return, behind a blank line. -/
def openEnd : String := "6 sc in MR\n\ninc\r"

/-- Two lines without a count of their own, a group, and a line that follows it. -/
def continuation : String := "\nflat\ninc\n[sc, inc] x6\n inc"

theorem parse_append_continuation :
    ((read continuation).map Prod.snd)[2]? = some .bracketRepeat ∧
      (parse openEnd).counts = [6, 9] ∧ (parse continuation).counts = [6, 9, 18, 27] ∧
      ∃ later : List Round, (parse (openEnd ++ "\n" ++ continuation)).rounds =
          (parse openEnd).rounds ++ later ∧
        later.map Round.index = [3, 4, 5, 6] ∧ (later.map Round.stitches).drop 2 = [18, 27] := by
  obtain ⟨later, rounds, marks, -, -, same⟩ := parse_append openEnd continuation
  have group : ((read continuation).map Prod.snd)[2]? = some .bracketRepeat := by decide +kernel
  have numbers : (parse continuation).rounds.map (fun round =>
      (parse openEnd).length + round.index) = [3, 4, 5, 6] := by decide +kernel
  have indices := congrArg (List.map Prod.fst) marks
  simp only [List.map_map, Function.comp_def, numbers] at indices
  have counted : (parse continuation).counts = [6, 9, 18, 27] := by decide +kernel
  have agreed := same 2 .bracketRepeat group (by decide)
  rw [counted] at agreed
  exact ⟨group, by decide +kernel, counted, later, rounds, indices, agreed⟩

end Crochet.Pattern
