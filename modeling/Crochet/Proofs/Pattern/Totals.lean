/-
# Crochet.Proofs.Pattern.Totals -- every sequence of counts can be written down

A line that ends in its total has that count, whatever else it says: the total
stands at the very end, the one place where nothing else is looked for.  So
any texts with their counts behind them, a line each, are read as just these
counts, and with the flags of the texts alone.  In particular a pattern can
be written with all its totals and is read the same.
-/
import Crochet.Proofs.Pattern
import Crochet.Proofs.Pattern.Lines
import Crochet.Proofs.Text.Words

set_option autoImplicit false

namespace Crochet

open Text

/-- The decimal digits of a count. -/
def Count.digits (count : Count) : List Char := Nat.toDigits 10 count.toNat

namespace Pattern

open Instruction

/-- A text with its count in parentheses behind it. -/
def totaled (entry : Count × String) : String :=
  entry.2 ++ " (" ++ String.ofList entry.1.digits ++ ")"

/-- The lines of some texts with their counts. -/
def totaledText (entries : List (Count × String)) : String :=
  "\n".intercalate (entries.map totaled)

/-! ## One line -/

theorem totaled_toList (entry : Count × String) :
    (totaled entry).toList = entry.2.toList ++ ' ' :: '(' :: (entry.1.digits ++ [')']) := by
  simp [totaled]

theorem digits_isRun (count : Count) : IsRun count.digits where
  ne_nil := Nat.toDigits_ne_nil
  digits c inside := by
    rw [isDigit, isAsciiDigit_of_mem_toDigits inside, Bool.true_or]

theorem readCount_digits (count : Count) : readCount count.digits = count := by
  have filled : count.digits.isEmpty = false := by
    rw [List.isEmpty_eq_false_iff]
    exact Nat.toDigits_ne_nil
  have ascii : count.digits.all isAsciiDigit = true :=
    List.all_eq_true.mpr fun c inside => isAsciiDigit_of_mem_toDigits inside
  have number : Nat.ofDigitChars 10 count.digits 0 = count.toNat :=
    Nat.ofDigitChars_toDigits (by decide) (by decide)
  have value : decimalValue? count.digits = some count.toNat := by
    simp [decimalValue?, filled, ascii, number]
  rw [readCount, value]
  exact Count.cap_toNat count

/-- A total stands at the end of the line also when that is trimmed. -/
theorem trim_total (text digits : List Char) :
    ∃ front,
      trim (text ++ ' ' :: '(' :: (digits ++ [')'])) = front ++ '(' :: (digits ++ [')']) := by
  -- of the text and the blank behind it, only blanks in front are lost
  obtain ⟨blanks, front, shape, allBlank, stop⟩ := exists_cut isBlank (text ++ [' '])
  refine ⟨front, ?_⟩
  have whole : text ++ ' ' :: '(' :: (digits ++ [')']) =
      blanks ++ (front ++ '(' :: (digits ++ [')'])) := by
    rw [← List.append_assoc, ← shape]
    simp
  have start : Stops isBlank (front ++ '(' :: (digits ++ [')'])) :=
    stops_append stop (stops_cons.mpr (by decide))
  have reversed : (front ++ '(' :: (digits ++ [')'])).reverse =
      ')' :: (digits.reverse ++ '(' :: front.reverse) := by simp
  have kept : (')' :: (digits.reverse ++ '(' :: front.reverse)).dropWhile isBlank =
      ')' :: (digits.reverse ++ '(' :: front.reverse) :=
    List.dropWhile_cons_of_neg (by decide)
  rw [trim, whole, trimStart_run allBlank start, dropEndWhile, reversed, kept, ← reversed,
    List.reverse_reverse]

theorem statedTotal_totaled (entry : Count × String) :
    statedTotal (trim (totaled entry).toList) = some entry.1.digits := by
  obtain ⟨front, shape⟩ := trim_total entry.2.toList entry.1.digits
  rw [totaled_toList, shape]
  exact StatesTotal.found ⟨digits_isRun entry.1, front, rfl⟩

theorem resolve_totaled (entry : Count × String) (previous : Count) :
    resolve (trim (totaled entry).toList) previous = ⟨entry.1, .stated⟩ := by
  rw [resolve, statedTotal_totaled]
  simp only [readCount_digits]

/-- A total is made of marks, so the words of the line are those of the text. -/
theorem holds_totaled_iff {word : List Char} (letters : Letters word) (some : word ≠ [])
    (entry : Count × String) :
    word <:+: trim (totaled entry).toList ↔ word <:+: entry.2.toList := by
  have noBlank : ∀ c ∈ word, isBlank c = false := fun c inside => by
    by_contra blank
    exact letters.not_mem (isAlpha_of_isBlank (by simpa using blank)) inside
  have noTotal : ¬ word <:+: '(' :: (entry.1.digits ++ [')']) := by
    intro holds
    obtain ⟨c, rest, rfl⟩ := List.exists_cons_of_ne_nil some
    have inside : c ∈ '(' :: (entry.1.digits ++ [')']) := holds.subset List.mem_cons_self
    rw [List.mem_cons, List.mem_append, List.mem_singleton] at inside
    apply letters.not_mem (c := c) _ List.mem_cons_self
    rcases inside with rfl | digit | rfl
    · decide
    · exact isAlpha_of_isDigit ((digits_isRun entry.1).digits c digit)
    · decide
  rw [holds_trim_iff some noBlank, totaled_toList,
    holds_iff_of_marked (letters.not_mem (by decide))]
  exact or_iff_left noTotal

theorem occurs_totaled {word : List Char} (letters : Letters word) (some : word ≠ [])
    (entry : Count × String) :
    occurs word (trim (totaled entry).toList) = occurs word entry.2.toList := by
  rw [Bool.eq_iff_iff, occurs_iff, occurs_iff]
  exact holds_totaled_iff letters some entry

/-! ## All lines -/

theorem lines_totaledText {entries : List (Count × String)}
    (single : ∀ entry ∈ entries, '\n' ∉ entry.2.toList) :
    lines (totaledText entries).toList = entries.map fun entry => trim (totaled entry).toList := by
  by_cases none : entries = []
  · rw [none]
    rfl
  · have apart : ∀ line ∈ (entries.map totaled).map String.toList, '\n' ∉ line := by
      intro line isLine
      rw [List.map_map] at isLine
      obtain ⟨entry, isEntry, rfl⟩ := List.mem_map.mp isLine
      have digits : '\n' ∉ entry.1.digits := fun inside => by
        have := (digits_isRun entry.1).digits _ inside
        revert this
        decide
      simp [totaled_toList, single entry isEntry, digits]
    have pieced : pieces '\n' (totaledText entries).toList =
        (entries.map totaled).map String.toList := by
      rw [totaledText, String.toList_intercalate]
      exact pieces_intercalate (by simpa using none) apart
    have filled : ∀ line ∈ entries.map (fun entry => trim (totaled entry).toList),
        (!line.isEmpty) = true := by
      intro line isLine
      obtain ⟨entry, -, rfl⟩ := List.mem_map.mp isLine
      obtain ⟨front, shape⟩ := trim_total entry.2.toList entry.1.digits
      simp [totaled_toList, shape]
    rw [lines, pieced, List.map_map, List.map_map]
    exact List.filter_eq_self.mpr filled

theorem readLines_totaled (index : Nat) (previous : Count) (entries : List (Count × String)) :
    (readLines index previous (entries.map fun entry => trim (totaled entry).toList)).map
        (fun (round, rule) =>
          (round.index, round.stitches, round.increases, round.decreases, rule)) =
      (roundsOf index entries).map fun round =>
        (round.index, round.stitches, round.increases, round.decreases, CountRule.stated) := by
  induction entries generalizing index previous with
  | nil => rfl
  | cons entry entries ih =>
      have increases : namesIncrease (trim (totaled entry).toList) = namesIncrease entry.2.toList :=
        occurs_totaled (by decide) (by decide) entry
      have decreases : namesDecrease (trim (totaled entry).toList) = namesDecrease entry.2.toList :=
        occurs_totaled (by decide) (by decide) entry
      obtain ⟨count, text⟩ := entry
      simp only [List.map_cons, readLines, roundsOf, resolve_totaled, ih, Round.ofText,
        String.toList_ofList, increases, decreases]

/-! ## Patterns with all their totals -/

theorem read_totaledText {entries : List (Count × String)}
    (single : ∀ entry ∈ entries, '\n' ∉ entry.2.toList) :
    (read (totaledText entries)).map (fun (round, rule) =>
        (round.index, round.stitches, round.increases, round.decreases, rule)) =
      (ofCounts entries).rounds.map fun round =>
        (round.index, round.stitches, round.increases, round.decreases, CountRule.stated) := by
  rw [read, lines_totaledText single]
  exact readLines_totaled 1 firstRound entries

theorem not_mem_of_mem_lines {text line : List Char} (isLine : line ∈ lines text) :
    '\n' ∉ line := by
  obtain ⟨trimmed, -⟩ := List.mem_filter.mp isLine
  obtain ⟨piece, isPiece, rfl⟩ := List.mem_map.mp trimmed
  exact fun inside => not_mem_of_mem_pieces isPiece (mem_of_mem_trim inside)

/-- The rounds of a text hold one line each. -/
theorem single_entries (text : String) :
    ∀ entry ∈ (parse text).entries, '\n' ∉ entry.2.toList := by
  intro entry isEntry
  obtain ⟨round, isRound, rfl⟩ := List.mem_map.mp isEntry
  have isText : round.text ∈ (parse text).rounds.map Round.text := List.mem_map_of_mem isRound
  rw [parse_texts] at isText
  obtain ⟨line, isLine, written⟩ := List.mem_map.mp isText
  have unbroken := not_mem_of_mem_lines isLine
  rwa [← written, String.toList_ofList]

/-- **All counts can be written down and are read back.**  Any texts without line breaks, a line
each with a count behind it, are read as one round per text, in order and each by its stated
total: with these counts, and with the numbers and flags of the pattern made from counts and texts
alone.  So a pattern that was read keeps its counts and flags when every round is written with its
total and all is read again. -/
theorem parse_totaledText :
    (∀ entries : List (Count × String), (∀ entry ∈ entries, '\n' ∉ entry.2.toList) →
      (parse (totaledText entries)).counts = entries.map Prod.fst ∧
      (read (totaledText entries)).map (fun (round, rule) =>
          (round.index, round.stitches, round.increases, round.decreases, rule)) =
        (ofCounts entries).rounds.map fun round =>
          (round.index, round.stitches, round.increases, round.decreases, CountRule.stated)) ∧
    ∀ text : String,
      (parse (totaledText (parse text).entries)).rounds.map (fun round =>
          (round.index, round.stitches, round.increases, round.decreases)) =
        (parse text).rounds.map fun round =>
          (round.index, round.stitches, round.increases, round.decreases) := by
  refine ⟨fun entries single => ⟨?_, read_totaledText single⟩, fun text => ?_⟩
  · have stitches := congrArg (List.map fun entry => entry.2.1) (read_totaledText single)
    have given := congrArg (List.map Prod.fst) (roundsOf_entries 1 entries)
    simp only [List.map_map] at stitches given
    rw [counts, parse, List.map_map]
    exact stitches.trans given
  · have whole := read_totaledText (single_entries text)
    have derived : ofCounts (parse text).entries = parse text := read_derived text
    rw [derived] at whole
    have marks := congrArg (List.map fun entry => (entry.1, entry.2.1, entry.2.2.1, entry.2.2.2.1))
      whole
    simp only [List.map_map] at marks
    rw [parse_rounds (totaledText _), List.map_map]
    exact marks

/-- Texts that say something else: another total, a bracket group, a magic ring with a number, an
increase behind blanks, and nothing at all. -/
def contestedEntries : List (Count × String) := [
  (7, "MR 6 (8)"), (4294967295, "[inc, sc] x6"), (0, " \t inc (9"), (10, ""), (3, "magic ring\r")]

theorem parse_totaledText_contested :
    (∀ entry ∈ contestedEntries, '\n' ∉ entry.2.toList) ∧
      totaledText contestedEntries = "MR 6 (8) (7)\n[inc, sc] x6 (4294967295)\n \t inc (9 (0)\n" ++
        " (10)\nmagic ring\r (3)" ∧
      (parse (totaledText contestedEntries)).counts = [7, 4294967295, 0, 10, 3] := by
  have single : ∀ entry ∈ contestedEntries, '\n' ∉ entry.2.toList := by decide
  exact ⟨single, by decide +kernel, (parse_totaledText.1 contestedEntries single).1⟩

end Pattern

end Crochet
