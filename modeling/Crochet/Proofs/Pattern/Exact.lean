/-
# Crochet.Proofs.Pattern.Exact -- patterns read without a greatest count

`readExactly` reads a pattern in unbounded numbers, from line to line.  Where
all digits are ASCII digits, `read` gives the same texts and rules and every
exact number capped: capping at each step of each line comes to capping every
round once at the end.
-/
import Crochet.Pattern
import Crochet.Proofs.Instruction.Exact

set_option autoImplicit false

namespace Crochet.Pattern

open Text Instruction

/-- A round whose number of stitches has no limit. -/
structure ExactRound where
  text : String
  stitches : Nat
  rule : CountRule
deriving DecidableEq, Repr

/-- The rounds of trimmed lines after a round of `previous` stitches, in exact numbers. -/
def readLinesExactly : Nat → List (List Char) → List ExactRound
  | _, [] => []
  | previous, line :: rest =>
    let exact := resolveExactly line previous
    { text := String.ofList line, stitches := exact.number, rule := exact.rule } ::
      readLinesExactly exact.number rest

def readExactly (text : String) : List ExactRound := readLinesExactly 6 (lines text.toList)

/-- What a line holds was in the text. -/
theorem mem_of_mem_lines {text line : List Char} {c : Char} (isLine : line ∈ lines text)
    (inside : c ∈ line) : c ∈ text := by
  obtain ⟨trimmed, -⟩ := List.mem_filter.mp isLine
  obtain ⟨piece, isPiece, rfl⟩ := List.mem_map.mp trimmed
  exact mem_of_mem_pieces isPiece (mem_of_mem_trim inside)

theorem readLines_cap {lines : List (List Char)} (ascii : ∀ line ∈ lines, AsciiDigits line)
    (index previous : Nat) :
    (readLines index (.cap previous) lines).map (fun (round, rule) =>
        (round.text, round.stitches.toNat, rule)) =
      (readLinesExactly previous lines).map fun exact =>
        (exact.text, min exact.stitches Count.greatest, exact.rule) := by
  induction lines generalizing index previous with
  | nil => rfl
  | cons line rest ih =>
      have here := resolve_cap (ascii line List.mem_cons_self) previous
      have later := ih (fun other inside => ascii other (List.mem_cons_of_mem line inside))
        (index + 1) (resolveExactly line previous).number
      simp only [readLines, readLinesExactly, here, Exact.capped, List.map_cons, Round.ofText,
        Count.toNat_cap, later]

/-- **Capping at every step is capping once per round.**  A text whose digits are all ASCII digits
is read into the rounds of its exact reading, with the same texts and rules, and each with its
exact number of stitches or the greatest count, whichever is less. -/
theorem parse_exact (text : String)
    (ascii : ∀ c ∈ text.toList, isDigit c = true → isAsciiDigit c = true) :
    (parse text).rounds.map (fun round => (round.text, round.stitches.toNat)) =
      (readExactly text).map (fun exact => (exact.text, min exact.stitches 4294967295)) ∧
    (read text).map Prod.snd = (readExactly text).map ExactRound.rule := by
  have asciiLines : ∀ line ∈ lines text.toList, AsciiDigits line :=
    fun line isLine c inside => ascii c (mem_of_mem_lines isLine inside)
  have whole := readLines_cap asciiLines 1 6
  constructor
  · have texts := congrArg (List.map fun entry => (entry.1, entry.2.1)) whole
    simp only [List.map_map] at texts
    rw [parse, List.map_map]
    exact texts
  · have rules := congrArg (List.map fun entry => entry.2.2) whole
    simp only [List.map_map] at rules
    exact rules

/-- Numbers, a growth and a product that are too large, and smaller ones after them. -/
def greatSample : String := "4294967296 in MR\ninc\n[inc, sc] x 1500000000\n[] x9999999999\nflat (7)"

theorem parse_exact_greatSample :
    (∀ c ∈ greatSample.toList, isDigit c = true → isAsciiDigit c = true) ∧
      (readExactly greatSample).map ExactRound.stitches =
        [4294967296, 6442450944, 4500000000, 0, 7] ∧
      (parse greatSample).rounds.map (fun round => round.stitches.toNat) =
        [4294967295, 4294967295, 4294967295, 0, 7] := by
  have checked : greatSample.toList.all (fun c => !isDigit c || isAsciiDigit c) = true := by
    decide +kernel
  have ascii : ∀ c ∈ greatSample.toList, isDigit c = true → isAsciiDigit c = true := by
    intro c inside digit
    simpa [digit] using List.all_eq_true.mp checked c inside
  have exact : (readExactly greatSample).map ExactRound.stitches =
      [4294967296, 6442450944, 4500000000, 0, 7] := by decide +kernel
  have counts := congrArg (List.map Prod.snd) (parse_exact greatSample ascii).1
  have capped := congrArg (List.map fun n => min n 4294967295) exact
  simp only [List.map_map, Function.comp_def] at counts capped
  exact ⟨ascii, exact, counts.trans capped⟩

end Crochet.Pattern
