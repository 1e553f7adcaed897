/-
# Crochet.Proofs.Pattern -- a pattern is its counts and texts

The number of a round is its place and its flags are read off its text, in
every pattern that is read from a text or made from counts.  Such a pattern is
`Derived`: keeping counts and texts alone loses nothing of it.
-/
import Crochet.Snapshot
import Mathlib.Tactic.Common

set_option autoImplicit false

namespace Crochet

namespace Pattern

/-- The counts and texts of a pattern. -/
def entries (p : Pattern) : List (Count × String) := p.rounds.map fun r => (r.stitches, r.text)

/-- The pattern is the one of its counts and texts. -/
def Derived (p : Pattern) : Prop := ofCounts p.entries = p

theorem roundsOf_entries (index : Nat) (entries : List (Count × String)) :
    (roundsOf index entries).map (fun r => (r.stitches, r.text)) = entries := by
  induction entries generalizing index with
  | nil => rfl
  | cons entry rest ih =>
      obtain ⟨count, text⟩ := entry
      simp [roundsOf, Round.ofText, ih]

theorem ofCounts_derived (entries : List (Count × String)) : (ofCounts entries).Derived := by
  simp only [Derived, Pattern.entries, ofCounts, roundsOf_entries]

theorem empty_derived : empty.Derived := rfl

/-- Rounds that are read are numbered one after another, with the flags of their texts. -/
theorem readLines_rounds (index : Nat) (previous : Count) (lines : List (List Char)) :
    roundsOf index (((readLines index previous lines).map Prod.fst).map
      fun r => (r.stitches, r.text)) = (readLines index previous lines).map Prod.fst := by
  induction lines generalizing index previous with
  | nil => rfl
  | cons line rest ih =>
      have later := ih (index + 1) (Instruction.resolve line previous).count
      simp only [readLines, List.map_cons, roundsOf, Round.ofText] at later ⊢
      rw [later]

theorem read_derived (text : String) : Derived ⟨(read text).map Prod.fst⟩ :=
  congrArg Pattern.mk (readLines_rounds 1 Instruction.firstRound (lines text.toList))

end Pattern

namespace Snapshot

theorem toPattern_derived (s : Snapshot) : s.toPattern.Derived := Pattern.ofCounts_derived _

/-- A snapshot keeps the counts and texts of a pattern. -/
theorem toPattern_capture_eq (p : Pattern) (now : Timestamp) :
    (capture p now).toPattern = Pattern.ofCounts p.entries := by
  simp [capture, toPattern, Pattern.entries, Function.comp_def]

/-- A snapshot of a derived pattern gives the pattern back. -/
theorem toPattern_capture {p : Pattern} (derived : p.Derived) (now : Timestamp) :
    (capture p now).toPattern = p :=
  (toPattern_capture_eq p now).trans derived

end Snapshot

end Crochet
