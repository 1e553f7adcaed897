/-
# Crochet.Proofs.Hint -- what is explained of a line, and what is counted there

A line is counted by words in the letters in which they are written, and
explained by words in any letters, each with a ranking of its own.  Whatever
term the count or a flag of the round rests on is mentioned in the line put
into small letters, so the hint is that term or one that is ranked before it.
-/
import Crochet.Hint
import Crochet.Pattern
import Crochet.Proofs.Instruction.Grammar
import Crochet.Proofs.Text.Lowering

set_option autoImplicit false

namespace Crochet.Hint

open Text (Lowered Sturdy)
open Instruction (CountRule namesMagicRing namesIncrease namesDecrease resolve)

variable {line lowered : List Char} {hint : Hint}

/-! ## Small letters -/

theorem words_sturdy (hint : Hint) : ∀ word ∈ hint.words, word ≠ [] ∧ Sturdy word := by
  cases hint <;> decide

/-- However the line is put into small letters, it mentions the same terms. -/
theorem mentioned_lowered (lowers : Lowered line lowered) (hint : Hint) :
    mentioned lowered hint = mentioned (line.map Char.toLower) hint := by
  rw [Bool.eq_iff_iff, mentioned, mentioned, List.any_eq_true, List.any_eq_true]
  refine exists_congr fun word => and_congr_right fun isWord => ?_
  obtain ⟨some, sturdy⟩ := words_sturdy hint word isWord
  rw [sturdy.occurs_eq some lowers]

theorem find?_lowered (lowers : Lowered line lowered) :
    ranking.find? (mentioned lowered) = forLine line := by
  rw [forLine, funext (mentioned_lowered lowers)]

/-! ## The ranking -/

/-- The hint is a term that the line mentions or one ranked before it. -/
theorem forLine_of_mentioned {front back : List Hint} (ranked : ranking = front ++ hint :: back)
    (mentions : mentioned (line.map Char.toLower) hint = true) :
    ∃ first ∈ front ++ [hint], forLine line = some first := by
  have found : ((front ++ [hint]).find? (mentioned (line.map Char.toLower))).isSome = true :=
    List.find?_isSome.mpr ⟨hint, by simp, mentions⟩
  obtain ⟨first, isFirst⟩ := Option.isSome_iff_exists.mp found
  refine ⟨first, List.mem_of_find?_eq_some isFirst, ?_⟩
  rw [forLine, ranked, List.append_cons, List.find?_append, isFirst, Option.some_or]

/-- A word that stands in the line is mentioned there in small letters. -/
theorem mentioned_of_occurs {word : List Char} (hint : Hint)
    (isWord : word.map Char.toLower ∈ hint.words) (occurs : Text.occurs word line = true) :
    mentioned (line.map Char.toLower) hint = true :=
  List.any_eq_true.mpr ⟨_, isWord, Text.occurs_toLower occurs⟩

theorem forLine_of_magicRing (names : namesMagicRing line = true) :
    forLine line = some magicRing := by
  have mentions : mentioned (line.map Char.toLower) magicRing = true := by
    rcases Bool.or_eq_true_iff.mp names with short | long
    · exact mentioned_of_occurs magicRing (by decide) short
    · exact mentioned_of_occurs magicRing (by decide) long
  have ranked : ranking = [] ++ magicRing :: [increase, decrease, singleCrochet, doubleCrochet] :=
    rfl
  obtain ⟨first, early, found⟩ := forLine_of_mentioned ranked mentions
  obtain rfl : first = magicRing := by simpa using early
  exact found

theorem forLine_of_increase (names : namesIncrease line = true) :
    forLine line = some magicRing ∨ forLine line = some increase := by
  have mentions := mentioned_of_occurs increase (by decide) names
  have ranked : ranking = [magicRing] ++ increase :: [decrease, singleCrochet, doubleCrochet] :=
    rfl
  obtain ⟨first, early, found⟩ := forLine_of_mentioned ranked mentions
  rw [found]
  simpa using early

theorem forLine_of_decrease (names : namesDecrease line = true) :
    forLine line = some magicRing ∨ forLine line = some increase ∨
      forLine line = some decrease := by
  have mentions := mentioned_of_occurs decrease (by decide) names
  have ranked : ranking = [magicRing, increase] ++ decrease :: [singleCrochet, doubleCrochet] :=
    rfl
  obtain ⟨first, early, found⟩ := forLine_of_mentioned ranked mentions
  rw [found]
  simpa using early

/-! ## The hint beside the count -/

theorem applies_of_rule {previous : Count} {rule : CountRule}
    (decided : (resolve line previous).rule = rule) : rule.Applies line := by
  have decides := (Instruction.resolve_right line previous).decides
  rw [decided] at decides
  exact decides.1

/-- **The hint never contradicts what is counted**, for every line and every count before it.  It
is the first term mentioned in the line in small letters, whatever small letters the line has.  A
magic ring that gives the count is explained; a flag of the round is explained, unless a term is
ranked before it; and a line without a hint raises no flag and has no count that rests on a term. -/
theorem forLine_agrees (line : List Char) (previous : Count) (index : Nat) :
    let resolved := resolve line previous
    let round := Round.ofText index (String.ofList line) resolved.count
    let hint := forLine line
    ((∃ lowered, Lowered line lowered) ∧
      ∀ lowered, Lowered line lowered → ranking.find? (mentioned lowered) = hint) ∧
    (resolved.rule = .magicRing → hint = some magicRing) ∧
    (resolved.rule = .growth → round.increases = true) ∧
    (round.increases = true → hint = some magicRing ∨ hint = some increase) ∧
    (round.decreases = true →
      hint = some magicRing ∨ hint = some increase ∨ hint = some decrease) ∧
    (hint = none → round.increases = false ∧ round.decreases = false ∧
      resolved.rule ∈ [.stated, .bracketRepeat, .lastNumber, .carried]) := by
  intro resolved round hint
  have increases : round.increases = namesIncrease line :=
    congrArg namesIncrease String.toList_ofList
  have decreases : round.decreases = namesDecrease line :=
    congrArg namesDecrease String.toList_ofList
  have ring : resolved.rule = .magicRing → hint = some magicRing := fun rule =>
    forLine_of_magicRing (Instruction.namesMagicRing_iff.mpr (applies_of_rule rule))
  have growth : resolved.rule = .growth → round.increases = true := by
    intro rule
    rw [increases]
    exact Instruction.namesIncrease_iff.mpr (applies_of_rule rule)
  have more : round.increases = true → hint = some magicRing ∨ hint = some increase := by
    rw [increases]
    exact forLine_of_increase
  have fewer : round.decreases = true →
      hint = some magicRing ∨ hint = some increase ∨ hint = some decrease := by
    rw [decreases]
    exact forLine_of_decrease
  refine ⟨⟨Text.exists_lowered line, fun lowered => find?_lowered⟩, ring, growth, more, fewer,
    fun silent => ?_⟩
  -- without a hint nothing that would be explained can hold
  rw [silent] at ring more fewer
  have level : round.increases = false := by simpa using more
  refine ⟨level, by simpa using fewer, ?_⟩
  cases rule : resolved.rule with
  | magicRing => cases ring rule
  | growth =>
      rw [growth rule] at level
      cases level
  | stated | bracketRepeat | lastNumber | carried => simp

/-- An I with a dot begins no increase, neither as it is written nor in small letters; a ring hides
the other terms of its line, and an increase hides a decrease. -/
theorem forLine_agrees_dotted :
    let dotted := "\u0130NC \u212A9".toList
    let lowered := "i\u0307nc k9".toList
    let ring := "2 dec, inc in MR".toList
    let grown := "dec, 2 inc".toList
    let round := Round.ofText 1 (String.ofList grown) (resolve grown 6).count
    (Lowered dotted lowered ∧ forLine dotted = none ∧ ranking.find? (mentioned lowered) = none ∧
      (resolve dotted 6).rule ∈ [.stated, .bracketRepeat, .lastNumber, .carried]) ∧
    ((resolve ring 6).rule = .magicRing ∧ forLine ring = some magicRing) ∧
    (resolve grown 6).rule = .growth ∧ round.increases = true ∧ round.decreases = true ∧
      (forLine grown = some magicRing ∨ forLine grown = some increase) := by
  intro dotted lowered ring grown round
  have lowers : Lowered dotted lowered :=
    .cons .dotted (.cons (.ascii rfl) (.cons (.ascii rfl) (.cons (.ascii rfl)
      (.cons .kelvin (.cons (.ascii rfl) .nil)))))
  have silent : forLine dotted = none := by decide +kernel
  have growth : (resolve grown 6).rule = .growth := by decide +kernel
  have magic : (resolve ring 6).rule = .magicRing := by decide +kernel
  obtain ⟨⟨-, small⟩, -, -, -, -, plain⟩ := forLine_agrees dotted 6 1
  obtain ⟨-, explained, -⟩ := forLine_agrees ring 6 1
  obtain ⟨-, -, increases, flagged, -⟩ := forLine_agrees grown 6 1
  exact ⟨⟨lowers, silent, (small lowered lowers).trans silent, (plain silent).2.2⟩,
    ⟨magic, explained magic⟩, growth, increases growth, by decide +kernel,
    flagged (increases growth)⟩

end Crochet.Hint
