/-
# Crochet.Proofs.Pattern.Twins -- a UK pattern and its US twin

A switch of the vocabulary puts US words in the place of UK words.  All words
it swaps count alike but `increase`: read as a UK word it becomes `inc`, which
a line is searched for.  A text without it falls into twin lines, and twin
lines are counted alike from round to round.
-/
import Crochet.Pattern
import Crochet.Proofs.Instruction.Twins
import Crochet.Proofs.Terminology

set_option autoImplicit false

namespace Crochet.Pattern

open Text Instruction

/-! ## Words that the vocabularies swap -/

theorem swappable_of_sameWord {word : List Char}
    (same : Terminology.sameWord word "decrease".toList = true) : Swappable word := by
  intro c inside
  have lowered : word.map Char.toLower = "decrease".toList.map Char.toLower := by
    simpa [Terminology.sameWord] using same
  have swappable : Swappable "decrease".toList := by decide
  obtain ⟨d, letter, equal⟩ := List.mem_map.mp (lowered ▸ List.mem_map_of_mem inside)
  rw [← equal]
  exact swappable d letter

/-- The US word counts like the UK word, unless that one is an increase written out. -/
theorem alike_usWord {word : List Char}
    (plain : Terminology.sameWord word "increase".toList = false) :
    Alike word (Terminology.usWord word) := by
  unfold Terminology.usWord
  split_ifs with single double increase decrease
  · subst single
    exact .inr ⟨by decide, by decide⟩
  · subst double
    exact .inr ⟨by decide, by decide⟩
  · rw [plain] at increase
    cases increase
  · exact .inr ⟨swappable_of_sameWord decrease, by decide⟩
  · exact .inl rfl

/-! ## Twin lines -/

theorem lines_twins {text text' : List Char} (twins : Twins text text') :
    List.Forall₂ Twins (lines text) (lines text') := twins.parts (by decide)

/-- What two readings of twin lines have in common, whatever the count before. -/
theorem readLines_twins {lines lines' : List (List Char)} (twins : List.Forall₂ Twins lines lines')
    (index : Nat) (previous : Count) :
    (readLines index previous lines).map (fun (round, rule) =>
        (round.stitches, round.increases, rule)) =
      (readLines index previous lines').map fun (round, rule) =>
        (round.stitches, round.increases, rule) := by
  induction twins generalizing index previous with
  | nil => rfl
  | @cons line line' rest rest' here _ ih =>
      have increases := namesIncrease_twins here
      simp only [readLines, List.map_cons, Round.ofText, String.toList_ofList,
        resolve_twins here, increases, ih]

/-- **The switch of the vocabulary shows in no count, unless an increase is written out.**  A text
without the word `increase`, in any case, has as many rounds in UK words as in US words, and they
have the same counts one by one, by the same rules, and the same increases. -/
theorem parse_twins (text : String)
    (plain : ∀ word, WordOf text.toList word →
      Terminology.sameWord word "increase".toList = false) :
    (parse (Terminology.uk.normalize text)).length =
        (parse (Terminology.us.normalize text)).length ∧
      (parse (Terminology.uk.normalize text)).rounds.map
          (fun round => (round.stitches, round.increases)) =
        (parse (Terminology.us.normalize text)).rounds.map
          (fun round => (round.stitches, round.increases)) ∧
      (read (Terminology.uk.normalize text)).map Prod.snd =
        (read (Terminology.us.normalize text)).map Prod.snd := by
  have twins : Twins text.toList (Terminology.usText text.toList) :=
    Terminology.reworded_usText (.inl rfl) fun word isWord => alike_usWord (plain word isWord)
  have whole := readLines_twins (lines_twins (twins_symm twins)) 1 firstRound
  have rounds := congrArg (List.map fun entry => (entry.1, entry.2.1)) whole
  have rules := congrArg (List.map fun entry => entry.2.2) whole
  simp only [List.map_map] at rounds rules
  have counted : (parse (Terminology.uk.normalize text)).rounds.map
        (fun round => (round.stitches, round.increases)) =
      (parse (Terminology.us.normalize text)).rounds.map
        (fun round => (round.stitches, round.increases)) := by
    simp only [parse, read, Terminology.normalize, String.toList_ofList, List.map_map]
    exact rounds
  refine ⟨?_, counted, ?_⟩
  · simpa [length] using congrArg List.length counted
  · simp only [read, Terminology.normalize, String.toList_ofList]
    exact rules

/-- Swapped words in brackets, behind digits and beside marks, and others that look like them. -/
def twinSample : String :=
  "6dc in MR\n[dc, 2tr, inc] x6\r\n\nDecrease (tr/dc) magic ring\n Increases: dcx, 12tr. (48)"

theorem parse_twins_twinSample :
    (∀ word, WordOf twinSample.toList word →
      Terminology.sameWord word "increase".toList = false) ∧
    Terminology.uk.normalize twinSample =
      "6sc in MR\n[sc, 2dc, inc] x6\r\n\ndec (dc/sc) magic ring\n Increases: dcx, 12dc. (48)" ∧
    (parse (Terminology.uk.normalize twinSample)).rounds.map
        (fun round => (round.stitches, round.increases)) =
      [(6, false), (24, true), (6, false), (48, false)] := by
  have checked : ∀ word ∈ twinSample.toList.splitOnP (fun c => !c.isAlpha),
      Terminology.sameWord word "increase".toList = false := by decide +kernel
  have plain : ∀ word, WordOf twinSample.toList word →
      Terminology.sameWord word "increase".toList = false :=
    fun word isWord => checked word isWord.mem_splitOnP
  have counted : (parse (Terminology.us.normalize twinSample)).rounds.map
      (fun round => (round.stitches, round.increases)) =
      [(6, false), (24, true), (6, false), (48, false)] := by decide +kernel
  exact ⟨plain, by decide +kernel, (parse_twins twinSample plain).2.1.trans counted⟩

end Crochet.Pattern
