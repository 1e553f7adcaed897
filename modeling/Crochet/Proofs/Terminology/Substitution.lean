/-
# Crochet.Proofs.Terminology.Substitution -- every word is looked up once, at the same time

Putting US words into a text replaces its tokens one by one: each word by its
US word, each mark by itself.  The replaced words stand between the same marks,
so they are the words of the result and none is looked up again.  What a text
in US words can hold, how often, and when nothing changes is read off the list
of its tokens.
-/
import Crochet.Proofs.Terminology
import Crochet.Proofs.Text.Tokens

set_option autoImplicit false

namespace Crochet

open Text

/-- The token in US words. -/
def Text.Token.renamed : Token → Token
  | .word letters => .word (Terminology.usWord letters)
  | .mark c => .mark c

namespace Terminology

/-- A UK word that is another word in US patterns: an abbreviation, or a long word in any case. -/
def Swaps (word : List Char) : Prop :=
  word = ['d', 'c'] ∨ word = ['t', 'r'] ∨ sameWord word "increase".toList = true ∨
    sameWord word "decrease".toList = true

/-! ## Words -/

variable {word : List Char}

theorem usWord_of_not_swaps (stays : ¬ Swaps word) : usWord word = word := by
  simp only [Swaps, not_or] at stays
  obtain ⟨single, double, increase, decrease⟩ := stays
  rw [usWord, if_neg single, if_neg double, if_neg increase, if_neg decrease]

/-- No word swaps into itself. -/
theorem usWord_eq_self_iff : usWord word = word ↔ ¬ Swaps word := by
  refine ⟨fun same swaps => ?_, usWord_of_not_swaps⟩
  unfold usWord at same
  split_ifs at same with single double increase decrease
  · rw [single] at same
    cases same
  · rw [double] at same
    cases same
  -- the short word is no casing of the long one
  · rw [← same] at increase
    revert increase
    decide
  · rw [← same] at decrease
    revert decrease
    decide
  · rcases swaps with found | found | found | found
    · exact single found
    · exact double found
    · exact increase found
    · exact decrease found

/-- A word is another one in some case when it is that one in small letters. -/
theorem sameWord_long_iff {long : List Char} (small : long.map Char.toLower = long) :
    sameWord word long = true ↔ word.map Char.toLower = long := by
  rw [sameWord, small, beq_iff_eq]

theorem sameWord_increase_iff :
    sameWord word "increase".toList = true ↔ word.map Char.toLower = "increase".toList :=
  sameWord_long_iff (by decide)

theorem sameWord_decrease_iff :
    sameWord word "decrease".toList = true ↔ word.map Char.toLower = "decrease".toList :=
  sameWord_long_iff (by decide)

theorem usWord_ne_tr (word : List Char) : usWord word ≠ ['t', 'r'] := by
  intro triple
  unfold usWord at triple
  split_ifs at triple with single double
  · cases triple
  · cases triple
  · cases triple
  · cases triple
  · exact double triple

/-- A US `dc` was a UK `tr`. -/
theorem usWord_eq_dc_iff : usWord word = ['d', 'c'] ↔ word = ['t', 'r'] := by
  constructor
  · intro double
    unfold usWord at double
    split_ifs at double with single triple
    · cases double
    · exact triple
    · cases double
    · cases double
    · exact absurd double single
  · rintro rfl
    decide

/-! ## Texts -/

theorem wordToken_usWord (letters : List Char) :
    wordToken (usWord letters) = (wordToken letters).map Token.renamed := by
  unfold wordToken
  by_cases empty : letters = []
  · rw [if_pos empty, if_pos (usWord_eq_nil_iff.mp empty)]
    rfl
  · rw [if_neg empty, if_neg (mt usWord_eq_nil_iff.mpr empty)]
    rfl

/-- **The tokens of a text in US words** are the tokens of the text, replaced one by one. -/
theorem tokens_usText (text : List Char) :
    tokens (usText text) = (tokens text).map Token.renamed := by
  induction text using words_induction with
  | last word letters =>
      rw [usText_word letters, tokens_word (usWord_letters letters), tokens_word letters,
        wordToken_usWord]
  | mark word c rest letters isMark ih =>
      rw [usText_word_mark letters isMark, tokens_word_mark (usWord_letters letters) isMark,
        tokens_word_mark letters isMark, wordToken_usWord, ih, List.map_append, List.map_cons]
      rfl

theorem usText_eq_spell (text : List Char) :
    usText text = spell ((tokens text).map Token.renamed) := by
  rw [← tokens_usText, spell_tokens]

theorem usText_append_mark {c : Char} (isMark : c.isAlpha = false) (front back : List Char) :
    usText (front ++ c :: back) = usText front ++ c :: usText back := by
  induction front using words_induction with
  | last word letters => rw [usText_word_mark letters isMark, usText_word letters]
  | mark word d rest letters isMark' ih =>
      rw [List.append_assoc, List.cons_append, usText_word_mark letters isMark', ih,
        usText_word_mark letters isMark', List.append_assoc, List.cons_append]

theorem tr_not_mem_tokens_usText (text : List Char) :
    Token.word ['t', 'r'] ∉ tokens (usText text) := by
  rw [tokens_usText]
  intro inside
  obtain ⟨token, -, renamed⟩ := List.mem_map.mp inside
  cases token with
  | mark c => cases renamed
  | word letters => exact usWord_ne_tr letters (Token.word.inj renamed)

theorem count_dc_tokens_usText (text : List Char) :
    (tokens (usText text)).count (.word ['d', 'c']) =
      (tokens text).count (.word ['t', 'r']) := by
  rw [tokens_usText, List.count, List.countP_map, List.count]
  apply List.countP_congr
  intro token _
  cases token with
  | mark c => simp [Token.renamed]
  | word letters => simpa [Token.renamed] using usWord_eq_dc_iff

/-- Nothing changes exactly when no word of the text swaps. -/
theorem usText_eq_self_iff {text : List Char} :
    usText text = text ↔ ∀ word, Token.word word ∈ tokens text → ¬ Swaps word := by
  constructor
  · intro same word isWord
    have kept : (tokens text).map Token.renamed = (tokens text).map id := by
      rw [← tokens_usText, same, List.map_id]
    exact usWord_eq_self_iff.mp (Token.word.inj (List.map_inj_left.mp kept _ isWord))
  · intro stays
    have kept : (tokens text).map Token.renamed = (tokens text).map id := by
      apply List.map_congr_left
      intro token isToken
      cases token with
      | mark c => rfl
      | word letters => exact congrArg Token.word (usWord_of_not_swaps (stays letters isToken))
    rw [usText_eq_spell, kept, List.map_id, spell_tokens]

/-- **A UK text becomes a US text by one simultaneous substitution of words.**  A text has one cut
into maximal words of ASCII letters and single other characters.  The text in US words is spelled
by the tokens of this cut with each word replaced by its US word: `dc` by `sc`, `tr` by `dc`, the
two long words in any case by their short forms, and any other word by itself.  Cutting it gives
exactly these tokens again.  So it can be made on both sides of any character that is no letter; it
has no word `tr`, as many words `dc` as the text has words `tr`, and is the text itself exactly when
that has no word `dc` or `tr` and no `increase` or `decrease` in any case. -/
theorem normalize_uk_substitutes :
    (∀ (text : List Char) (cut : List Token), IsCut text cut ↔ cut = tokens text) ∧
    (∀ word : List Char, usWord word =
      if word = ['d', 'c'] then ['s', 'c']
      else if word = ['t', 'r'] then ['d', 'c']
      else if word.map Char.toLower = "increase".toList then ['i', 'n', 'c']
      else if word.map Char.toLower = "decrease".toList then ['d', 'e', 'c']
      else word) ∧
    (∀ text : String,
      (uk.normalize text).toList = spell ((tokens text.toList).map Token.renamed) ∧
      tokens (uk.normalize text).toList = (tokens text.toList).map Token.renamed) ∧
    (∀ (a b : String) (c : Char), c.isAlpha = false →
      uk.normalize (a ++ String.singleton c ++ b) =
        uk.normalize a ++ String.singleton c ++ uk.normalize b) ∧
    ∀ text : String,
      Token.word ['t', 'r'] ∉ tokens (uk.normalize text).toList ∧
      (tokens (uk.normalize text).toList).count (.word ['d', 'c']) =
        (tokens text.toList).count (.word ['t', 'r']) ∧
      (uk.normalize text = text ↔ ∀ word, Token.word word ∈ tokens text.toList →
        ¬(word = ['d', 'c'] ∨ word = ['t', 'r'] ∨
          word.map Char.toLower = "increase".toList ∨ word.map Char.toLower = "decrease".toList)) := by
  have chars (text : String) : (uk.normalize text).toList = usText text.toList := by
    simp [normalize]
  refine ⟨fun text cut => isCut_iff, fun word => ?_, fun text => ?_, fun a b c isMark => ?_,
    fun text => ?_⟩
  · simp only [usWord, sameWord_increase_iff, sameWord_decrease_iff]
  · rw [chars]
    exact ⟨usText_eq_spell _, tokens_usText _⟩
  · apply String.toList_inj.mp
    simpa [chars] using usText_append_mark isMark a.toList b.toList
  · rw [chars]
    refine ⟨tr_not_mem_tokens_usText _, count_dc_tokens_usText _, ?_⟩
    rw [← String.toList_inj, chars, usText_eq_self_iff]
    simp only [Swaps, sameWord_increase_iff, sameWord_decrease_iff]

/-- A mark that is a letter of another alphabet keeps the words on its sides apart: `tr` in front
of it and `dc` behind it are both replaced. -/
theorem normalize_uk_substitutes_beside_eszett :
    'ß'.isAlpha = false ∧
      uk.normalize ("2tr" ++ String.singleton 'ß' ++ "dc, Decrease dcx") =
        uk.normalize "2tr" ++ String.singleton 'ß' ++ uk.normalize "dc, Decrease dcx" ∧
      uk.normalize "2tr" ++ String.singleton 'ß' ++ uk.normalize "dc, Decrease dcx" =
        "2dcßsc, dec dcx" := by
  have isMark : 'ß'.isAlpha = false := by decide
  exact ⟨isMark, normalize_uk_substitutes.2.2.2.1 _ _ _ isMark, by decide +kernel⟩

end Terminology

end Crochet
