/-
# Crochet.Proofs.Text.Tokens -- the words and marks of a text, in order

A text has one cut into tokens: its maximal runs of ASCII letters, and every
other character alone.  `IsCut` says what such a cut is, `tokens` finds it, and
`isCut_iff` says that there is no other.  Tokens with no two words side by side
are therefore found again in the text that they spell.
-/
import Crochet.Proofs.Text.Words
import Mathlib.Data.List.Chain

set_option autoImplicit false

namespace Crochet.Text

/-- A word of ASCII letters, or one other character. -/
inductive Token where
  | word (letters : List Char)
  | mark (c : Char)
deriving DecidableEq, Repr

namespace Token

def chars : Token → List Char
  | word letters => letters
  | mark c => [c]

def isWord : Token → Bool
  | word _ => true
  | mark _ => false

/-- A word has letters, and only letters; a mark is none. -/
def Proper : Token → Prop
  | word letters => letters ≠ [] ∧ Letters letters
  | mark c => c.isAlpha = false

end Token

/-- The text of some tokens. -/
def spell (tokens : List Token) : List Char := tokens.flatMap Token.chars

/-- The tokens are the text cut up: they spell it, and no word goes on in the next token. -/
structure IsCut (text : List Char) (tokens : List Token) : Prop where
  spelled : spell tokens = text
  proper : ∀ token ∈ tokens, token.Proper
  maximal : tokens.IsChain fun token next => ¬(token.isWord = true ∧ next.isWord = true)

/-- The token of a run of letters; no letters are no token. -/
def wordToken (letters : List Char) : List Token :=
  if letters = [] then [] else [.word letters]

/-- The tokens of a text whose last few characters, newest first, were the letters `word`. -/
def tokensFrom (word : List Char) : List Char → List Token
  | [] => wordToken word.reverse
  | c :: cs =>
    if c.isAlpha then tokensFrom (c :: word) cs
    else wordToken word.reverse ++ .mark c :: tokensFrom [] cs

/-- The words and marks of a text, in order. -/
def tokens (text : List Char) : List Token := tokensFrom [] text

/-! ## From mark to mark -/

/-- What holds of words, and goes back over a word and a mark in front, holds of every text. -/
theorem words_induction {motive : List Char → Prop}
    (last : ∀ word, Letters word → motive word)
    (mark : ∀ word c rest, Letters word → c.isAlpha = false → motive rest →
      motive (word ++ c :: rest)) (text : List Char) : motive text := by
  induction length : text.length using Nat.strongRecOn generalizing text with
  | _ n ih =>
      obtain ⟨word, rest, rfl, letters, stop⟩ := exists_cut Char.isAlpha text
      cases rest with
      | nil =>
          rw [List.append_nil]
          exact last word letters
      | cons c rest =>
          have shorter : rest.length < n := by
            rw [← length, List.length_append, List.length_cons]
            omega
          exact mark word c rest letters (stops_cons.mp stop) (ih _ shorter rest rfl)

variable {word rest : List Char} {c : Char}

theorem tokensFrom_letters (letters : Letters word) (front rest : List Char) :
    tokensFrom front (word ++ rest) = tokensFrom (word.reverse ++ front) rest := by
  induction word generalizing front with
  | nil => rfl
  | cons c word ih =>
      have letter : c.isAlpha = true := letters c List.mem_cons_self
      have others : Letters word := fun d inside => letters d (List.mem_cons_of_mem c inside)
      rw [List.cons_append, tokensFrom, if_pos letter, ih others, List.reverse_cons,
        List.append_assoc]
      rfl

theorem tokens_word (letters : Letters word) : tokens word = wordToken word := by
  have whole := tokensFrom_letters letters [] []
  rw [List.append_nil, List.append_nil] at whole
  rw [tokens, whole, tokensFrom, List.reverse_reverse]

theorem tokens_word_mark (letters : Letters word) (isMark : c.isAlpha = false)
    (rest : List Char) : tokens (word ++ c :: rest) = wordToken word ++ .mark c :: tokens rest := by
  have notLetter : ¬ c.isAlpha = true := by simp [isMark]
  rw [tokens, tokensFrom_letters letters, List.append_nil, tokensFrom, if_neg notLetter,
    List.reverse_reverse, tokens]

/-! ## The one cut of a text -/

theorem spell_append (front back : List Token) :
    spell (front ++ back) = spell front ++ spell back := List.flatMap_append

theorem spell_wordToken (letters : List Char) : spell (wordToken letters) = letters := by
  unfold wordToken
  split
  · rename_i empty
    rw [empty]
    rfl
  · simp [spell, Token.chars]

theorem proper_of_mem_wordToken (letters : Letters word) {token : Token}
    (isToken : token ∈ wordToken word) : token.Proper := by
  unfold wordToken at isToken
  split at isToken
  · cases isToken
  · rename_i some
    obtain rfl := List.mem_singleton.mp isToken
    exact ⟨some, letters⟩

/-- A mark ends the word in front of it. -/
theorem isChain_wordToken_mark {rel : Token → Token → Prop} {later : List Token}
    (ends : ∀ token, rel token (.mark c)) (chain : (Token.mark c :: later).IsChain rel)
    (word : List Char) : (wordToken word ++ .mark c :: later).IsChain rel := by
  unfold wordToken
  split
  · exact chain
  · exact .cons_cons (ends _) chain

theorem tokens_isCut (text : List Char) : IsCut text (tokens text) := by
  induction text using words_induction with
  | last word letters =>
      rw [tokens_word letters]
      refine ⟨spell_wordToken word, fun token => proper_of_mem_wordToken letters, ?_⟩
      unfold wordToken
      split
      · exact .nil
      · exact .singleton _
  | mark word c rest letters isMark ih =>
      rw [tokens_word_mark letters isMark]
      refine ⟨?_, fun token isToken => ?_, ?_⟩
      · rw [spell_append, spell_wordToken]
        exact congrArg (fun back => word ++ c :: back) ih.spelled
      · rcases List.mem_append.mp isToken with inWord | later
        · exact proper_of_mem_wordToken letters inWord
        · rcases List.mem_cons.mp later with rfl | later
          · exact isMark
          · exact ih.proper token later
      · apply isChain_wordToken_mark
        · simp [Token.isWord]
        · exact List.isChain_cons.mpr ⟨by simp [Token.isWord], ih.maximal⟩

theorem spell_tokens (text : List Char) : spell (tokens text) = text := (tokens_isCut text).spelled

/-- Tokens are found again in what they spell, if no word goes on in the next one. -/
theorem tokens_spell {cut : List Token} (proper : ∀ token ∈ cut, token.Proper)
    (maximal : cut.IsChain fun token next => ¬(token.isWord = true ∧ next.isWord = true)) :
    tokens (spell cut) = cut := by
  match cut with
  | [] => rfl
  | .mark c :: later =>
      have isMark : c.isAlpha = false := proper _ List.mem_cons_self
      have behind := tokens_spell (fun token isToken => proper token (.tail _ isToken))
        maximal.tail
      have none : Letters [] := by simp [Letters]
      have cut := tokens_word_mark none isMark (spell later)
      rw [behind] at cut
      exact cut
  | [.word run] =>
      obtain ⟨some, letters⟩ := proper _ List.mem_cons_self
      have whole : spell [.word run] = run := List.append_nil run
      rw [whole, tokens_word letters, wordToken, if_neg some]
  | .word _ :: .word _ :: _ => exact absurd ⟨rfl, rfl⟩ (List.isChain_cons_cons.mp maximal).1
  | .word run :: .mark c :: later =>
      obtain ⟨some, letters⟩ := proper _ List.mem_cons_self
      have isMark : c.isAlpha = false := proper (.mark c) (by simp)
      have behind := tokens_spell
        (fun token isToken => proper token (.tail _ (.tail _ isToken))) maximal.tail.tail
      have cut := tokens_word_mark letters isMark (spell later)
      rw [behind, wordToken, if_neg some] at cut
      exact cut

/-- **A text has one cut into words and marks.** -/
theorem isCut_iff {text : List Char} {cut : List Token} : IsCut text cut ↔ cut = tokens text := by
  constructor
  · intro isCut
    rw [← isCut.spelled, tokens_spell isCut.proper isCut.maximal]
  · rintro rfl
    exact tokens_isCut text

end Crochet.Text
