/-
# Crochet.Proofs.Terminology -- US words in the place of UK words

A text in US words has the marks of the UK text, and between them the US word
for each word of it.  No word vanishes and none comes from nothing, so the
words of the result are the replaced ones.  That fixes the text in US words,
so whatever keeps words and marks apart goes with it piece by piece.
-/
import Crochet.Terminology
import Crochet.Proofs.Text.Words

set_option autoImplicit false

namespace Crochet.Terminology

open Text

theorem usWord_letters {word : List Char} (letters : Letters word) : Letters (usWord word) := by
  unfold usWord
  split_ifs
  · simp [Letters]
  · simp [Letters]
  · simp [Letters]
  · simp [Letters]
  · exact letters

theorem usWord_nil : usWord [] = [] := by decide

theorem usWord_eq_nil_iff {word : List Char} : word = [] ↔ usWord word = [] := by
  constructor
  · rintro rfl
    exact usWord_nil
  · intro empty
    unfold usWord at empty
    split_ifs at empty
    exact empty

variable {rel : List Char → List Char → Prop} {word rest : List Char}

/-- The word in front of a mark, or of the end of the text, and the US word for it. -/
theorem standsFor_usWord (nothing : rel [] []) (letters : Letters word)
    (stop : Stops Char.isAlpha rest)
    (related : ∀ w, WordOf (word ++ rest) w → rel w (usWord w)) :
    StandsFor rel word (usWord word) := by
  refine ⟨letters, usWord_letters letters, usWord_eq_nil_iff, ?_⟩
  by_cases empty : word = []
  · rwa [empty, usWord_nil]
  · exact related word (wordOf_front letters empty stop)

theorem reworded_usTextFrom (nothing : rel [] []) (letters : Letters word.reverse)
    (related : ∀ w, WordOf (word.reverse ++ rest) w → rel w (usWord w)) :
    Reworded rel (word.reverse ++ rest) (usTextFrom word rest) := by
  induction rest generalizing word with
  | nil =>
      have last := standsFor_usWord nothing letters (by simp [Stops]) related
      simpa [usTextFrom] using Reworded.last last
  | cons c cs ih =>
      rw [usTextFrom]
      split
      · rename_i letter
        have longer : word.reverse ++ c :: cs = (c :: word).reverse ++ cs := by simp
        rw [longer] at related ⊢
        refine ih (fun d inside => ?_) related
        rw [List.reverse_cons, List.mem_append, List.mem_singleton] at inside
        rcases inside with early | rfl
        · exact letters d early
        · exact letter
      · rename_i notLetter
        have isMark : c.isAlpha = false := by simpa using notLetter
        have here := standsFor_usWord nothing letters (stops_cons.mpr isMark) related
        have nothingRead : Letters ([] : List Char).reverse := by simp [Letters]
        have later := ih nothingRead fun w isWord =>
          related w (WordOf.behind isWord isMark word.reverse)
        exact .mark here isMark later

/-- A text in US words is related to the text itself word by word, if each of its words is
related to the US word. -/
theorem reworded_usText {text : List Char} (nothing : rel [] [])
    (related : ∀ word, WordOf text word → rel word (usWord word)) :
    Reworded rel text (usText text) := by
  have none : Letters ([] : List Char).reverse := by simp [Letters]
  exact reworded_usTextFrom nothing none related

/-! ## A text and its one text in US words -/

/-- A word and its US word. -/
def Renamed (old new : List Char) : Prop := new = usWord old

theorem usTextFrom_letters {word : List Char} (letters : Letters word) (front rest : List Char) :
    usTextFrom front (word ++ rest) = usTextFrom (word.reverse ++ front) rest := by
  induction word generalizing front with
  | nil => rfl
  | cons c word ih =>
      have letter : c.isAlpha = true := letters c List.mem_cons_self
      have others : Letters word := fun d inside => letters d (List.mem_cons_of_mem c inside)
      rw [List.cons_append, usTextFrom, if_pos letter, ih others, List.reverse_cons,
        List.append_assoc]
      rfl

theorem usText_word {word : List Char} (letters : Letters word) : usText word = usWord word := by
  have whole := usTextFrom_letters letters [] []
  rw [List.append_nil, List.append_nil] at whole
  rw [usText, whole, usTextFrom, List.reverse_reverse]

theorem usText_word_mark {word : List Char} {c : Char} (letters : Letters word)
    (isMark : c.isAlpha = false) (rest : List Char) :
    usText (word ++ c :: rest) = usWord word ++ c :: usText rest := by
  have notLetter : ¬ c.isAlpha = true := by simp [isMark]
  rw [usText, usTextFrom_letters letters, List.append_nil, usTextFrom, if_neg notLetter,
    List.reverse_reverse, usText]

/-- A text has one text with its marks and the US words for its words. -/
theorem reworded_renamed_iff {text other : List Char} :
    Reworded Renamed text other ↔ other = usText text := by
  constructor
  · intro texts
    induction texts with
    | @last old new word =>
        have renamed : new = usWord old := word.related
        rw [renamed, usText_word word.old_letters]
    | @mark old new olds news c word isMark _ ih =>
        have renamed : new = usWord old := word.related
        rw [renamed, ih, usText_word_mark word.old_letters isMark]
  · rintro rfl
    have nothing : Renamed [] [] := usWord_nil.symm
    exact reworded_usText nothing fun word _ => rfl

theorem reworded_renamed (text : List Char) : Reworded Renamed text (usText text) :=
  reworded_renamed_iff.mpr rfl

theorem eq_map_usText {texts others : List (List Char)}
    (related : List.Forall₂ (Reworded Renamed) texts others) : others = texts.map usText := by
  have each : List.Forall₂ (fun text other => usText text = other) texts others :=
    related.imp fun _ _ texts => (reworded_renamed_iff.mp texts).symm
  rw [← List.forall₂_map_left_iff, List.forall₂_eq_eq_eq] at each
  exact each.symm

/-- No word reaches across a mark, so the pieces between marks are replaced one by one. -/
theorem pieces_usText {sep : Char} (isMark : sep.isAlpha = false) (text : List Char) :
    pieces sep (usText text) = (pieces sep text).map usText :=
  eq_map_usText ((reworded_renamed text).pieces isMark)

/-! ## Margins -/

/-- The lines are both blank or neither, and start and end with the same blanks. -/
structure SameMargins (line other : List Char) : Prop where
  blank_iff : trim line = [] ↔ trim other = []
  front : line.takeWhile isBlank = other.takeWhile isBlank
  back : line.reverse.takeWhile isBlank = other.reverse.takeWhile isBlank

theorem sameMargins_usText (line : List Char) : SameMargins line (usText line) := by
  have texts := reworded_renamed line
  have blanks : ∀ c, isBlank c = true → c.isAlpha = false := fun _ => isAlpha_of_isBlank
  exact ⟨texts.trim.nil_iff, texts.takeWhile_eq blanks, texts.reverse.takeWhile_eq blanks⟩

end Crochet.Terminology
