/-
# Crochet.Proofs.Text.Words -- texts that differ in their words only

A text is words of ASCII letters with single other characters, the marks,
between them.  `Reworded` relates two texts with the same marks in the same
places whose words are related one by one.  Such texts fall apart alike: what
is cut, trimmed or split at marks stays related piece by piece, and the digit
runs, which are made of marks, are the same.
-/
import Crochet.Proofs.Text.Cuts
import Crochet.Proofs.Text.Pieces
import Crochet.Proofs.Text.Runs
import Mathlib.Data.List.Forall2

set_option autoImplicit false

namespace Crochet.Text

/-! ## Letters and marks -/

/-- Letters only: a word, or the nothing between two neighbouring marks. -/
def Letters (word : List Char) : Prop := ∀ c ∈ word, c.isAlpha = true

instance (word : List Char) : Decidable (Letters word) := List.decidableBAll _ word

/-- A word of a text: letters, with no letter on either side. -/
def WordOf (text word : List Char) : Prop :=
  ∃ before after, text = before ++ (word ++ after) ∧ Stops Char.isAlpha before.reverse ∧
    word ≠ [] ∧ Letters word ∧ Stops Char.isAlpha after

/-- The word that a text starts with. -/
theorem wordOf_front {word rest : List Char} (letters : Letters word) (some : word ≠ [])
    (stop : Stops Char.isAlpha rest) : WordOf (word ++ rest) word :=
  ⟨[], rest, rfl, by simp [Stops], some, letters, stop⟩

theorem WordOf.behind {back word : List Char} {c : Char} (isWord : WordOf back word)
    (isMark : c.isAlpha = false) (front : List Char) : WordOf (front ++ c :: back) word := by
  obtain ⟨before, after, rfl, left, some, letters, right⟩ := isWord
  have apart : Stops Char.isAlpha (before.reverse ++ c :: front.reverse) :=
    stops_append left (stops_cons.mpr isMark)
  exact ⟨front ++ c :: before, after, by simp, by simpa using apart, some, letters, right⟩

/-- The words of a text are among the pieces that its marks leave over. -/
theorem WordOf.mem_splitOnP {text word : List Char} (isWord : WordOf text word) :
    word ∈ text.splitOnP fun c => !c.isAlpha := by
  obtain ⟨before, after, rfl, left, -, letters, right⟩ := isWord
  have alone : word.splitOnP (fun c => !c.isAlpha) = [word] :=
    List.splitOnP_eq_singleton fun c inside => by simp [letters c inside]
  have first : word ∈ (word ++ after).splitOnP fun c => !c.isAlpha := by
    cases after with
    | nil => simp [alone]
    | cons c after =>
        have isMark : c.isAlpha = false := stops_cons.mp right
        simp [List.splitOnP_append_cons, isMark, alone]
  rcases List.eq_nil_or_concat' before with rfl | ⟨front, c, rfl⟩
  · exact first
  · rw [List.reverse_concat, stops_cons] at left
    rw [List.append_assoc, List.singleton_append,
      List.splitOnP_append_cons _ _ (by simpa using left)]
    exact List.mem_append_right _ first

theorem toNat_of_isAlpha {c : Char} (letter : c.isAlpha = true) :
    65 ≤ c.toNat ∧ c.toNat ≤ 122 := by
  rcases Bool.or_eq_true_iff.mp letter with upper | lower
  · have bounds : 65 ≤ c.toNat ∧ c.toNat ≤ 90 := of_decide_eq_true upper
    omega
  · obtain ⟨least, greatest⟩ := Bool.and_eq_true_iff.mp lower
    have least : 97 ≤ c.toNat := of_decide_eq_true least
    have greatest : c.toNat ≤ 122 := of_decide_eq_true greatest
    omega

theorem isAlpha_of_isBlank {c : Char} (blank : isBlank c = true) : c.isAlpha = false := by
  by_contra letter
  have range := toNat_of_isAlpha (by simpa using letter)
  simp only [isBlank, Bool.or_eq_true, Bool.and_eq_true, decide_eq_true_eq, beq_iff_eq] at blank
  omega

theorem isAlpha_of_isDigit {c : Char} (digit : isDigit c = true) : c.isAlpha = false := by
  by_contra letter
  have range := toNat_of_isAlpha (by simpa using letter)
  rcases Bool.or_eq_true_iff.mp digit with ascii | other
  · have := toNat_of_isAsciiDigit ascii
    omega
  · have wide := decide_eq_true_eq.mp (Bool.and_eq_true_iff.mp other).1
    omega

theorem Letters.not_mem {word : List Char} {c : Char} (letters : Letters word)
    (mark : c.isAlpha = false) : c ∉ word := fun inside => by simp [letters c inside] at mark

theorem Letters.reverse {word : List Char} (letters : Letters word) : Letters word.reverse :=
  fun c inside => letters c (List.mem_reverse.mp inside)

/-! ## Reworded texts -/

/-- A word and the one in its place: the relation holds, and no word comes from nothing or
vanishes. -/
structure StandsFor (rel : List Char → List Char → Prop) (old new : List Char) : Prop where
  old_letters : Letters old
  new_letters : Letters new
  nil_iff : old = [] ↔ new = []
  related : rel old new

/-- The texts have the same marks, and between them words that are related one by one. -/
inductive Reworded (rel : List Char → List Char → Prop) : List Char → List Char → Prop where
  | last {old new : List Char} (word : StandsFor rel old new) : Reworded rel old new
  | mark {old new olds news : List Char} {c : Char} (word : StandsFor rel old new)
      (isMark : c.isAlpha = false) (rest : Reworded rel olds news) :
      Reworded rel (old ++ c :: olds) (new ++ c :: news)

variable {rel rel' : List Char → List Char → Prop} {old new olds news : List Char} {c : Char}

theorem StandsFor.reverse (word : StandsFor rel old new) :
    StandsFor (fun v w => rel v.reverse w.reverse) old.reverse new.reverse where
  old_letters := word.old_letters.reverse
  new_letters := word.new_letters.reverse
  nil_iff := by simpa using word.nil_iff
  related := by simpa using word.related

theorem Reworded.mono (imp : ∀ v w, rel v w → rel' v w) (texts : Reworded rel olds news) :
    Reworded rel' olds news := by
  have implied {old new : List Char} (word : StandsFor rel old new) : StandsFor rel' old new :=
    ⟨word.old_letters, word.new_letters, word.nil_iff, imp _ _ word.related⟩
  induction texts with
  | last word => exact .last (implied word)
  | mark word isMark _ ih => exact .mark (implied word) isMark ih

theorem Reworded.flip (texts : Reworded rel olds news) :
    Reworded (fun v w => rel w v) news olds := by
  have turned {old new : List Char} (word : StandsFor rel old new) :
      StandsFor (fun v w => rel w v) new old :=
    ⟨word.new_letters, word.old_letters, word.nil_iff.symm, word.related⟩
  induction texts with
  | last word => exact .last (turned word)
  | mark word isMark _ ih => exact .mark (turned word) isMark ih

/-! ## Cutting at a mark -/

/-- Texts that are put together at a mark. -/
theorem Reworded.append {front front' back back' : List Char} (isMark : c.isAlpha = false)
    (fronts : Reworded rel front front') (backs : Reworded rel back back') :
    Reworded rel (front ++ c :: back) (front' ++ c :: back') := by
  induction fronts with
  | last word => exact .mark word isMark backs
  | mark word isMark' _ ih => simpa using Reworded.mark word isMark' ih

/-- A text in front of a mark and one behind it, wherever the mark stands. -/
theorem Reworded.cut {front back : List Char} (isMark : c.isAlpha = false)
    (texts : Reworded rel (front ++ c :: back) news) :
    ∃ front' back', news = front' ++ c :: back' ∧ Reworded rel front front' ∧
      Reworded rel back back' := by
  generalize shape : front ++ c :: back = olds at texts
  induction texts generalizing front with
  | last word =>
      have inside : c ∈ front ++ c :: back := by simp
      rw [shape] at inside
      exact absurd inside (word.old_letters.not_mem isMark)
  | @mark old new olds news d word isMark' rest ih =>
      rcases List.append_eq_append_iff.mp shape with ⟨more, rfl, behind⟩ | ⟨more, rfl, behind⟩
      · -- the mark stands in front of the first one of the text, so in its first word
        cases more with
        | nil =>
            obtain ⟨rfl, rfl⟩ := List.cons.inj behind
            rw [List.append_nil] at word
            exact ⟨new, news, rfl, .last word, rest⟩
        | cons e more =>
            obtain ⟨rfl, -⟩ := List.cons.inj behind
            exact absurd (by simp) (word.old_letters.not_mem isMark)
      · cases more with
        | nil =>
            obtain ⟨rfl, rfl⟩ := List.cons.inj behind
            exact ⟨new, news, rfl, by simpa using .last word, rest⟩
        | cons e more =>
            obtain ⟨rfl, inner⟩ := List.cons.inj behind
            obtain ⟨front', back', rfl, fronts, backs⟩ := ih inner.symm
            exact ⟨new ++ d :: front', back', by simp, .mark word isMark' fronts, backs⟩

/-- A text without a mark is one word. -/
theorem Reworded.standsFor (texts : Reworded rel old news) (letters : Letters old) :
    StandsFor rel old news := by
  cases texts with
  | last word => exact word
  | mark word isMark rest => exact absurd (by simp) (letters.not_mem isMark)

theorem Reworded.eq_nil (texts : Reworded rel [] news) : news = [] :=
  (texts.standsFor (by simp [Letters])).nil_iff.mp rfl

/-- Marks in front of a text stay. -/
theorem Reworded.cut_marks {marks back : List Char} (areMarks : ∀ c ∈ marks, c.isAlpha = false)
    (texts : Reworded rel (marks ++ back) news) :
    ∃ back', news = marks ++ back' ∧ Reworded rel back back' := by
  induction marks generalizing news with
  | nil => exact ⟨news, rfl, texts⟩
  | cons c marks ih =>
      have first : Reworded rel ([] ++ c :: (marks ++ back)) news := texts
      obtain ⟨front', rest', rfl, fronts, backs⟩ := first.cut (areMarks c List.mem_cons_self)
      obtain rfl := fronts.eq_nil
      obtain ⟨back', rfl, kept⟩ := ih (fun d inside => areMarks d (.tail c inside)) backs
      exact ⟨back', rfl, kept⟩

/-- A text of marks has no other one. -/
theorem Reworded.eq_of_marks {marks : List Char} (areMarks : ∀ c ∈ marks, c.isAlpha = false)
    (texts : Reworded rel marks news) : news = marks := by
  rw [← List.append_nil marks] at texts
  obtain ⟨back', rfl, backs⟩ := texts.cut_marks areMarks
  rw [backs.eq_nil, List.append_nil]

theorem Reworded.mem_of_mem (isMark : c.isAlpha = false) (texts : Reworded rel olds news)
    (inside : c ∈ olds) : c ∈ news := by
  obtain ⟨front, back, rfl⟩ := List.append_of_mem inside
  obtain ⟨front', back', rfl, -, -⟩ := texts.cut isMark
  simp

theorem Reworded.nil_iff (texts : Reworded rel olds news) : olds = [] ↔ news = [] := by
  cases texts with
  | last word => exact word.nil_iff
  | mark word isMark rest => simp

/-- A text that does not start with a mark of a class is no other one that does. -/
theorem Reworded.stops {test : Char → Bool} (marks : ∀ c, test c = true → c.isAlpha = false)
    (texts : Reworded rel olds news) (stop : Stops test olds) : Stops test news := by
  intro c first
  by_contra isTest
  have isTest : test c = true := by simpa using isTest
  obtain ⟨back, rfl⟩ := List.head?_eq_some_iff.mp first
  have turned : Reworded _ ([c] ++ back) olds := texts.flip
  obtain ⟨back', rfl, -⟩ := turned.cut_marks (by simpa using marks c isTest)
  rw [List.singleton_append, stops_cons, isTest] at stop
  cases stop

/-! ## Trimming and splitting -/

theorem Reworded.reverse (texts : Reworded rel olds news) :
    Reworded (fun v w => rel v.reverse w.reverse) olds.reverse news.reverse := by
  induction texts with
  | last word => exact .last word.reverse
  | mark word isMark _ ih => simpa using ih.append isMark (.last word.reverse)

theorem Reworded.dropWhile {test : Char → Bool} (marks : ∀ c, test c = true → c.isAlpha = false)
    (texts : Reworded rel olds news) :
    Reworded rel (olds.dropWhile test) (news.dropWhile test) := by
  obtain ⟨run, rest, rfl, all, stop⟩ := exists_cut test olds
  obtain ⟨rest', rfl, rests⟩ := texts.cut_marks fun c inside => marks c (all c inside)
  rwa [dropWhile_run all stop, dropWhile_run all (rests.stops marks stop)]

theorem Reworded.takeWhile_eq {test : Char → Bool} (marks : ∀ c, test c = true → c.isAlpha = false)
    (texts : Reworded rel olds news) : olds.takeWhile test = news.takeWhile test := by
  obtain ⟨run, rest, rfl, all, stop⟩ := exists_cut test olds
  obtain ⟨rest', rfl, rests⟩ := texts.cut_marks fun c inside => marks c (all c inside)
  rw [takeWhile_run all stop, takeWhile_run all (rests.stops marks stop)]

theorem Reworded.trim (texts : Reworded rel olds news) : Reworded rel (trim olds) (trim news) := by
  have blanks : ∀ c, isBlank c = true → c.isAlpha = false := fun _ => isAlpha_of_isBlank
  simpa [Text.trim, dropEndWhile, trimStart] using
    ((texts.dropWhile blanks).reverse.dropWhile blanks).reverse

theorem Reworded.pieces {sep : Char} (isMark : sep.isAlpha = false)
    (texts : Reworded rel olds news) :
    List.Forall₂ (Reworded rel) (pieces sep olds) (pieces sep news) := by
  induction texts with
  | @last old new word =>
      rw [pieces_word (word.old_letters.not_mem isMark), pieces_word (word.new_letters.not_mem isMark)]
      exact .cons (.last word) .nil
  | @mark old new olds news c word isMark' _ ih =>
      rw [pieces_append (word.old_letters.not_mem isMark), pieces_cons,
        pieces_append (word.new_letters.not_mem isMark), pieces_cons]
      split
      · simpa using List.Forall₂.cons (Reworded.last word) ih
      · -- the mark is inside the first piece, which the word is put in front of
        generalize Text.pieces sep olds = front, Text.pieces sep news = front' at ih
        cases ih with
        | nil => exact .nil
        | cons first others => exact .cons (.mark word isMark' first) others

/-- The pieces of a text, trimmed, without the empty ones: how a text falls apart into lines, and
a group into instructions. -/
theorem Reworded.parts {sep : Char} (isMark : sep.isAlpha = false)
    (texts : Reworded rel olds news) :
    List.Forall₂ (Reworded rel)
      (((Text.pieces sep olds).map Text.trim).filter fun part => !part.isEmpty)
      (((Text.pieces sep news).map Text.trim).filter fun part => !part.isEmpty) := by
  refine List.rel_filter ?_ ?_
  · intro part part' reworded
    simp only [Bool.not_eq_true', List.isEmpty_eq_false_iff, ne_eq, reworded.nil_iff]
  · rw [List.forall₂_map_left_iff, List.forall₂_map_right_iff]
    exact (texts.pieces isMark).imp fun _ _ piece => piece.trim

/-! ## Looking for a word -/

theorem starts_of_marked {word front back : List Char} (apart : c ∉ word)
    (starts : word <+: front ++ c :: back) : word <+: front := by
  have whole : front ++ [c] <+: front ++ c :: back := ⟨back, by simp⟩
  rcases List.prefix_or_prefix_of_prefix starts whole with short | long
  · exact (List.prefix_concat_iff.mp short).resolve_left fun same => apart (by simp [same])
  · exact absurd (long.subset (by simp)) apart

/-- A word stands on one side of a mark. -/
theorem holds_iff_of_marked {word front back : List Char} (apart : c ∉ word) :
    word <:+: front ++ c :: back ↔ word <:+: front ∨ word <:+: back := by
  rw [List.infix_append_iff, List.infix_cons_iff]
  constructor
  · rintro (early | (across | late) | ⟨start, rest, rfl, ends, goesOn⟩)
    · exact .inl early
    · rw [← List.nil_append (c :: back)] at across
      rw [List.prefix_nil.mp (starts_of_marked apart across)]
      exact .inl List.nil_infix
    · exact .inr late
    · rw [← List.nil_append (c :: back)] at goesOn
      have apart : c ∉ rest := fun inside => apart (List.mem_append_right start inside)
      rw [List.prefix_nil.mp (starts_of_marked apart goesOn), List.append_nil]
      exact .inl ends.isInfix
  · rintro (early | late)
    · exact .inl early
    · exact .inr (.inl (.inr late))

/-- What is dropped in front of a text belongs to no word. -/
theorem holds_dropWhile_iff {test : Char → Bool} {word : List Char} (some : word ≠ [])
    (apart : ∀ c ∈ word, test c = false) (cs : List Char) :
    word <:+: cs.dropWhile test ↔ word <:+: cs := by
  induction cs with
  | nil => rfl
  | cons c cs ih =>
      rw [List.dropWhile_cons]
      split
      · rename_i dropped
        have outside : c ∉ word := fun inside => by simp [apart c inside] at dropped
        have cut : word <:+: [] ++ c :: cs ↔ word <:+: [] ∨ word <:+: cs :=
          holds_iff_of_marked outside
        rw [ih, ← List.nil_append (c :: cs), cut, List.infix_nil]
        exact (or_iff_right some).symm
      · rfl

/-- A word without blanks is not lost in the margins. -/
theorem holds_trim_iff {word : List Char} (some : word ≠ [])
    (apart : ∀ c ∈ word, isBlank c = false) (cs : List Char) :
    word <:+: Text.trim cs ↔ word <:+: cs := by
  have turned : word.reverse ≠ [] := fun empty => some (List.reverse_eq_nil_iff.mp empty)
  have apart' : ∀ c ∈ word.reverse, isBlank c = false := fun c inside =>
    apart c (List.mem_reverse.mp inside)
  rw [Text.trim, dropEndWhile, ← List.reverse_infix, List.reverse_reverse,
    holds_dropWhile_iff turned apart', List.reverse_infix, trimStart,
    holds_dropWhile_iff some apart]

/-- A word that the text starts with is the start of the other text, if the relation keeps it at
the start of a word. -/
theorem Reworded.starts {word : List Char} (letters : Letters word)
    (keeps : ∀ v w, rel v w → word <+: v → word <+: w) (texts : Reworded rel olds news)
    (starts : word <+: olds) : word <+: news := by
  cases texts with
  | last old => exact keeps _ _ old.related starts
  | mark old isMark _ =>
      have inside := starts_of_marked (letters.not_mem isMark) starts
      exact (keeps _ _ old.related inside).trans (List.prefix_append _ _)

/-- A word of letters inside the text is inside the other text, if the relation keeps it inside
a word. -/
theorem Reworded.holds {word : List Char} (letters : Letters word)
    (keeps : ∀ v w, rel v w → word <:+: v → word <:+: w) (texts : Reworded rel olds news)
    (holds : word <:+: olds) : word <:+: news := by
  induction texts with
  | last old => exact keeps _ _ old.related holds
  | mark old isMark _ ih =>
      rw [holds_iff_of_marked (letters.not_mem isMark)] at holds ⊢
      exact holds.imp (keeps _ _ old.related) ih

/-! ## Digit runs -/

/-- A word ends the digit run in front of it. -/
theorem digitRunsFrom_append {word : List Char} (letters : Letters word) (some : word ≠ [])
    (run rest : List Char) :
    digitRunsFrom run (word ++ rest) = digitRunsFrom run [] ++ digitRuns rest := by
  have gap : ∀ c ∈ word, isDigit c = false := fun c inside => by
    by_contra digit
    exact letters.not_mem (isAlpha_of_isDigit (by simpa using digit)) inside
  obtain ⟨c, cs, rfl⟩ := List.exists_cons_of_ne_nil some
  have others : ∀ d ∈ cs, isDigit d = false := fun d inside => gap d (.tail c inside)
  have ends := digitRunsFrom_append_cons run [] (cs ++ rest) (gap c List.mem_cons_self)
  have left : Stops isDigit cs.reverse := stops_of_no_digit (by simpa using others)
  rw [List.nil_append, digitRuns_append (.inl left), digitRuns_of_no_digit others] at ends
  exact ends

theorem Reworded.digitRunsFrom (run : List Char) (texts : Reworded rel olds news) :
    digitRunsFrom run olds = digitRunsFrom run news := by
  induction texts generalizing run with
  | @last old new word =>
      by_cases empty : old = []
      · rw [empty, word.nil_iff.mp empty]
      · have one := digitRunsFrom_append word.old_letters empty run []
        have other := digitRunsFrom_append word.new_letters (mt word.nil_iff.mpr empty) run []
        rw [List.append_nil] at one other
        rw [one, other]
  | @mark old new olds news c word _ _ ih =>
      have step (run : List Char) :
          Text.digitRunsFrom run (c :: olds) = Text.digitRunsFrom run (c :: news) := by
        simp only [Text.digitRunsFrom, ih]
      by_cases empty : old = []
      · rw [empty, word.nil_iff.mp empty]
        exact step run
      · rw [digitRunsFrom_append word.old_letters empty,
          digitRunsFrom_append word.new_letters (mt word.nil_iff.mpr empty)]
        exact congrArg _ (step [])

/-- Digits are marks, so the words around them do not tell where a run begins or ends. -/
theorem Reworded.digitRuns (texts : Reworded rel olds news) : digitRuns olds = digitRuns news :=
  texts.digitRunsFrom []

end Crochet.Text
