/-
# Crochet.Proofs.Instruction.Twins -- lines that count the same in other words

The names of stitches that the two vocabularies swap are made of few letters.
Each word that a line is searched for has a letter that none of them has, so a
line keeps its count, and the rule that gave it, when such names are put in the
place of each other.  One lemma per finder says so, and `resolve` asks the
finders only.
-/
import Crochet.Instruction.Resolve
import Crochet.Proofs.Instruction.Notation
import Crochet.Proofs.Text.Words

set_option autoImplicit false

namespace Crochet.Instruction

open Text

/-! ## Words that count alike -/

/-- The letters of the stitch names that the vocabularies swap. -/
def swapLetters : List Char := "acderst".toList

/-- A word of these letters, in any case. -/
def Swappable (word : List Char) : Prop := ∀ c ∈ word, c.toLower ∈ swapLetters

instance (word : List Char) : Decidable (Swappable word) := List.decidableBAll _ word

/-- One word in two texts, or two words of swappable letters. -/
def Alike (v w : List Char) : Prop := v = w ∨ Swappable v ∧ Swappable w

theorem Alike.symm {v w : List Char} (alike : Alike v w) : Alike w v :=
  alike.imp Eq.symm And.symm

/-- A word that no other one is alike to, as one of its letters is not swappable. -/
def Telling (word : List Char) : Prop := Letters word ∧ ∃ c ∈ word, c.toLower ∉ swapLetters

instance (word : List Char) : Decidable (Telling word) :=
  have : Decidable (∃ c ∈ word, c.toLower ∉ swapLetters) := List.decidableBEx _ word
  inferInstanceAs (Decidable (_ ∧ _))

/-- A word that holds all letters of a telling one is alike to itself only. -/
theorem Telling.eq_of_subset {word v w : List Char} (telling : Telling word) (inside : word ⊆ v)
    (alike : Alike v w) : v = w := by
  obtain ⟨-, c, letter, unswappable⟩ := telling
  exact alike.resolve_right fun swappable => unswappable (swappable.1 c (inside letter))

/-- Two texts with alike words. -/
abbrev Twins (text text' : List Char) : Prop := Reworded Alike text text'

variable {text text' : List Char}

theorem twins_symm (twins : Twins text text') : Twins text' text :=
  twins.flip.mono fun _ _ => Alike.symm

theorem Telling.eq_of_twins {word : List Char} (telling : Telling word)
    (twins : Twins word text') : text' = word :=
  (telling.eq_of_subset (List.Subset.refl word) (twins.standsFor telling.1).related).symm

/-! ## Stated totals -/

theorem StatesTotal.twin {digits : List Char} (stated : StatesTotal text digits)
    (twins : Twins text text') : StatesTotal text' digits := by
  obtain ⟨isRun, front, rfl⟩ := stated
  obtain ⟨front', back', rfl, -, backs⟩ := twins.cut (by decide)
  refine ⟨isRun, front', ?_⟩
  rw [backs.eq_of_marks fun c inside => ?_]
  rcases List.mem_append.mp inside with digit | paren
  · exact isAlpha_of_isDigit (isRun.digits c digit)
  · rw [List.mem_singleton.mp paren]
    decide

theorem statedTotal_twins (twins : Twins text text') : statedTotal text = statedTotal text' := by
  ext digits
  rw [statedTotal_eq_some_iff, statedTotal_eq_some_iff]
  exact ⟨(·.twin twins), (·.twin (twins_symm twins))⟩

/-! ## Bracket groups -/

theorem Multiplies.twin {digits : List Char} (multiplies : Multiplies text digits)
    (twins : Twins text text') : Multiplies text' digits := by
  obtain ⟨blanks, x, more, rest, rfl, allBlank, isX, allMore, isRun, stop⟩ := multiplies
  obtain ⟨behind, rfl, behinds⟩ :=
    twins.cut_marks fun c inside => isAlpha_of_isBlank (allBlank c inside)
  have areMarks : ∀ c ∈ more ++ digits, c.isAlpha = false := fun c inside =>
    (List.mem_append.mp inside).elim (fun blank => isAlpha_of_isBlank (allMore c blank))
      fun digit => isAlpha_of_isDigit (isRun.digits c digit)
  obtain ⟨c, gap, shape⟩ : ∃ c gap, more ++ digits = c :: gap :=
    List.exists_cons_of_ne_nil (by simp [isRun.ne_nil])
  rw [shape] at areMarks
  -- the letter x is a word of its own, as blanks or digits follow it
  have apart : x :: (more ++ (digits ++ rest)) = [x] ++ c :: (gap ++ rest) := by
    rw [← List.append_assoc, shape]
    rfl
  rw [apart] at behinds
  obtain ⟨word, behind, rfl, words, behinds⟩ := behinds.cut (areMarks c List.mem_cons_self)
  obtain ⟨rest', rfl, rests⟩ := behinds.cut_marks fun d inside => areMarks d (.tail c inside)
  have telling : Telling [x] := by rcases isX with rfl | rfl <;> decide
  refine ⟨blanks, x, more, rest', ?_, allBlank, isX, allMore, isRun,
    rests.stops (fun _ => isAlpha_of_isDigit) stop⟩
  rw [telling.eq_of_twins words, ← List.append_assoc more, shape]
  rfl

theorem multiplier_twins (twins : Twins text text') : multiplier text = multiplier text' := by
  ext digits
  rw [multiplier_eq_some_iff, multiplier_eq_some_iff]
  exact ⟨(·.twin twins), (·.twin (twins_symm twins))⟩

/-- Of the instructions of a group only one counts twice, and it is in no other words. -/
theorem contribution_twins (twins : Twins text text') : contribution text = contribution text' := by
  have kept {text text' : List Char} (twins : Twins text text') (inc : text = ['i', 'n', 'c']) :
      text' = ['i', 'n', 'c'] := by
    subst inc
    exact Telling.eq_of_twins (by decide) twins
  have same : text = ['i', 'n', 'c'] ↔ text' = ['i', 'n', 'c'] :=
    ⟨kept twins, kept (twins_symm twins)⟩
  simp only [contribution, same]

theorem perRepeat_twins (twins : Twins text text') : perRepeat text = perRepeat text' := by
  have counted : (tokens text).map contribution = (tokens text').map contribution := by
    have parts : List.Forall₂ Twins (tokens text) (tokens text') := twins.parts (by decide)
    rw [← List.forall₂_eq_eq_eq, List.forall₂_map_left_iff, List.forall₂_map_right_iff]
    exact parts.imp fun _ _ => contribution_twins
  rw [perRepeat, counted, perRepeat]

/-- The group that opens at a bracket has another inside, and the same total. -/
theorem groupAt_twins (twins : Twins text text') :
    (groupAt text).map Group.total = (groupAt text').map Group.total := by
  by_cases closed : ']' ∈ text
  · obtain ⟨inside, after, rfl, unclosed⟩ := List.eq_append_cons_of_mem closed
    obtain ⟨inside', after', rfl, insides, afters⟩ := twins.cut (by decide)
    have unclosed' : ']' ∉ inside' := mt ((twins_symm insides).mem_of_mem (by decide)) unclosed
    rw [groupAt_eq unclosed, groupAt_eq unclosed', multiplier_twins afters, Option.map_map,
      Option.map_map]
    congr 1
    funext digits
    simp only [Function.comp, Group.total, perRepeat_twins insides]
  · have unclosed' : ']' ∉ text' := mt ((twins_symm twins).mem_of_mem (by decide)) closed
    have none {opened : List Char} (unclosed : ']' ∉ opened) : groupAt opened = none :=
      groupAt_eq_none_iff.mpr fun group opens => by
        obtain ⟨-, after, rfl, -⟩ := opens
        simp at unclosed
    rw [none closed, none unclosed']

/-- No group opens inside a word. -/
theorem bracketGroup_append {word : List Char} (unopened : '[' ∉ word) (rest : List Char) :
    bracketGroup (word ++ rest) = bracketGroup rest := by
  induction word with
  | nil => rfl
  | cons c word ih =>
      rw [List.cons_append, bracketGroup_cons, if_neg fun same => unopened (by simp [same]),
        ih fun inside => unopened (.tail c inside), Option.none_or]

theorem bracketGroup_twins (twins : Twins text text') :
    (bracketGroup text).map Group.total = (bracketGroup text').map Group.total := by
  induction twins with
  | @last old new word =>
      have alone {word : List Char} (letters : Letters word) : bracketGroup word = none := by
        rw [← List.append_nil word, bracketGroup_append (letters.not_mem (by decide))]
        rfl
      rw [alone word.old_letters, alone word.new_letters]
  | @mark old new olds news c word isMark rest ih =>
      rw [bracketGroup_append (word.old_letters.not_mem (by decide)), bracketGroup_cons,
        bracketGroup_append (word.new_letters.not_mem (by decide)), bracketGroup_cons,
        Option.map_or, Option.map_or, ih]
      split
      · rw [groupAt_twins rest]
      · rfl

/-! ## Names and numbers -/

theorem Telling.holds_iff {word : List Char} (telling : Telling word)
    (twins : Twins text text') : word <:+: text ↔ word <:+: text' := by
  have keeps : ∀ v w, Alike v w → word <:+: v → word <:+: w := fun v w alike holds =>
    telling.eq_of_subset holds.subset alike ▸ holds
  exact ⟨twins.holds telling.1 keeps, (twins_symm twins).holds telling.1 keeps⟩

theorem Telling.starts {word : List Char} (telling : Telling word) (twins : Twins text text')
    (starts : word <+: text) : word <+: text' := by
  have keeps : ∀ v w, Alike v w → word <+: v → word <+: w := fun v w alike starts =>
    telling.eq_of_subset starts.subset alike ▸ starts
  exact twins.starts telling.1 keeps starts

theorem Telling.ends {word : List Char} (telling : Telling word) (twins : Twins text text')
    (ends : word <:+ text) : word <:+ text' := by
  have turned : Twins text.reverse text'.reverse := twins.reverse.mono fun v w alike => by
    simpa [Alike, Swappable] using alike
  have backwards : Telling word.reverse := ⟨telling.1.reverse, by simpa using telling.2⟩
  rw [← List.reverse_prefix] at ends ⊢
  exact backwards.starts turned ends

theorem namesIncrease_twins (twins : Twins text text') :
    namesIncrease text = namesIncrease text' := by
  rw [Bool.eq_iff_iff, namesIncrease, namesIncrease, occurs_iff, occurs_iff]
  exact Telling.holds_iff (by decide) twins

/-- The two words of the name stand on both sides of a mark, the blank, and both are telling. -/
theorem magicRing_twin (twins : Twins text text') (named : "magic ring".toList <:+: text) :
    "magic ring".toList <:+: text' := by
  obtain ⟨before, after, shape⟩ := named
  have apart : text = (before ++ "magic".toList) ++ ' ' :: ("ring".toList ++ after) := by
    rw [← shape]
    simp
  rw [apart] at twins
  obtain ⟨front', back', rfl, fronts, backs⟩ := twins.cut (by decide)
  have magic : Telling "magic".toList := by decide
  have ring : Telling "ring".toList := by decide
  obtain ⟨before', rfl⟩ := magic.ends fronts (List.suffix_append before _)
  obtain ⟨after', rfl⟩ := ring.starts backs (List.prefix_append _ after)
  exact ⟨before', after', by simp⟩

theorem namesMagicRing_twins (twins : Twins text text') :
    namesMagicRing text = namesMagicRing text' := by
  rw [Bool.eq_iff_iff]
  simp only [namesMagicRing, Bool.or_eq_true, occurs_iff]
  exact or_congr (Telling.holds_iff (by decide) twins)
    ⟨magicRing_twin twins, magicRing_twin (twins_symm twins)⟩

/-! ## Counts -/

theorem resolvePlain_twins (twins : Twins text text') (previous : Count) :
    resolvePlain text previous = resolvePlain text' previous := by
  simp only [resolvePlain, namesMagicRing_twins twins, namesIncrease_twins twins,
    twins.digitRuns]

/-- A line keeps its count and its rule in other words. -/
theorem resolve_twins (twins : Twins text text') (previous : Count) :
    resolve text previous = resolve text' previous := by
  have groups := bracketGroup_twins twins
  simp only [resolve, statedTotal_twins twins, resolvePlain_twins twins]
  cases statedTotal text' with
  | some digits => rfl
  | none =>
      -- of a group only the total goes into the count
      cases found : bracketGroup text <;> cases found' : bracketGroup text' <;> simp_all

end Crochet.Instruction
