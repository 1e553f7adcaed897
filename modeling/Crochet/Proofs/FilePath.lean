/-
# Crochet.Proofs.FilePath -- one more name behind a path

A plain name has no slash in it, is not idle and does not lead up.  Put behind
a path it is the last name of the joined path, whichever way the path ends, and
all names before it are those of the path.
-/
import Crochet.FilePath
import Crochet.Proofs.Text.Pieces
import Mathlib.Data.List.Basic

set_option autoImplicit false

namespace Crochet.FilePath

open Text

theorem isIdle_of_isEmpty {name : String} (empty : name.isEmpty = true) : isIdle name = true := by
  rw [isIdle, empty, Bool.true_or]

/-- A name that stands for something of its own in a directory. -/
structure Plain (name : String) : Prop where
  moves : isIdle name = false
  stays : name ≠ ".."
  whole : '/' ∉ name.toList

theorem Plain.isEmpty {name : String} (plain : Plain name) : name.isEmpty = false :=
  (Bool.or_eq_false_iff.mp plain.moves).1

theorem Plain.ne_dot {name : String} (plain : Plain name) : name ≠ "." := by
  have notDot := (Bool.or_eq_false_iff.mp plain.moves).2
  exact beq_eq_false_iff_ne.mp notDot

theorem Plain.toList_ne_nil {name : String} (plain : Plain name) : name.toList ≠ [] := by
  have filled := plain.isEmpty
  intro empty
  rw [String.toList_eq_nil_iff.mp empty] at filled
  exact absurd filled (by decide)

/-! ## Names -/

theorem names_append (front back : String) :
    names (front ++ "/" ++ back) = names front ++ names back := by
  have chars : (front ++ "/" ++ back).toList = front.toList ++ '/' :: back.toList := by simp
  rw [names, chars, pieces_append_sep, List.map_append]
  rfl

theorem Plain.names_eq {name : String} (plain : Plain name) : names name = [name] := by
  rw [names, pieces_word plain.whole]
  simp

theorem namesDirectory_iff {path : String} :
    namesDirectory path = true ↔ ∃ front : String, path = front ++ "/" := by
  constructor
  · intro ends
    unfold namesDirectory at ends
    split at ends
    · rename_i c last
      obtain ⟨front, shape⟩ := List.getLast?_eq_some_iff.mp last
      obtain rfl : c = '/' := by simpa using ends
      refine ⟨String.ofList front, String.toList_inj.mp ?_⟩
      rw [shape]
      simp
    · cases ends
  · rintro ⟨front, rfl⟩
    simp [namesDirectory]

/-- The three ways to put a name behind a path. -/
theorem join_cases (directory name : String) :
    (directory = "" ∧ join directory name = name) ∨
      (∃ front, directory = front ++ "/" ∧ join directory name = front ++ "/" ++ name) ∨
      (directory ≠ "" ∧ join directory name = directory ++ "/" ++ name) := by
  unfold join
  split
  · rename_i ends
    rcases Bool.or_eq_true_iff.mp ends with empty | slash
    · obtain rfl := String.isEmpty_iff.mp empty
      exact .inl ⟨rfl, by simp⟩
    · obtain ⟨front, rfl⟩ := namesDirectory_iff.mp slash
      exact .inr (.inl ⟨front, rfl, rfl⟩)
  · rename_i other
    refine .inr (.inr ⟨?_, rfl⟩)
    rintro rfl
    exact other (by decide)

/-! ## Parents -/

theorem names_ne_nil (path : String) : names path ≠ [] := by
  rw [names, pieces_eq_splitOn]
  simp [List.splitOn_ne_nil]

/-- A path without a parent has idle names only. -/
theorem idle_of_parent?_eq_none {path : String} (top : parent? path = none) :
    ∀ name ∈ names path, isIdle name = true := by
  obtain ⟨first, rest, shape⟩ := List.exists_cons_of_ne_nil (names_ne_nil path)
  rw [parent?, shape, withoutIdle, List.reverse_cons, List.reverse_reverse] at top
  cases kept : rest.reverse.dropWhile isIdle with
  | nil =>
      rw [kept] at top
      have empty : first.isEmpty = true := by
        by_contra filled
        simp [filled] at top
      have idle : ∀ name ∈ rest, isIdle name = true := fun name inside =>
        List.dropWhile_eq_nil_iff.mp kept name (List.mem_reverse.mpr inside)
      intro name inside
      rw [shape] at inside
      rcases List.mem_cons.mp inside with rfl | inside
      · exact isIdle_of_isEmpty empty
      · exact idle name inside
  | cons last before =>
      -- of two names or more, those before the last one make a parent
      rw [kept] at top
      split at top
      · rename_i none
        simp at none
      · rename_i alone
        simp at alone
      · split at top <;> cases top

/-- A path is the first of its ancestors, or has none, as it has no parent. -/
theorem ancestors_cases (path : String) :
    (ancestors path = [] ∧ parent? path = none) ∨ ∃ above, ancestors path = path :: above := by
  obtain ⟨first, rest, shape⟩ := List.exists_cons_of_ne_nil (names_ne_nil path)
  rw [ancestors, shape, List.length_cons, ancestorsUpTo]
  cases parent? path with
  | none => exact .inl ⟨rfl, rfl⟩
  | some parent => exact .inr ⟨_, rfl⟩

/-! ## A plain name behind a path -/

variable {directory name : String}

theorem steps_join (plain : Plain name) :
    steps (join directory name) = steps directory ++ [name] := by
  have kept : [name].filter (fun name => !name.isEmpty) = [name] := by
    simp [plain.isEmpty]
  unfold steps
  rcases join_cases directory name with ⟨rfl, joined⟩ | ⟨front, rfl, joined⟩ | ⟨-, joined⟩
  · rw [joined, plain.names_eq, kept]
    rfl
  · -- the empty name behind the last slash is no step
    have ended := names_append front ""
    rw [String.append_empty] at ended
    rw [joined, names_append, plain.names_eq, ended, List.filter_append, List.filter_append, kept]
    simp [names, pieces_nil]
  · rw [joined, names_append, plain.names_eq, List.filter_append, kept]

theorem isAbsolute_append (filled : directory ≠ "") (rest : String) :
    isAbsolute (directory ++ rest) = isAbsolute directory := by
  obtain ⟨c, cs, shape⟩ : ∃ c cs, directory.toList = c :: cs :=
    List.exists_cons_of_ne_nil fun empty => filled (String.toList_eq_nil_iff.mp empty)
  simp [isAbsolute, shape]

theorem Plain.isAbsolute_eq (plain : Plain name) : isAbsolute name = false := by
  obtain ⟨c, cs, shape⟩ := List.exists_cons_of_ne_nil plain.toList_ne_nil
  have other : c ≠ '/' := fun same => plain.whole (by simp [shape, same])
  simp [isAbsolute, shape, other]

theorem isAbsolute_join (plain : Plain name) :
    isAbsolute (join directory name) = isAbsolute directory := by
  rcases join_cases directory name with ⟨rfl, joined⟩ | ⟨front, rfl, joined⟩ | ⟨filled, joined⟩
  · rw [joined, plain.isAbsolute_eq]
    rfl
  · rw [joined]
    exact isAbsolute_append (by simp) name
  · rw [joined, String.append_assoc]
    exact isAbsolute_append filled _

theorem namesDirectory_join (plain : Plain name) :
    namesDirectory (join directory name) = false := by
  obtain ⟨front, joined⟩ : ∃ front : String, join directory name = front ++ name := by
    rcases join_cases directory name with ⟨-, joined⟩ | ⟨front, -, joined⟩ | ⟨-, joined⟩
    · exact ⟨"", by simp [joined]⟩
    · exact ⟨_, joined⟩
    · exact ⟨_, joined⟩
  rcases List.eq_nil_or_concat' name.toList with empty | ⟨before, c, shape⟩
  · exact absurd empty plain.toList_ne_nil
  · have other : c ≠ '/' := fun same => plain.whole (by simp [shape, same])
    simp [namesDirectory, joined, shape, other]

theorem isEmpty_join (plain : Plain name) : (join directory name).isEmpty = false := by
  rcases join_cases directory name with ⟨-, joined⟩ | ⟨front, -, joined⟩ | ⟨-, joined⟩
  · rw [joined, plain.isEmpty]
  · simp [joined]
  · simp [joined]

end Crochet.FilePath
