/-
# Crochet.Proofs.Pattern.Vocabulary -- US words go into a text line by line

Line breaks and blanks are no letters, so no word reaches across the end of a
line or into its margin.  Putting US words into a text is therefore the same as
putting them into each of its lines: lines are neither joined nor split, and
none becomes blank, stops being blank or moves.
-/
import Crochet.Proofs.Pattern.Lines
import Crochet.Proofs.Terminology

set_option autoImplicit false

namespace Crochet.Pattern

open Text

theorem lines_usText (text : List Char) :
    lines (Terminology.usText text) = (lines text).map Terminology.usText :=
  Terminology.eq_map_usText ((Terminology.reworded_renamed text).parts (by decide))

/-- **Rewriting a text in US words commutes with cutting it into rounds.**  The rewritten text has
as many rounds as the text, and each of them has the rewritten instruction of the one in its
place.  Of the raw lines, blank ones included, each is rewritten for itself, and it keeps the
blanks in front and at the end. -/
theorem parse_normalize (text : String) :
    (parse (Terminology.uk.normalize text)).length = (parse text).length ∧
      (parse (Terminology.uk.normalize text)).rounds.map Round.text =
        (parse text).rounds.map (fun round => Terminology.uk.normalize round.text) ∧
      pieces '\n' (Terminology.uk.normalize text).toList =
        (pieces '\n' text.toList).map Terminology.usText ∧
      ∀ line ∈ pieces '\n' text.toList,
        Terminology.SameMargins line (Terminology.usText line) := by
  have chars : (Terminology.uk.normalize text).toList = Terminology.usText text.toList := by
    simp [Terminology.normalize]
  have texts : (parse (Terminology.uk.normalize text)).rounds.map Round.text =
      (parse text).rounds.map fun round => Terminology.uk.normalize round.text := by
    calc (parse (Terminology.uk.normalize text)).rounds.map Round.text
        = ((lines text.toList).map Terminology.usText).map String.ofList := by
          rw [parse_texts, chars, lines_usText]
      _ = ((lines text.toList).map String.ofList).map Terminology.uk.normalize := by
          rw [List.map_map, List.map_map]
          apply List.map_congr_left
          intro line _
          simp [Terminology.normalize]
      _ = (parse text).rounds.map fun round => Terminology.uk.normalize round.text := by
          rw [← parse_texts, List.map_map]
          rfl
  refine ⟨?_, texts, ?_, fun line _ => Terminology.sameMargins_usText line⟩
  · simpa [length] using congrArg List.length texts
  · rw [chars]
    exact Terminology.pieces_usText (by decide) text.toList

/-- Marks of every kind beside the words: digits, a tab, a no-break space, a carriage return and
an empty line. -/
example :
    (parse (Terminology.uk.normalize "\t2dc\u00a0in MR\r\n\r\n [tr, Increase]x6\ndcx ")).rounds.map
      Round.text = ["2sc\u00a0in MR", "[dc, inc]x6", "dcx"] := by decide +kernel

end Crochet.Pattern
