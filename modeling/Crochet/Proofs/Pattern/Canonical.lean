/-
# Crochet.Proofs.Pattern.Canonical -- which texts are read as the same pattern

`Shows` says that a text shows some lines in some layout: each with white space
of its own around it, between any number of lines of white space alone, and
with either kind of line break behind it.  Every text shows the lines that it
is read as, and a text that shows these is read as them.  So two texts give
the same pattern exactly when the one shows the lines of the other, and the
lines themselves, joined in any such way, are a canonical form of a text.
-/
import Crochet.Proofs.Pattern.Totals

set_option autoImplicit false

namespace Crochet.Pattern

open Text

/-- A line of a pattern as it is kept. -/
structure IsLine (line : List Char) : Prop where
  filled : line ≠ []
  unbroken : '\n' ∉ line
  trimmed : Trimmed line

/-- White space beside a line, or instead of one. -/
def IsMargin (cs : List Char) : Prop := ∀ c ∈ cs, isBlank c = true ∧ c ≠ '\n'

/-- What a row of a text shows: nothing, or a line in its margins. -/
inductive Row : List (List Char) → List Char → Prop where
  | blank {margin : List Char} (white : IsMargin margin) : Row [] margin
  | line {before line after : List Char} (white : IsMargin before) (white' : IsMargin after) :
      Row [line] (before ++ line ++ after)

/-- Line breaks as they are written. -/
def lineBreaks : List (List Char) := [['\n'], ['\r', '\n']]

/-- The text shows the lines, in order, in some layout. -/
inductive Shows : List (List Char) → List Char → Prop where
  | last {here : List (List Char)} {row : List Char} (isRow : Row here row) : Shows here row
  | more {here lines : List (List Char)} {row lineBreak text : List Char} (isRow : Row here row)
      (ends : lineBreak ∈ lineBreaks) (rest : Shows lines text) :
      Shows (here ++ lines) (row ++ lineBreak ++ text)

/-! ## Reading a layout -/

theorem isMargin_of_blank {cs : List Char} (blank : ∀ c ∈ cs, isBlank c = true)
    (unbroken : '\n' ∉ cs) : IsMargin cs := by
  intro c inside
  refine ⟨blank c inside, ?_⟩
  rintro rfl
  exact unbroken inside

theorem IsMargin.append {front back : List Char} (white : IsMargin front)
    (white' : IsMargin back) : IsMargin (front ++ back) := by
  intro c inside
  exact (List.mem_append.mp inside).elim (white c) (white' c)

theorem IsMargin.blank {margin : List Char} (white : IsMargin margin) :
    ∀ c ∈ margin, isBlank c = true := fun c inside => (white c inside).1

theorem IsMargin.trim_eq {margin : List Char} (white : IsMargin margin) : trim margin = [] :=
  trim_of_blank white.blank

/-- A carriage return at the end of a row is part of its margin. -/
theorem Row.returned {here : List (List Char)} {row : List Char} (isRow : Row here row) :
    Row here (row ++ ['\r']) := by
  have white : IsMargin ['\r'] := by
    intro c inside
    obtain rfl := List.mem_singleton.mp inside
    decide
  cases isRow with
  | blank white' => exact .blank (white'.append white)
  | line before after =>
      rw [List.append_assoc]
      exact .line before (after.append white)

theorem Row.unbroken {here : List (List Char)} {row : List Char} (isRow : Row here row)
    (kept : ∀ line ∈ here, IsLine line) : '\n' ∉ row := by
  have apart : ∀ {margin : List Char}, IsMargin margin → '\n' ∉ margin :=
    fun white inside => (white _ inside).2 rfl
  cases isRow with
  | blank white => exact apart white
  | @line before line after white white' =>
      have isLine := kept line List.mem_cons_self
      simp only [List.mem_append, not_or]
      exact ⟨⟨apart white, isLine.unbroken⟩, apart white'⟩

/-- A row without a line break is one line, or none when it is blank. -/
theorem lines_of_unbroken {row : List Char} (unbroken : '\n' ∉ row) :
    lines row = if trim row = [] then [] else [trim row] := by
  rw [lines, pieces_word unbroken, List.map_singleton]
  by_cases nothing : trim row = [] <;> simp [nothing]

theorem Row.lines_eq {here : List (List Char)} {row : List Char} (isRow : Row here row)
    (kept : ∀ line ∈ here, IsLine line) : lines row = here := by
  rw [lines_of_unbroken (isRow.unbroken kept)]
  cases isRow with
  | blank white => rw [if_pos white.trim_eq]
  | @line before line after white white' =>
      have isLine := kept line List.mem_cons_self
      rw [trim_margins white.blank isLine.trimmed white'.blank, if_neg isLine.filled]

/-- A text is read as the lines that it shows. -/
theorem Shows.lines_eq {shown : List (List Char)} {text : List Char} (shows : Shows shown text)
    (kept : ∀ line ∈ shown, IsLine line) : lines text = shown := by
  induction shows with
  | last isRow => exact isRow.lines_eq kept
  | @more here later row lineBreak text isRow ends _ ih =>
      have keptHere : ∀ line ∈ here, IsLine line :=
        fun line inside => kept line (List.mem_append_left later inside)
      have keptLater := ih fun line inside => kept line (List.mem_append_right here inside)
      simp only [lineBreaks, List.mem_cons, List.not_mem_nil, or_false] at ends
      rcases ends with rfl | rfl
      · rw [List.append_assoc, List.singleton_append, lines_append, isRow.lines_eq keptHere,
          keptLater]
      · have shape : row ++ ['\r', '\n'] ++ text = (row ++ ['\r']) ++ '\n' :: text := by simp
        rw [shape, lines_append, isRow.returned.lines_eq keptHere, keptLater]

/-! ## The layout of a text -/

theorem isLine_of_mem_lines {text line : List Char} (inside : line ∈ lines text) : IsLine line := by
  have unbroken := not_mem_of_mem_lines inside
  obtain ⟨trimmed, filled⟩ := List.mem_filter.mp inside
  obtain ⟨piece, -, rfl⟩ := List.mem_map.mp trimmed
  exact ⟨by simpa using filled, unbroken, trim_trimmed piece⟩

theorem row_lines {row : List Char} (unbroken : '\n' ∉ row) : Row (lines row) row := by
  have one := lines_of_unbroken unbroken
  obtain ⟨before, line, after, rfl, white, trimmed, white'⟩ := exists_margins row
  simp only [List.mem_append, not_or] at unbroken
  have front : IsMargin before := isMargin_of_blank white unbroken.1.1
  have back : IsMargin after := isMargin_of_blank white' unbroken.2
  rw [one, trim_margins white trimmed white']
  by_cases nothing : line = []
  · rw [if_pos nothing, nothing, List.append_nil]
    exact .blank (front.append back)
  · rw [if_neg nothing]
    exact .line front back

/-- Every text shows the lines that it is read as. -/
theorem shows_lines (text : List Char) : Shows (lines text) text := by
  induction length : text.length using Nat.strong_induction_on generalizing text with
  | _ n ih =>
      by_cases broken : '\n' ∈ text
      · obtain ⟨row, rest, rfl, unbroken⟩ := List.eq_append_cons_of_mem broken
        have shorter : rest.length < n := by
          rw [← length, List.length_append, List.length_cons]
          omega
        have first : ['\n'] ∈ lineBreaks := List.mem_cons_self
        have whole := Shows.more (row_lines unbroken) first (ih rest.length shorter rest rfl)
        rwa [List.append_assoc, List.singleton_append, ← lines_append] at whole
      · exact .last (row_lines broken)

/-- Lines joined by line breaks are shown. -/
theorem shows_intercalate {lineBreak : List Char} (ends : lineBreak ∈ lineBreaks)
    (shown : List (List Char)) : Shows shown (lineBreak.intercalate shown) := by
  have none : IsMargin [] := by
    intro c inside
    cases inside
  have bare : ∀ line : List Char, Row [line] line := by
    intro line
    have row : Row [line] ([] ++ line ++ []) := .line none none
    rwa [List.nil_append, List.append_nil] at row
  induction shown with
  | nil => exact .last (.blank none)
  | cons line later ih =>
      cases later with
      | nil =>
          rw [List.intercalate_singleton]
          exact .last (bare line)
      | cons next later =>
          rw [List.intercalate_cons_cons]
          exact .more (bare line) ends ih

/-! ## Patterns -/

theorem lines_eq_of_parse_eq {text other : String} (same : parse other = parse text) :
    lines other.toList = lines text.toList := by
  have texts := congrArg (fun pattern => pattern.rounds.map Round.text) same
  simp only [parse_texts] at texts
  have chars := congrArg (List.map String.toList) texts
  simpa using chars

theorem parse_congr {text other : String} (same : lines other.toList = lines text.toList) :
    parse other = parse text := by
  rw [parse, parse, read, read, same]

/-- **The lines of a pattern are a canonical form of its text.**  Each is not empty, holds no line
break and neither starts nor ends with white space; and a text is read as the same pattern exactly
when it shows these lines in some layout.  In particular they are read as the same pattern when
they are joined by line breaks of one kind or the other. -/
theorem parse_canonical (text : String) :
    let kept := (parse text).rounds.map Round.text
    (∀ line ∈ kept, line ≠ "" ∧ '\n' ∉ line.toList ∧
      (∀ c ∈ line.toList.head?, isBlank c = false) ∧
      ∀ c ∈ line.toList.getLast?, isBlank c = false) ∧
    (∀ other : String, parse other = parse text ↔ Shows (kept.map String.toList) other.toList) ∧
    parse ("\n".intercalate kept) = parse text ∧ parse ("\r\n".intercalate kept) = parse text := by
  intro kept
  have shown : kept.map String.toList = lines text.toList := by
    simp [kept, parse_texts]
  have sameLines : ∀ other : String,
      parse other = parse text ↔ Shows (kept.map String.toList) other.toList := by
    intro other
    rw [shown]
    constructor
    · intro same
      rw [← lines_eq_of_parse_eq same]
      exact shows_lines other.toList
    · intro shows
      exact parse_congr (shows.lines_eq fun line inside => isLine_of_mem_lines inside)
  refine ⟨?_, sameLines, ?_, ?_⟩
  · intro line inside
    have isLine : IsLine line.toList := by
      have read : line.toList ∈ lines text.toList := shown ▸ List.mem_map_of_mem inside
      exact isLine_of_mem_lines read
    refine ⟨?_, isLine.unbroken, isLine.trimmed.front, ?_⟩
    · intro nothing
      exact isLine.filled (by rw [nothing]; rfl)
    · have back := isLine.trimmed.back
      rwa [Stops, List.head?_reverse] at back
  · rw [sameLines, String.toList_intercalate]
    exact shows_intercalate (by decide) _
  · rw [sameLines, String.toList_intercalate]
    exact shows_intercalate (by decide) _

/-- Both kinds of line breaks, a carriage return and a line separator inside lines and beside them,
and rows of white space alone. -/
example : parse "\t6 sc\r in MR \r\n\u2028\n\r\n [sc,\u2028inc] x6\u00a0\n" =
    parse "6 sc\r in MR\n[sc,\u2028inc] x6" := by decide +kernel

end Crochet.Pattern
