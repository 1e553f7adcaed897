/-
# Crochet.Proofs.Drawing.Svg -- the lines of a document

A document has one line per element: it opens, fills the background if there is
one, draws one element for each item of `items` in their order, and closes.
Items are the groups of yarn and the stitches; the groups between rings come
before all others, so they lie under them.  A group of yarns is one path with a
run of its own for each yarn, and a stitch is one path around its circle.
-/
import Crochet.Drawing.Svg
import Crochet.Proofs.Basic
import Crochet.Proofs.Decimal
import Crochet.Proofs.Drawing.Sheet
import Crochet.Proofs.Text.Lines
import Mathlib.Algebra.BigOperators.Group.List.Basic
import Mathlib.Data.List.Forall2

set_option autoImplicit false

namespace Crochet

open Decimal (Numeral isNumeral)

/-! ## Path data -/

namespace Segment

theorem numeral_pair {c : Char} {p : Point Float} (inside : c ∈ pair p) :
    isNumeral c = true ∨ c = ',' := by
  rcases List.mem_append.mp inside with x | rest
  · exact .inl (Decimal.numeral_shortestChars p.x c x)
  · rcases List.mem_cons.mp rest with rfl | y
    · exact .inr rfl
    · exact .inl (Decimal.numeral_shortestChars p.y c y)

/-- A segment is written with decimals, commas and blanks. -/
theorem mem_chars {c : Char} {segment : Segment} (inside : c ∈ segment.chars) :
    isNumeral c = true ∨ c = ',' ∨ c = ' ' := by
  have ofPair : ∀ {p : Point Float}, c ∈ pair p → isNumeral c = true ∨ c = ',' ∨ c = ' ' :=
    fun inside => (numeral_pair inside).imp_right .inl
  cases segment with
  | move p =>
      rcases List.mem_cons.mp inside with rfl | rest
      · exact .inl rfl
      · exact ofPair rest
  | line p =>
      rcases List.mem_cons.mp inside with rfl | rest
      · exact .inl rfl
      · exact ofPair rest
  | curve p q r =>
      simp only [chars, List.cons_append, List.append_assoc, List.mem_cons,
        List.mem_append] at inside
      rcases inside with rfl | first | rfl | second | rfl | third
      · exact .inl rfl
      · exact ofPair first
      · exact .inr (.inr rfl)
      · exact ofPair second
      · exact .inr (.inr rfl)
      · exact ofPair third
  | close =>
      obtain rfl : c = 'Z' := by simpa [chars] using inside
      exact .inl rfl

end Segment

namespace Outline

theorem mem_chars {c : Char} {outline : List Segment} (inside : c ∈ chars outline) :
    isNumeral c = true ∨ c = ',' ∨ c = ' ' := by
  rcases mem_intercalate inside with blank | ⟨part, isPart, found⟩
  · exact .inr (.inr (List.mem_singleton.mp blank))
  · obtain ⟨segment, -, rfl⟩ := List.mem_map.mp isPart
    exact Segment.mem_chars found

/-- A move, and lines behind it. -/
def steps : List (Point Float) → List (List Char)
  | [] => []
  | p :: rest => ('M' :: Segment.pair p) :: rest.map fun q => 'L' :: Segment.pair q

theorem chars_ofRun (run : List (Point Float)) : (ofRun run).map Segment.chars = steps run := by
  cases run with
  | nil => rfl
  | cons p rest => simp [ofRun, steps, Segment.chars]

theorem blank_not_mem_steps {run : List (Point Float)} {step : List Char}
    (isStep : step ∈ steps run) : ' ' ∉ step := by
  have ofPair : ∀ p : Point Float, ' ' ∉ Segment.pair p := by
    intro p inside
    rcases Segment.numeral_pair inside with numeral | comma
    · revert numeral
      decide
    · revert comma
      decide
  cases run with
  | nil => cases isStep
  | cons p rest =>
      rcases List.mem_cons.mp isStep with rfl | later
      · simpa using ofPair p
      · obtain ⟨q, -, rfl⟩ := List.mem_map.mp later
        simpa using ofPair q

/-- The data of some runs is cut at its blanks into the steps of these runs. -/
theorem pieces_chars {runs : List (List (Point Float))} (some : runs.flatMap steps ≠ []) :
    Text.pieces ' ' (chars (runs.flatMap ofRun)) = runs.flatMap steps := by
  have written : (runs.flatMap ofRun).map Segment.chars = runs.flatMap steps := by
    rw [List.map_flatMap]
    exact List.flatMap_congr fun run _ => chars_ofRun run
  rw [chars, written]
  refine Text.pieces_intercalate some fun step isStep => ?_
  obtain ⟨run, -, inside⟩ := List.mem_flatMap.mp isStep
  exact blank_not_mem_steps inside

/-- Point `i` of `n` at equal steps around a circle, counted from the rightmost one, which is the
last one too. -/
def rim (center : Point Float) (radius : Float) (n i : Nat) : Point Float :=
  let turn := 2 * halfTurn / Float.ofNat n * Float.ofNat i
  if i = n then ⟨center.x + radius * 1, center.y + radius * 0⟩
  else ⟨center.x + radius * turn.cos, center.y + radius * turn.sin⟩

/-- The data is one closed outline around a circle: a move to its rightmost point, curves from there
to one point of the rim after the other, and a close.  Of a small circle there are four curves. -/
def Encircles (center : Point Float) (radius : Float) (data : List Char) : Prop :=
  ∃ curves : List (Point Float × Point Float × Point Float),
    data = 'M' :: Segment.pair ⟨center.x + radius, center.y⟩ ++
      (curves.flatMap fun curve => ' ' :: 'C' :: Segment.pair curve.1 ++
        ' ' :: Segment.pair curve.2.1 ++ ' ' :: Segment.pair curve.2.2) ++ [' ', 'Z'] ∧
    curves.map (fun curve => curve.2.2) =
      (List.range curves.length).map (fun i => rim center radius curves.length (i + 1)) ∧
    (radius.abs / 0.1 < 1 / 1.9608e-4 → curves.length = 4)

theorem arc_ends (center : Point Float) (radius arm : Float) (n i : Nat) :
    ∃ p q, arc center radius arm n i = .curve p q (rim center radius n i) := by
  by_cases last : i = n
  · simp only [arc, rim, if_pos last]
    exact ⟨_, _, rfl⟩
  · simp only [arc, rim, if_neg last]
    exact ⟨_, _, rfl⟩

/-- The outline of a dot goes once around its circle. -/
theorem circle_encircles (center : Point Float) (radius : Float) :
    Encircles center radius (chars (circle center radius)) := by
  have four : radius.abs / 0.1 < 1 / 1.9608e-4 → (curves radius).1 = 4 := fun small =>
    congrArg Prod.fst (if_pos small)
  rw [circle]
  generalize curves radius = chosen at four
  obtain ⟨n, arm⟩ := chosen
  choose p q isCurve using arc_ends center radius arm n
  refine ⟨(List.range n).map fun i => (p (i + 1), q (i + 1), rim center radius n (i + 1)),
    ?_, ?_, ?_⟩
  · simp [chars, Segment.chars, intercalate_cons, isCurve, List.flatMap_map]
  · simp
  · simpa using four

end Outline

namespace Svg

/-! ## Lines -/

/-- The text neither starts an element nor ends a line. -/
def Quiet (text : String) : Prop := '<' ∉ text.toList ∧ '\n' ∉ text.toList

instance (text : String) : Decidable (Quiet text) := inferInstanceAs (Decidable (_ ∧ _))

/-- The line is one element. -/
def IsElement (line : String) : Prop :=
  ∃ body, line.toList = '<' :: body ∧ '<' ∉ body ∧ '\n' ∉ body

theorem Quiet.append {front back : String} (first : Quiet front) (second : Quiet back) :
    Quiet (front ++ back) := by
  simp only [Quiet, String.toList_append, List.mem_append, not_or]
  exact ⟨⟨first.1, second.1⟩, first.2, second.2⟩

theorem IsElement.append {front back : String} (element : IsElement front) (quiet : Quiet back) :
    IsElement (front ++ back) := by
  obtain ⟨body, shape, marks, feeds⟩ := element
  refine ⟨body ++ back.toList, by rw [String.toList_append, shape, List.cons_append], ?_, ?_⟩
  · simp [marks, quiet.1]
  · simp [feeds, quiet.2]

theorem quiet_numeral {cs : List Char} (numeral : Numeral cs) : Quiet (String.ofList cs) := by
  rw [Quiet, String.toList_ofList]
  exact ⟨numeral.not_mem rfl, numeral.not_mem rfl⟩

theorem quiet_attr {name value : String} (first : Quiet name) (second : Quiet value) :
    Quiet (attr name value) :=
  (((Quiet.append (by decide) first).append (by decide)).append
    second).append (by decide)

theorem quiet_length (x : Float) : Quiet (length x) :=
  quiet_numeral (Decimal.numeral_fixedChars 2 x).compact

theorem quiet_css (color : Color) : Quiet color.css := by
  have digit : ∀ n < 16, Nat.digitChar n ≠ '<' ∧ Nat.digitChar n ≠ '\n' := by decide
  have channel : ∀ x : UInt8, '<' ∉ Color.channel x ∧ '\n' ∉ Color.channel x := by
    intro x
    have small : x.toNat < 256 := x.toNat_lt
    have high := digit (x.toNat / 16) (by omega)
    have low := digit (x.toNat % 16) (by omega)
    simp [Color.channel, high.1.symm, high.2.symm, low.1.symm, low.2.symm]
  simp [Quiet, Color.css, channel]

theorem quiet_outline (segments : List Segment) : Quiet (outline segments) := by
  refine quiet_attr (by decide) ?_
  rw [Quiet, String.toList_ofList]
  constructor
  · intro inside
    rcases Outline.mem_chars inside with numeral | comma | blank <;> simp_all [isNumeral]
  · intro inside
    rcases Outline.mem_chars inside with numeral | comma | blank <;> simp_all [isNumeral]

theorem header_element (width height : Float) : IsElement (header width height) := by
  have start : IsElement "<svg" := ⟨"svg".toList, rfl, by decide, by decide⟩
  have size : ∀ x name, Quiet name → Quiet (attr name (length x)) :=
    fun x name quiet => quiet_attr quiet (quiet_length x)
  refine ((((start.append ?_).append ?_).append ?_).append ?_).append ?_
  · decide
  · exact size width _ (by decide)
  · exact size height _ (by decide)
  · refine quiet_attr (by decide) ?_
    exact (((Quiet.append (by decide) (quiet_length width)).append
      (by decide)).append (quiet_length height))
  · decide

theorem backdrop_element (color : Color) : IsElement (backdrop color) := by
  have start : IsElement "<rect" := ⟨"rect".toList, rfl, by decide, by decide⟩
  refine (((start.append ?_).append ?_).append ?_).append ?_
  · decide
  · decide
  · exact quiet_attr (by decide) (quiet_css color)
  · decide

theorem footer_element : IsElement footer := ⟨"/svg>".toList, rfl, by decide, by decide⟩

theorem mark_element (dotRadius : Float) (m : Mark Float) : IsElement (mark dotRadius m) := by
  have start : IsElement "<path" := ⟨"path".toList, rfl, by decide, by decide⟩
  cases m with
  | yarns strand runs width =>
      have opacity : Quiet strand.opacity := by
        cases strand <;> decide
      refine ((((((start.append (quiet_outline _)).append ?_).append ?_).append ?_).append
        ?_).append ?_).append ?_
      · decide
      · exact quiet_attr (by decide) (quiet_css _)
      · exact quiet_attr (by decide) (quiet_length width)
      · exact quiet_attr (by decide) opacity
      · decide
      · decide
  | dot center color =>
      refine ((start.append (quiet_outline _)).append ?_).append ?_
      · exact quiet_attr (by decide) (quiet_css color)
      · decide

theorem mark_isPath (dotRadius : Float) (m : Mark Float) :
    "<path".toList.isPrefixOf (mark dotRadius m).toList = true := by
  rw [List.isPrefixOf_iff_prefix]
  cases m with
  | yarns strand runs width =>
      simp only [mark, String.toList_append, List.append_assoc]
      exact List.prefix_append _ _
  | dot center color =>
      simp only [mark, String.toList_append, List.append_assoc]
      exact List.prefix_append _ _

/-! ## What is drawn -/

/-- Something that is drawn as one element. -/
inductive Item where
  | group (strand : Strand) (yarns : Array (Yarn Float))
  | stitch (anchor : Anchor Float)

/-- The item is a group of yarns between two rings. -/
def Item.IsLinks : Item → Prop
  | .group .links _ => True
  | _ => False

/-- The group of some yarns, if there are any. -/
def groups (strand : Strand) (yarns : Array (Yarn Float)) : List Item :=
  if yarns.isEmpty then [] else [.group strand yarns]

/-- What is drawn of some rings, the lowest first: the yarns between rings, and then for each ring
the yarns inside it and its stitches. -/
def items (rings : List (Ring Float)) : List Item :=
  (rings.flatMap fun ring => groups .links ring.links) ++
    rings.flatMap fun ring => groups .band ring.band ++ ring.anchors.toList.map Item.stitch

/-- The steps of a yarn: a move to its first sample, and a line to each of the other twelve. -/
def Traces (place : Vec3 Float → Point Float) (yarn : Yarn Float) (steps : List (List Char)) :
    Prop :=
  ∃ first rest, first :: rest = (yarn.sample 12).map place ∧ rest.length = 12 ∧
    steps = ('M' :: Segment.pair first) :: rest.map fun p => 'L' :: Segment.pair p

/-- The line draws the item: a group as one stroked path in which every yarn has its own steps,
a stitch as one filled path, the outline of a circle, once around its place. -/
inductive Draws (place : Vec3 Float → Point Float) (dotRadius : Float) : Item → String → Prop where
  | group {strand : Strand} {yarns : Array (Yarn Float)} {data width : String}
      {traces : List (List (List Char))} (drawn : List.Forall₂ (Traces place) yarns.toList traces)
      (written : Text.pieces ' ' data.toList = traces.flatten) :
      Draws place dotRadius (.group strand yarns)
        ("<path d=\"" ++ data ++ "\" fill=\"none\" stroke=\"" ++ strand.color.css ++
          "\" stroke-width=\"" ++ width ++ "\" stroke-opacity=\"" ++ strand.opacity ++
          "\" stroke-linecap=\"round\"/>")
  | stitch {anchor : Anchor Float} {data : String} (color : Color)
      (written : data.toList = Outline.chars (Outline.circle (place anchor.position) dotRadius))
      (around : Outline.Encircles (place anchor.position) dotRadius data.toList) :
      Draws place dotRadius (.stitch anchor)
        ("<path d=\"" ++ data ++ "\" fill=\"" ++ color.css ++ "\"/>")

variable (view : View) (frame : Sheet.Frame Float) (dotRadius : Float)

/-- Where a point of a ring is drawn. -/
def placed (v : Vec3 Float) : Point Float := frame.place.apply (view.project v)

theorem traces_sample (yarn : Yarn Float) :
    Traces (placed view frame) yarn
      (Outline.steps (((yarn.sample 12).map view.project).map frame.place.apply)) := by
  have count : ((yarn.sample 12).map (placed view frame)).length = 13 := by
    simp [Yarn.sample]
  have same : ((yarn.sample 12).map view.project).map frame.place.apply =
      (yarn.sample 12).map (placed view frame) := List.map_map
  rw [same]
  obtain ⟨first, rest, shape⟩ := List.exists_cons_of_length_eq_add_one count
  rw [shape] at count ⊢
  exact ⟨first, rest, shape.symm, Nat.succ.inj count, rfl⟩

theorem stroke_text (data color width opacity : String) :
    "<path" ++ attr "d" data ++ attr "fill" "none" ++ attr "stroke" color ++
        attr "stroke-width" width ++ attr "stroke-opacity" opacity ++
        attr "stroke-linecap" "round" ++ "/>" =
      "<path d=\"" ++ data ++ "\" fill=\"none\" stroke=\"" ++ color ++ "\" stroke-width=\"" ++
        width ++ "\" stroke-opacity=\"" ++ opacity ++ "\" stroke-linecap=\"round\"/>" := by
  simp [← String.toList_inj, attr]

theorem fill_text (data color : String) :
    "<path" ++ attr "d" data ++ attr "fill" color ++ "/>" =
      "<path d=\"" ++ data ++ "\" fill=\"" ++ color ++ "\"/>" := by
  simp [← String.toList_inj, attr]

/-- The data of a group is cut into the steps of its yarns. -/
theorem group_draws (strand : Strand) {yarns : Array (Yarn Float)} (some : yarns ≠ #[])
    (width : Float) :
    Draws (placed view frame) dotRadius (.group strand yarns)
      (mark dotRadius (.yarns strand
        ((Sheet.runs view yarns).map fun run => run.map frame.place.apply) width)) := by
  let traces := yarns.toList.map fun yarn =>
    Outline.steps (((yarn.sample 12).map view.project).map frame.place.apply)
  have drawn : List.Forall₂ (Traces (placed view frame)) yarns.toList traces :=
    List.forall₂_map_right_iff.mpr
      (List.forall₂_same.mpr fun yarn _ => traces_sample view frame yarn)
  have steps : ((Sheet.runs view yarns).map fun run => run.map frame.place.apply).flatMap
      Outline.steps = traces.flatten := by
    simp only [traces, Sheet.runs, Sheet.segments, List.map_map, List.flatMap_def]
    rfl
  have moves : traces.flatten ≠ [] := by
    obtain ⟨yarn, rest, shape⟩ := List.exists_cons_of_ne_nil
      (fun nothing => some (Array.toList_eq_nil_iff.mp nothing))
    obtain ⟨first, others, -, -, isTrace⟩ := traces_sample view frame yarn
    simp only [traces, shape, List.map_cons, List.flatten_cons, isTrace]
    exact List.cons_ne_nil _ _
  have written := Outline.pieces_chars (steps ▸ moves)
  rw [steps] at written
  rw [mark, outline, stroke_text]
  exact .group drawn (by rw [String.toList_ofList]; exact written)

theorem strandMarks_draws (strand : Strand) (yarns : Array (Yarn Float)) :
    List.Forall₂ (Draws (placed view frame) dotRadius) (groups strand yarns)
      ((Sheet.strandMarks view frame strand yarns).map (mark dotRadius)) := by
  rcases Sheet.strandMarks_cases view frame strand yarns with ⟨rfl, none⟩ | ⟨some, width, one⟩
  · rw [none]
    exact .nil
  · have any : groups strand yarns = [.group strand yarns] := by simp [groups, some]
    rw [one, any]
    exact .cons (group_draws view frame dotRadius strand some width) .nil

theorem dotMark_draws (anchor : Anchor Float) :
    Draws (placed view frame) dotRadius (.stitch anchor)
      (mark dotRadius (Sheet.dotMark view frame anchor)) := by
  rw [Sheet.dotMark, mark, outline, fill_text]
  refine .stitch _ String.toList_ofList ?_
  rw [String.toList_ofList]
  exact Outline.circle_encircles _ dotRadius

theorem ringMarks_draws (ring : Ring Float) :
    List.Forall₂ (Draws (placed view frame) dotRadius)
      (groups .band ring.band ++ ring.anchors.toList.map Item.stitch)
      ((Sheet.ringMarks view frame ring).map (mark dotRadius)) := by
  rw [Sheet.ringMarks, List.map_append, List.map_map]
  refine List.rel_append (strandMarks_draws view frame dotRadius .band ring.band) ?_
  rw [List.forall₂_map_left_iff, List.forall₂_map_right_iff, List.forall₂_same]
  exact fun anchor _ => dotMark_draws view frame dotRadius anchor

/-- The marks of a sheet draw the items, one by one. -/
theorem marks_draw (style : Style Float) (rings : List (Ring Float)) :
    List.Forall₂
      (Draws (placed style.view (Sheet.frame style (Sheet.box? style.view rings))) style.dotRadius)
      (items rings) ((Sheet.ofRings style rings).marks.map (mark style.dotRadius)) := by
  have same : List.Forall₂ Eq rings rings := List.forall₂_refl rings
  simp only [Sheet.ofRings, items, List.map_append, List.map_flatMap]
  refine List.rel_append (List.rel_flatMap same ?_) (List.rel_flatMap same ?_)
  · rintro ring _ rfl
    exact strandMarks_draws _ _ _ .links ring.links
  · rintro ring _ rfl
    exact ringMarks_draws _ _ _ ring

/-! ## Layers and numbers -/

theorem mem_groups {strand : Strand} {yarns : Array (Yarn Float)} {item : Item}
    (inside : item ∈ groups strand yarns) : item = .group strand yarns := by
  unfold groups at inside
  split at inside
  · cases inside
  · exact List.mem_singleton.mp inside

/-- The yarns between rings are drawn first, under everything else. -/
theorem items_layered (rings : List (Ring Float)) :
    (items rings).Pairwise fun lower upper => lower.IsLinks ∨ ¬ upper.IsLinks := by
  rw [items, List.pairwise_append]
  have below : ∀ item ∈ rings.flatMap fun ring => groups .links ring.links, item.IsLinks := by
    intro item inside
    obtain ⟨ring, -, isGroup⟩ := List.mem_flatMap.mp inside
    rw [mem_groups isGroup]
    trivial
  have above : ∀ item ∈ rings.flatMap fun ring =>
      groups .band ring.band ++ ring.anchors.toList.map Item.stitch, ¬ item.IsLinks := by
    intro item inside isLinks
    obtain ⟨ring, -, isItem⟩ := List.mem_flatMap.mp inside
    rcases List.mem_append.mp isItem with isGroup | isStitch
    · rw [mem_groups isGroup] at isLinks
      exact isLinks
    · obtain ⟨anchor, -, rfl⟩ := List.mem_map.mp isStitch
      exact isLinks
  refine ⟨?_, ?_, ?_⟩
  · exact List.pairwise_of_forall_mem_list fun lower isLower _ _ => .inl (below lower isLower)
  · exact List.pairwise_of_forall_mem_list fun _ _ upper isUpper => .inr (above upper isUpper)
  · exact fun lower isLower _ _ => .inl (below lower isLower)

theorem groups_length (strand : Strand) (yarns : Array (Yarn Float)) :
    (groups strand yarns).length = if yarns.isEmpty then 0 else 1 := by
  unfold groups
  split <;> rfl

/-- As many groups are drawn as there are rings with yarns of that kind. -/
theorem sum_groups_length (strand : Strand) (yarns : Ring Float → Array (Yarn Float))
    (rings : List (Ring Float)) :
    (rings.map fun ring => (groups strand (yarns ring)).length).sum =
      rings.countP fun ring => !(yarns ring).isEmpty := by
  induction rings with
  | nil => rfl
  | cons ring rings ih =>
      rw [List.map_cons, List.sum_cons, ih, List.countP_cons, groups_length, Nat.add_comm]
      cases (yarns ring).isEmpty <;> rfl

/-- There is an item for every stitch, and one for every ring that has yarns of a kind. -/
theorem items_length (rings : List (Ring Float)) :
    (items rings).length = (rings.map Ring.width).sum +
      rings.countP (fun ring => !ring.links.isEmpty) +
      rings.countP (fun ring => !ring.band.isEmpty) := by
  have inRing : (rings.map fun ring => (groups .band ring.band ++
      ring.anchors.toList.map Item.stitch).length).sum =
        (rings.map fun ring => (groups .band ring.band).length).sum +
          (rings.map Ring.width).sum := by
    rw [← List.sum_map_add]
    simp [Ring.width]
  rw [items, List.length_append, List.length_flatMap, List.length_flatMap, inRing,
    sum_groups_length, sum_groups_length]
  omega

/-! ## The document -/

theorem toList_ofRings (style : Style Float) (rings : List (Ring Float)) :
    (ofRings style rings).toList =
      Text.ofLines ((lines (Sheet.ofRings style rings)).map String.toList) := by
  rw [ofRings, text, String.toList_join, Text.ofLines, List.flatMap_map, List.flatMap_map]
  exact List.flatMap_congr fun line _ => String.toList_append

theorem lines_element (sheet : Sheet Float) {line : String} (inside : line ∈ lines sheet) :
    IsElement line := by
  simp only [lines, List.cons_append, List.mem_cons, List.mem_append, List.mem_map,
    Option.mem_toList, Option.map_eq_some_iff, List.not_mem_nil, or_false] at inside
  rcases inside with rfl | (⟨color, -, rfl⟩ | ⟨m, -, rfl⟩) | rfl
  · exact header_element _ _
  · exact backdrop_element color
  · exact mark_element _ m
  · exact footer_element

/-- One path is drawn for each mark. -/
theorem countP_lines (sheet : Sheet Float) :
    ((lines sheet).map String.toList).countP "<path".toList.isPrefixOf = sheet.marks.length := by
  have opening : "<path".toList.isPrefixOf (header sheet.width sheet.height).toList = false := by
    simp only [header, String.toList_append, List.append_assoc]
    rfl
  have fill : ∀ color, "<path".toList.isPrefixOf (backdrop color).toList = false := by
    intro color
    simp only [backdrop, String.toList_append, List.append_assoc]
    rfl
  have closing : "<path".toList.isPrefixOf footer.toList = false := rfl
  have marks : sheet.marks.countP
      (fun m => "<path".toList.isPrefixOf (mark sheet.dotRadius m).toList) = sheet.marks.length :=
    List.countP_eq_length.mpr fun m _ => mark_isPath sheet.dotRadius m
  have ground : (sheet.background.map backdrop).toList.countP
      (fun line => "<path".toList.isPrefixOf line.toList) = 0 := by
    rw [List.countP_eq_zero]
    intro line inside
    obtain ⟨color, -, rfl⟩ := Option.map_eq_some_iff.mp (Option.mem_toList.mp inside)
    exact ne_true_of_eq_false (fill color)
  simp only [lines, List.countP_map, List.cons_append, List.countP_cons, List.countP_append,
    List.countP_nil, Function.comp_def, opening, closing, ground, marks]
  simp

/-- **A document draws every stitch and every yarn once, in layers.**  It opens, fills the
background if there is one, draws the items of `items` one per line in their order, and closes;
a yarn between rings lies under everything that is not one.  So there are as many paths as there
are stitches, rings with yarns below them and rings with yarns inside. -/
theorem ofRings_layers (style : Style Float) (rings : List (Ring Float)) :
    let document := (ofRings style rings).toList
    let place := placed style.view (Sheet.frame style (Sheet.box? style.view rings))
    ∃ (opening : String) (painted : List String),
      Text.pieces '\n' document =
        (opening :: (style.background.map fun color =>
            "<rect width=\"100%\" height=\"100%\" fill=\"" ++ color.css ++ "\"/>").toList ++
          painted ++ ["</svg>"]).map String.toList ++ [[]] ∧
      "<svg".toList <+: opening.toList ∧
      List.Forall₂ (Draws place style.dotRadius) (items rings) painted ∧
      ((items rings).Pairwise fun lower upper => lower.IsLinks ∨ ¬ upper.IsLinks) ∧
      Text.timesIn "<path".toList document = (rings.map Ring.width).sum +
        rings.countP (fun ring => !ring.links.isEmpty) +
        rings.countP (fun ring => !ring.band.isEmpty) := by
  intro document place
  let sheet := Sheet.ofRings style rings
  have isDocument : document = Text.ofLines ((lines sheet).map String.toList) :=
    toList_ofRings style rings
  have element : ∀ line ∈ (lines sheet).map String.toList,
      ∃ body, line = '<' :: body ∧ '<' ∉ body ∧ '\n' ∉ body := by
    intro line inside
    obtain ⟨text, isLine, rfl⟩ := List.mem_map.mp inside
    exact lines_element sheet isLine
  have drawn := marks_draw style rings
  refine ⟨header sheet.width sheet.height, sheet.marks.map (mark style.dotRadius), ?_, ?_, drawn,
    items_layered rings, ?_⟩
  · rw [isDocument, Text.pieces_ofLines]
    · have filled : backdrop = fun color =>
          "<rect width=\"100%\" height=\"100%\" fill=\"" ++ color.css ++ "\"/>" := by
        funext color
        simp [← String.toList_inj, backdrop, attr]
      rw [← filled]
      rfl
    · intro line inside unbroken
      obtain ⟨body, rfl, -, feeds⟩ := element line inside
      exact feeds (by simpa using unbroken)
  · simp only [header, String.toList_append, List.append_assoc]
    exact List.prefix_append _ _
  · have count := drawn.length_eq
    rw [List.length_map, items_length] at count
    rw [count, ← countP_lines, isDocument]
    exact Text.timesIn_ofLines '<' "path".toList (by decide) fun line inside =>
      (element line inside).imp fun body shape => ⟨shape.1, shape.2.1⟩

end Svg

end Crochet
