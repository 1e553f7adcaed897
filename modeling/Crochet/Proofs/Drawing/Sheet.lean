/-
# Crochet.Proofs.Drawing.Sheet -- a drawing fits its sheet

Over exact numbers everything that is painted lies inside the margins.  The
frame is made for the box around all stitches and all samples of yarn, and what
is painted is these points again, in another order, moved and scaled by one
factor for both axes.  Unless all of them fall on one point the longer side of
the sheet has the size that is asked for.
-/
import Crochet.Drawing.Sheet
import Crochet.Proofs.Drawing.Plane
import Mathlib.Data.List.Basic

set_option autoImplicit false

namespace Crochet

/-- The points that a mark is painted through. -/
def Mark.points {α : Type} : Mark α → List (Point α)
  | .yarns _ runs _ => runs.flatten
  | .dot center _ => [center]

/-- The points of a ring that are drawn: its stitches, and twelve stretches of every yarn. -/
def Ring.drawn {α : Type} [Scalar α] (ring : Ring α) : List (Vec3 α) :=
  ring.anchors.toList.map Anchor.position ++
    (ring.band.toList ++ ring.links.toList).flatMap fun yarn => yarn.sample 12

namespace Sheet

/-! ## The frame -/

/-- The point lies inside the margins of a sheet of some extents. -/
def Inside (style : Style ℚ) (width height : ℚ) (p : Point ℚ) : Prop :=
  style.margin ≤ p.x ∧ p.x ≤ width - style.margin ∧
    style.margin ≤ p.y ∧ p.y ≤ height - style.margin

section Frame

variable (style : Style ℚ) (box : Box ℚ)

theorem scaleFor_pos : 0 < scaleFor style box := by
  unfold scaleFor
  split_ifs with extended
  · rw [Scalar.below_iff] at extended
    have room : 0 < Scalar.greater (style.size - 2 * style.margin) 1 := by
      rw [Scalar.greater_eq]
      exact lt_max_of_lt_right zero_lt_one
    exact div_pos room extended
  · exact zero_lt_one

/-- A point is moved from the corner of the box to that of the margins, and scaled. -/
theorem place_apply (p : Point ℚ) :
    (frame style (some box)).place.apply p =
      ⟨scaleFor style box * p.x + (style.margin - scaleFor style box * box.left),
        scaleFor style box * p.y + (style.margin - scaleFor style box * box.top)⟩ := by
  simp only [frame, Affine.after, Affine.shift, Affine.scaling, Affine.apply, Point.mk.injEq]
  constructor <;> ring

/-- What the box holds is placed inside the margins. -/
theorem place_inside {p : Point ℚ} (holds : box.Holds p) :
    Inside style (frame style (some box)).width (frame style (some box)).height
      ((frame style (some box)).place.apply p) := by
  have factor := (scaleFor_pos style box).le
  have left := mul_le_mul_of_nonneg_left holds.left_le factor
  have right := mul_le_mul_of_nonneg_left holds.le_right factor
  have top := mul_le_mul_of_nonneg_left holds.top_le factor
  have bottom := mul_le_mul_of_nonneg_left holds.le_bottom factor
  rw [place_apply]
  simp only [Inside, frame, Box.width, Box.height]
  refine ⟨?_, ?_, ?_, ?_⟩ <;> linarith

/-- A box with an extent is scaled to the space inside the margins. -/
theorem longer_side (extended : 0 < box.extent) :
    max (frame style (some box)).width (frame style (some box)).height =
      max (style.size - 2 * style.margin) 1 + 2 * style.margin := by
  have factor : scaleFor style box = max (style.size - 2 * style.margin) 1 / box.extent := by
    rw [scaleFor, if_pos ((Scalar.below_iff _ _).mpr extended), Scalar.greater_eq]
  have longer : max box.width box.height = box.extent := (Box.extent_eq box).symm
  show max (box.width * scaleFor style box + 2 * style.margin)
    (box.height * scaleFor style box + 2 * style.margin) = _
  rw [max_add_add_right, ← max_mul_of_nonneg _ _ (scaleFor_pos style box).le, longer, factor,
    mul_div_cancel₀ _ extended.ne']

end Frame

/-! ## The frame of some points -/

section Points

variable (style : Style ℚ) (points : List (Point ℚ))

/-- The frame that is made for some points. -/
def frameOf : Frame ℚ := frame style (Box.around points)

theorem exists_box {p : Point ℚ} (inside : p ∈ points) :
    ∃ box, frameOf style points = frame style (some box) ∧ ∀ q ∈ points, box.Holds q := by
  obtain ⟨box, isBox, -⟩ := Box.around_holds inside
  refine ⟨box, by rw [frameOf, isBox], fun q isQ => ?_⟩
  obtain ⟨same, isSame, holds⟩ := Box.around_holds isQ
  obtain rfl : box = same := Option.some.inj (isBox.symm.trans isSame)
  exact holds

/-- The points are moved and scaled by one factor. -/
theorem exists_scale :
    ∃ scale x y : ℚ, 0 < scale ∧ ∀ p ∈ points,
      (frameOf style points).place.apply p = ⟨scale * p.x + x, scale * p.y + y⟩ := by
  cases points with
  | nil => exact ⟨1, 0, 0, zero_lt_one, fun p inside => by cases inside⟩
  | cons p rest =>
      obtain ⟨box, isFrame, -⟩ := exists_box style (p :: rest) List.mem_cons_self
      rw [isFrame]
      exact ⟨_, _, _, scaleFor_pos style box, fun q _ => place_apply style box q⟩

theorem frameOf_inside {p : Point ℚ} (inside : p ∈ points) :
    Inside style (frameOf style points).width (frameOf style points).height
      ((frameOf style points).place.apply p) := by
  obtain ⟨box, isFrame, holds⟩ := exists_box style points inside
  rw [isFrame]
  exact place_inside style box (holds p inside)

theorem frameOf_longer {p q : Point ℚ} (isP : p ∈ points) (isQ : q ∈ points) (differ : p ≠ q) :
    max (frameOf style points).width (frameOf style points).height =
      max (style.size - 2 * style.margin) 1 + 2 * style.margin := by
  obtain ⟨box, isFrame, holds⟩ := exists_box style points isP
  rw [isFrame]
  exact longer_side style box (Box.extent_pos (holds p isP) (holds q isQ) differ)

end Points

/-! ## What is painted -/

variable {α : Type} [Scalar α] (view : View)

theorem runs_flatten (yarns : Array (Yarn α)) :
    (runs view yarns).flatten =
      (yarns.toList.flatMap fun yarn => yarn.sample 12).map view.project := by
  rw [runs, List.map_flatMap, List.flatMap_def]
  rfl

theorem pointsOf_eq (ring : Ring α) : pointsOf view ring = ring.drawn.map view.project := by
  rw [pointsOf, runs_flatten, runs_flatten, Ring.drawn, List.map_append, List.flatMap_append,
    List.map_append, List.map_map, List.append_assoc]
  rfl

/-- A group of yarns makes one mark, and none when it has no yarn. -/
theorem strandMarks_cases (frame : Frame α) (strand : Strand) (yarns : Array (Yarn α)) :
    (yarns = #[] ∧ strandMarks view frame strand yarns = []) ∨
      yarns ≠ #[] ∧ ∃ width, strandMarks view frame strand yarns =
        [.yarns strand ((runs view yarns).map fun run => run.map frame.place.apply) width] := by
  unfold strandMarks
  split
  · rename_i nothing
    exact .inl ⟨by simpa using nothing, rfl⟩
  · rename_i first isFirst
    refine .inr ⟨?_, _, rfl⟩
    rintro rfl
    simp at isFirst

/-- A group of yarns is painted through its samples, wherever they are placed. -/
theorem strandMarks_points (frame : Frame α) (strand : Strand) (yarns : Array (Yarn α)) :
    (strandMarks view frame strand yarns).flatMap Mark.points =
      (runs view yarns).flatten.map frame.place.apply := by
  rcases strandMarks_cases view frame strand yarns with ⟨rfl, none⟩ | ⟨-, width, one⟩
  · simp [none, runs]
  · simp [one, Mark.points, List.map_flatten]

theorem ringMarks_points (frame : Frame α) (ring : Ring α) :
    (ringMarks view frame ring).flatMap Mark.points =
      ((runs view ring.band).flatten ++
        ring.anchors.toList.map fun anchor => view.project anchor.position).map
          frame.place.apply := by
  rw [ringMarks, List.flatMap_append, strandMarks_points, List.map_append]
  congr 1
  rw [List.flatMap_map, List.map_map]
  exact List.map_eq_flatMap.symm

/-- The points that a sheet is painted through. -/
def points (sheet : Sheet α) : List (Point α) := sheet.marks.flatMap Mark.points

/-- What a view shows of the rings. -/
def seen (rings : List (Ring α)) : List (Point α) := (rings.flatMap Ring.drawn).map view.project

theorem flatMap_pointsOf (rings : List (Ring α)) :
    rings.flatMap (pointsOf view) = seen view rings := by
  rw [seen, List.map_flatMap]
  exact List.flatMap_congr fun ring _ => pointsOf_eq view ring

/-- What is painted is what the view shows, each point in its place. -/
theorem mem_points_ofRings (style : Style α) (rings : List (Ring α)) (q : Point α) :
    q ∈ (ofRings style rings).points ↔
      ∃ p ∈ seen style.view rings,
        (frame style (Box.around (seen style.view rings))).place.apply p = q := by
  rw [← flatMap_pointsOf]
  simp only [points, ofRings, box?, List.flatMap_append, List.flatMap_assoc, strandMarks_points,
    ringMarks_points, List.mem_append, List.mem_flatMap, List.mem_map, pointsOf]
  constructor
  · rintro (⟨ring, isRing, p, link, rfl⟩ | ⟨ring, isRing, p, band | stitch, rfl⟩)
    · exact ⟨p, ⟨ring, isRing, .inr link⟩, rfl⟩
    · exact ⟨p, ⟨ring, isRing, .inl (.inr band)⟩, rfl⟩
    · exact ⟨p, ⟨ring, isRing, .inl (.inl stitch)⟩, rfl⟩
  · rintro ⟨p, ⟨ring, isRing, (stitch | band) | link⟩, rfl⟩
    · exact .inr ⟨ring, isRing, p, .inr stitch, rfl⟩
    · exact .inr ⟨ring, isRing, p, .inl band, rfl⟩
    · exact .inl ⟨ring, isRing, p, link, rfl⟩

/-! ## The drawing as a whole -/

/-- **A drawing fits its sheet.**  Everything that is painted lies inside the margins: the points
of all rings, moved and scaled by one factor for both axes.  Unless they all fall on one point, the
longer side of the sheet is the space inside the margins, or one pixel if there is no space, and
the margins; so it has the size that is asked for when there is space for a pixel. -/
theorem ofRings_fits (style : Style ℚ) (rings : List (Ring ℚ)) :
    let sheet := ofRings style rings
    let seen := seen style.view rings
    (∀ p ∈ sheet.points, style.margin ≤ p.x ∧ p.x ≤ sheet.width - style.margin ∧
      style.margin ≤ p.y ∧ p.y ≤ sheet.height - style.margin) ∧
    (∃ scale x y : ℚ, 0 < scale ∧
      ∀ q, q ∈ sheet.points ↔ ∃ p ∈ seen, q = ⟨scale * p.x + x, scale * p.y + y⟩) ∧
    ((∃ p ∈ seen, ∃ q ∈ seen, p ≠ q) →
      max sheet.width sheet.height = max (style.size - 2 * style.margin) 1 + 2 * style.margin ∧
      (1 ≤ style.size - 2 * style.margin → max sheet.width sheet.height = style.size)) := by
  intro sheet seen
  have isFrame : frame style (box? style.view rings) = frameOf style seen := by
    rw [frameOf, box?, flatMap_pointsOf]
  have width : sheet.width = (frameOf style seen).width := congrArg Frame.width isFrame
  have height : sheet.height = (frameOf style seen).height := congrArg Frame.height isFrame
  have painted : ∀ q, q ∈ sheet.points ↔
      ∃ p ∈ seen, (frameOf style seen).place.apply p = q := mem_points_ofRings style rings
  refine ⟨fun q isPainted => ?_, ?_, ?_⟩
  · obtain ⟨p, inside, rfl⟩ := (painted q).mp isPainted
    rw [width, height]
    exact frameOf_inside style seen inside
  · obtain ⟨scale, x, y, pos, placed⟩ := exists_scale style seen
    refine ⟨scale, x, y, pos, fun q => (painted q).trans ?_⟩
    constructor
    · rintro ⟨p, inside, rfl⟩
      exact ⟨p, inside, placed p inside⟩
    · rintro ⟨p, inside, rfl⟩
      exact ⟨p, inside, placed p inside⟩
  · rintro ⟨p, isP, q, isQ, differ⟩
    rw [width, height, frameOf_longer style seen isP isQ differ]
    refine ⟨rfl, fun space => ?_⟩
    rw [max_eq_left space]
    ring

/-- Two stitches at one height, and a yarn between them that hangs down. -/
def garland : Ring ℚ where
  anchors := #[⟨⟨0, 0, 0⟩, ⟨.singleCrochet, []⟩⟩, ⟨⟨4, 0, 0⟩, ⟨.singleCrochet, []⟩⟩]
  band := #[Yarn.connect ⟨0, 0, 0⟩ ⟨4, 0, 0⟩ 1 (1 / 10)]
  links := #[]

/-- From the side only the yarn gives a height to the drawing. -/
theorem ofRings_fits_garland :
    let style : Style ℚ := ⟨.side, 100, 10, 3, none⟩
    let sheet := ofRings style [garland]
    let seen := seen style.view [garland]
    (∃ p ∈ seen, ∃ q ∈ seen, p ≠ q) ∧ 1 ≤ style.size - 2 * style.margin ∧
      max sheet.width sheet.height = 100 ∧ sheet.height = 40 ∧
      ⟨50, 30⟩ ∈ sheet.points ∧ (30 : ℚ) ≤ sheet.height - style.margin := by
  intro style sheet seen
  obtain ⟨inside, -, longer⟩ := ofRings_fits style [garland]
  have apart : ∃ p ∈ seen, ∃ q ∈ seen, p ≠ q :=
    ⟨⟨0, 0⟩, by decide +kernel, ⟨4, 0⟩, by decide +kernel⟩
  have space : 1 ≤ style.size - 2 * style.margin := by decide +kernel
  have lowest : ⟨50, 30⟩ ∈ sheet.points := by decide +kernel
  exact ⟨apart, space, (longer apart).2 space, by decide +kernel, lowest,
    (inside _ lowest).2.2.2⟩

end Sheet

end Crochet
