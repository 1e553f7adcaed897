/-
# Crochet.Proofs.Ring -- how the yarns of a ring run

Every yarn of a ring joins two anchors.  A ring that is `Closed` has a band
around all of its anchors, and one that `HangsFrom` another has a link to each
of its anchors; both say between which anchors a yarn runs by its position
alone.  `build` closes a ring and `linksTo` hangs it.
-/
import Crochet.Settings
import Mathlib.Tactic.Common

set_option autoImplicit false

namespace Crochet

/-- The yarn runs from one anchor to the other. -/
structure Yarn.Joins {α : Type} (yarn : Yarn α) (a b : Anchor α) : Prop where
  start_eq : yarn.start = a.position
  stop_eq : yarn.stop = b.position

namespace Ring

/-- The number of stitches of a count under a cap. -/
theorem laidOut_eq (layout : Layout) (count : Count) :
    laidOut layout count =
      match layout.maxStitches with
      | some limit => min count.toNat limit.toNat
      | none => count.toNat := by
  unfold laidOut
  cases layout.maxStitches with
  | none => rfl
  | some limit =>
      show (if count ≤ limit then count else limit).toNat = min count.toNat limit.toNat
      split
      · rename_i le
        exact (Nat.min_eq_left (UInt32.le_iff_toNat_le.mp le)).symm
      · rename_i gt
        have : ¬ count.toNat ≤ limit.toNat := fun le => gt (UInt32.le_iff_toNat_le.mpr le)
        exact (Nat.min_eq_right (Nat.le_of_not_le this)).symm

variable {α : Type}

/-- The band runs from every anchor to the next one and from the last to the first; a ring of one
stitch has none. -/
structure Closed (ring : Ring α) : Prop where
  size_eq : ring.band.size = if 2 ≤ ring.width then ring.width else 0
  joins : ∀ i yarn, ring.band[i]? = some yarn →
    ∃ a b, ring.anchors[i]? = some a ∧ ring.anchors[(i + 1) % ring.width]? = some b ∧
      yarn.Joins a b

/-- A link runs to every anchor, from the anchors below in turn; without these there are none. -/
structure HangsFrom (above below : Ring α) : Prop where
  size_eq : above.links.size = if 0 < below.width then above.width else 0
  joins : ∀ i yarn, above.links[i]? = some yarn →
    ∃ a b, below.anchors[i % below.width]? = some a ∧ above.anchors[i]? = some b ∧
      yarn.Joins a b

/-! ## Building -/

section

variable (count : Count) (radius height : Float) (layout : Layout)

@[simp] theorem build_links : (build count radius height layout).links = #[] := rfl

@[simp] theorem build_width : (build count radius height layout).width = laidOut layout count := by
  simp [width, build]

theorem build_anchor {i : Nat} (inside : i < laidOut layout count) :
    (build count radius height layout).anchors[i]? =
      some ⟨place (laidOut layout count) radius height i, Stitch.ofKind layout.kind⟩ := by
  simp [build, inside]

theorem build_closed : (build count radius height layout).Closed := by
  constructor
  · rw [build_width]
    simp only [build]
    split
    · rename_i few
      rw [if_neg (by omega)]
      rfl
    · rename_i many
      rw [if_pos (by omega), Array.size_map, Array.size_range]
  · intro i yarn found
    simp only [build] at found
    split at found
    · simp at found
    · rename_i many
      rw [Array.getElem?_map, Option.map_eq_some_iff] at found
      obtain ⟨j, isJ, rfl⟩ := found
      obtain ⟨inside, rfl⟩ : i < laidOut layout count ∧ i = j := by
        simpa [Array.getElem?_eq_some_iff] using isJ
      rw [build_width]
      exact ⟨_, _, build_anchor count radius height layout inside,
        build_anchor count radius height layout (Nat.mod_lt _ (by omega)), rfl, rfl⟩

end

/-! ## Linking -/

variable [Scalar α]

theorem linksTo_hangs (below above : Ring α) (sag thickness : α) :
    HangsFrom { above with links := linksTo below above sag thickness } below := by
  constructor
  · simp only [linksTo]
    split
    · rename_i any
      have : 0 < below.width := any
      rw [if_pos this, Array.size_mapIdx]
      rfl
    · rename_i nothing
      have : ¬ 0 < below.width := nothing
      rw [if_neg this]
      rfl
  · intro i yarn found
    simp only [linksTo] at found
    split at found
    · rename_i any
      rw [Array.getElem?_mapIdx, Option.map_eq_some_iff] at found
      obtain ⟨anchor, held, rfl⟩ := found
      exact ⟨_, anchor, Array.getElem?_eq_getElem (Nat.mod_lt i any), held, rfl, rfl⟩
    · simp at found

end Ring

end Crochet
