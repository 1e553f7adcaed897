/-
# Crochet.Proofs.Settings -- what settings are refused for

Six requirements are looked at in a fixed order, and the first one that is not
met is the reason to refuse settings.  Settings that meet them all are kept as
they are.
-/
import Crochet.Proofs.Float
import Crochet.Settings

set_option autoImplicit false

namespace Crochet.Settings

/-- What a document is refused for. -/
inductive Requirement where
  | layerHeight
  | radiusScale
  | thickness
  | crossSag
  | sag
  | maxStitches
deriving DecidableEq

def Positive (x : Float) : Prop := x.isFinite = true ∧ 0 < x

def Nonnegative (x : Float) : Prop := x.isFinite = true ∧ 0 ≤ x

instance (x : Float) : Decidable (Positive x) := inferInstanceAs (Decidable (_ ∧ _))

instance (x : Float) : Decidable (Nonnegative x) := inferInstanceAs (Decidable (_ ∧ _))

theorem isPositive_eq (x : Float) : isPositive x = decide (Positive x) := by
  rw [Bool.eq_iff_iff, decide_eq_true_iff]
  simp only [isPositive, Positive, Bool.and_eq_true, Bool.not_eq_true', decide_eq_false_iff_not]
  exact and_congr_right fun finite => Binary64.not_le_iff finite rfl

theorem isNonnegative_eq (x : Float) : isNonnegative x = decide (Nonnegative x) := by
  have not_lt_iff (finite : x.isFinite = true) : ¬ x < 0 ↔ 0 ≤ x := by
    rw [← Binary64.not_le_iff rfl finite, not_not]
  rw [Bool.eq_iff_iff, decide_eq_true_iff]
  simp only [isNonnegative, Nonnegative, Bool.and_eq_true, Bool.not_eq_true',
    decide_eq_false_iff_not]
  exact and_congr_right not_lt_iff

namespace Requirement

/-- Settings meet a requirement. -/
def Met (s : Settings) : Requirement → Prop
  | layerHeight => Positive s.layerHeight
  | radiusScale => Positive s.radiusScale
  | thickness => Positive s.layout.thickness
  | crossSag => Nonnegative s.crossSag
  | sag => Nonnegative s.layout.sag
  | maxStitches => s.layout.maxStitches ≠ some 0

def message : Requirement → String
  | layerHeight => "layer_height must be finite and > 0"
  | radiusScale => "radius_scale must be finite and > 0"
  | thickness => "yarn_thickness must be finite and > 0"
  | crossSag => "cross_sag must be finite and >= 0"
  | sag => "round_sag must be finite and >= 0"
  | maxStitches => "max_stitches must be > 0"

/-- All requirements, in the order in which they are looked at. -/
def all : List Requirement := [layerHeight, radiusScale, thickness, crossSag, sag, maxStitches]

/-- The requirement is the first one that settings do not meet. -/
def IsFirstUnmet (s : Settings) (r : Requirement) : Prop :=
  ¬ r.Met s ∧ ∃ before after, all = before ++ r :: after ∧ ∀ q ∈ before, q.Met s

instance (s : Settings) : (r : Requirement) → Decidable (r.Met s)
  | layerHeight => inferInstanceAs (Decidable (Positive s.layerHeight))
  | radiusScale => inferInstanceAs (Decidable (Positive s.radiusScale))
  | thickness => inferInstanceAs (Decidable (Positive s.layout.thickness))
  | crossSag => inferInstanceAs (Decidable (Nonnegative s.crossSag))
  | sag => inferInstanceAs (Decidable (Nonnegative s.layout.sag))
  | maxStitches => inferInstanceAs (Decidable (s.layout.maxStitches ≠ some 0))

/-- What is said about settings that do not meet a requirement. -/
def fault : Requirement → Fault
  | layerHeight => .notPositive "layer_height"
  | radiusScale => .notPositive "radius_scale"
  | thickness => .notPositive "yarn_thickness"
  | crossSag => .notNonnegative "cross_sag"
  | sag => .notNonnegative "round_sag"
  | maxStitches => .noStitches

theorem fault_reason (r : Requirement) : r.fault.reason = r.message := by cases r <;> decide

theorem mem_all (r : Requirement) : r ∈ all := by cases r <;> decide

end Requirement

theorem checks_eq (s : Settings) :
    s.checks = Requirement.all.map fun r => (decide (r.Met s), r.fault) := by
  have capped (cap : Option Count) : (cap != some 0) = decide (cap ≠ some 0) := by
    rw [Bool.eq_iff_iff, bne_iff_ne, decide_eq_true_iff]
  simp only [checks, isPositive_eq, isNonnegative_eq, capped]
  rfl

theorem fault?_eq (s : Settings) :
    s.fault? = (Requirement.all.find? fun r => !decide (r.Met s)).map Requirement.fault := by
  rw [fault?, checks_eq, List.find?_map, Option.map_map]
  rfl

/-- Settings that meet all requirements are kept as they are. -/
theorem check_eq_ok_iff {s t : Settings} :
    s.check = .ok t ↔ t = s ∧ ∀ r : Requirement, r.Met s := by
  rw [check, fault?_eq]
  cases found : Requirement.all.find? fun r => !decide (r.Met s) with
  | none =>
      have met (r : Requirement) : r.Met s := by
        simpa using List.find?_eq_none.mp found r r.mem_all
      simp [met, eq_comm]
  | some r =>
      have unmet : ¬ r.Met s := by simpa using List.find?_some found
      have notAll : ¬ ∀ r : Requirement, r.Met s := fun met => unmet (met r)
      simp [notAll]

/-- Settings are refused for the first requirement that they do not meet. -/
theorem check_eq_error_iff {s : Settings} {e : Error} :
    s.check = .error e ↔ ∃ r : Requirement, r.IsFirstUnmet s ∧ e = .validation r.message := by
  have first (r : Requirement) :
      Requirement.all.find? (fun r => !decide (r.Met s)) = some r ↔ r.IsFirstUnmet s := by
    simp [List.find?_eq_some_iff_append, Requirement.IsFirstUnmet]
  simp only [check, fault?_eq, ← first]
  cases Requirement.all.find? fun r => !decide (r.Met s) with
  | none => simp
  | some r => simp [r.fault_reason, eq_comm]

end Crochet.Settings
