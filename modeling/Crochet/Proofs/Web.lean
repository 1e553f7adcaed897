/-
# Crochet.Proofs.Web -- which stitches hang together

The stitches of a stack of rings are the vertices of a graph and its yarns, by
their positions alone, the edges.  In a stack that is `Sewn`, every ring is
closed and hangs from the ring below.  Two of its stitches hang together
exactly when no ring from the one to the other is empty; so the connected
components are the longest runs of rings that are not empty, and the whole
stack hangs together when no ring is.
-/
import Crochet.Proofs.Ring
import Mathlib.Combinatorics.SimpleGraph.Connectivity.Connected

set_option autoImplicit false

namespace Crochet

variable {α : Type} {rings : Array (Ring α)}

/-- The number of stitches of the ring at a position; zero where no ring is. -/
def widthAt (rings : Array (Ring α)) (k : Nat) : Nat := (rings[k]?.map Ring.width).getD 0

/-- A stitch of the stack, by the position of its ring and its place in it. -/
structure Knot (rings : Array (Ring α)) where
  round : Nat
  index : Nat
  inside : index < widthAt rings round

/-- A yarn runs from one stitch to the other. -/
inductive Tied : Knot rings → Knot rings → Prop where
  /-- The band's yarn at `a.index` runs to the next stitch around the ring. -/
  | banded {a b : Knot rings} {ring : Ring α} {yarn : Yarn α} (held : rings[a.round]? = some ring)
      (found : ring.band[a.index]? = some yarn) (round : b.round = a.round)
      (index : b.index = (a.index + 1) % ring.width) : Tied a b
  /-- The link at `b.index` runs up from a stitch of the ring below. -/
  | linked {a b : Knot rings} {ring : Ring α} {yarn : Yarn α} (held : rings[b.round]? = some ring)
      (found : ring.links[b.index]? = some yarn) (round : b.round = a.round + 1)
      (index : a.index = b.index % widthAt rings a.round) : Tied a b

/-- The stitches and the yarns between them. -/
def web (rings : Array (Ring α)) : SimpleGraph (Knot rings) := .fromRel Tied

/-- Every ring is closed and hangs from the ring below it; the first ring hangs from nothing. -/
structure Sewn (rings : Array (Ring α)) : Prop where
  closed : ∀ (k : Nat) (ring : Ring α), rings[k]? = some ring → ring.Closed
  first : ∀ ring : Ring α, rings[0]? = some ring → ring.links = #[]
  hangs : ∀ (k : Nat) (below above : Ring α), rings[k]? = some below → rings[k + 1]? = some above →
    above.HangsFrom below

theorem widthAt_of_getElem? {k : Nat} {ring : Ring α} (held : rings[k]? = some ring) :
    widthAt rings k = ring.width := by
  simp [widthAt, held]

theorem widthAt_of_size_le {k : Nat} (outside : rings.size ≤ k) : widthAt rings k = 0 := by
  simp [widthAt, Array.getElem?_eq_none outside]

/-- Only rings have stitches. -/
theorem exists_ring {k : Nat} (filled : 0 < widthAt rings k) : ∃ ring, rings[k]? = some ring := by
  cases held : rings[k]? with
  | none => simp [widthAt, held] at filled
  | some ring => exact ⟨ring, rfl⟩

theorem Knot.filled (a : Knot rings) : 0 < widthAt rings a.round :=
  Nat.zero_lt_of_lt a.inside

theorem Tied.reachable {a b : Knot rings} (tied : Tied a b) : (web rings).Reachable a b := by
  by_cases same : a = b
  · rw [same]
  · exact SimpleGraph.Adj.reachable ⟨same, .inl tied⟩

/-! ## Hanging together -/

/-- Neighbours around a ring hang together. -/
theorem Sewn.reachable_next (sewn : Sewn rings) {a b : Knot rings} (round : b.round = a.round)
    (index : b.index = a.index + 1) : (web rings).Reachable a b := by
  obtain ⟨ring, held⟩ := exists_ring a.filled
  have inside : a.index + 1 < ring.width := by
    have := b.inside
    rwa [round, index, widthAt_of_getElem? held] at this
  have size : ring.band.size = ring.width := by
    rw [(sewn.closed a.round ring held).size_eq, if_pos (by omega)]
  have found : ring.band[a.index]? = some ring.band[a.index] := Array.getElem?_eq_getElem (by omega)
  refine (Tied.banded held found round ?_).reachable
  rw [index, Nat.mod_eq_of_lt inside]

/-- A ring hangs together. -/
theorem Sewn.reachable_around (sewn : Sewn rings) {a b : Knot rings} (round : b.round = a.round) :
    (web rings).Reachable a b := by
  -- both stitches hang together with the first one of their ring
  have start : ∀ i (inside : i < widthAt rings a.round),
      (web rings).Reachable ⟨a.round, 0, a.filled⟩ ⟨a.round, i, inside⟩ := by
    intro i inside
    induction i with
    | zero => exact .refl _
    | succ i ih => exact (ih (by omega)).trans (sewn.reachable_next rfl rfl)
  obtain ⟨k, j, insideB⟩ := b
  obtain rfl : k = a.round := round
  exact (start a.index a.inside).symm.trans (start j insideB)

/-- Rings on top of each other hang together. -/
theorem Sewn.reachable_above (sewn : Sewn rings) {a b : Knot rings}
    (round : b.round = a.round + 1) : (web rings).Reachable a b := by
  obtain ⟨below, heldBelow⟩ := exists_ring a.filled
  obtain ⟨above, heldAbove⟩ := exists_ring b.filled
  have foothold : 0 < below.width := by
    rw [← widthAt_of_getElem? heldBelow]
    exact a.filled
  have size : above.links.size = above.width := by
    rw [(sewn.hangs a.round below above heldBelow (round ▸ heldAbove)).size_eq, if_pos foothold]
  have inside : b.index < above.width := by
    have := b.inside
    rwa [widthAt_of_getElem? heldAbove] at this
  have found : above.links[b.index]? = some above.links[b.index] :=
    Array.getElem?_eq_getElem (by omega)
  let foot : Knot rings :=
    ⟨a.round, b.index % widthAt rings a.round, Nat.mod_lt _ a.filled⟩
  have aside : (web rings).Reachable a foot := sewn.reachable_around rfl
  have tied : Tied foot b := .linked heldAbove found round rfl
  exact aside.trans tied.reachable

/-- Stitches hang together when no ring from the lower to the upper is empty. -/
theorem Sewn.reachable_up (sewn : Sewn rings) {a b : Knot rings} (up : a.round ≤ b.round)
    (filled : ∀ k, a.round ≤ k → k ≤ b.round → 0 < widthAt rings k) :
    (web rings).Reachable a b := by
  obtain ⟨height, round⟩ := Nat.exists_eq_add_of_le up
  induction height generalizing b with
  | zero => exact sewn.reachable_around round
  | succ height ih =>
      let under : Knot rings := ⟨a.round + height, 0, filled _ (by omega) (by omega)⟩
      have reached : (web rings).Reachable a under :=
        ih (b := under) (Nat.le_add_right _ _)
          (fun k low high => filled k low (round ▸ Nat.le_succ_of_le high)) rfl
      exact reached.trans (sewn.reachable_above round)

/-- No ring from one stitch to the other is empty. -/
def Between (a b : Knot rings) : Prop :=
  ∀ k, min a.round b.round ≤ k → k ≤ max a.round b.round → 0 < widthAt rings k

/-- A yarn stays in a ring or goes to a neighbour. -/
theorem Tied.near {a b : Knot rings} (tied : Tied a b) :
    a.round ≤ b.round + 1 ∧ b.round ≤ a.round + 1 := by
  cases tied with
  | banded _ _ round _ => omega
  | linked _ _ round _ => omega

theorem round_near {a b : Knot rings} (adj : (web rings).Adj a b) :
    a.round ≤ b.round + 1 ∧ b.round ≤ a.round + 1 := by
  rcases adj.2 with up | down
  · exact up.near
  · exact down.near.symm

/-- **Two stitches hang together** exactly when no ring from the one to the other is empty. -/
theorem Sewn.reachable_iff (sewn : Sewn rings) (a b : Knot rings) :
    (web rings).Reachable a b ↔ Between a b := by
  constructor
  · intro reachable
    rw [SimpleGraph.reachable_iff_reflTransGen] at reachable
    induction reachable with
    | refl =>
        intro k low high
        obtain rfl : k = a.round := by omega
        exact a.filled
    | @tail b c _ adj ih =>
        intro k low high
        have near := round_near adj
        by_cases last : k = c.round
        · exact last ▸ c.filled
        · exact ih k (by omega) (by omega)
  · intro between
    rcases Nat.le_total a.round b.round with up | down
    · exact sewn.reachable_up up fun k low high => between k (by omega) (by omega)
    · exact (sewn.reachable_up down fun k low high => between k (by omega) (by omega)).symm

/-! ## Runs of rings -/

/-- A longest run of rings that are not empty. -/
structure IsRun (rings : Array (Ring α)) (low high : Nat) : Prop where
  low_le : low ≤ high
  filled : ∀ k, low ≤ k → k ≤ high → 0 < widthAt rings k
  below : ∀ k, k + 1 = low → widthAt rings k = 0
  above : widthAt rings (high + 1) = 0

theorem exists_low {k : Nat} (filled : 0 < widthAt rings k) :
    ∃ low ≤ k, (∀ j, low ≤ j → j ≤ k → 0 < widthAt rings j) ∧
      ∀ j, j + 1 = low → widthAt rings j = 0 := by
  induction k with
  | zero =>
      refine ⟨0, Nat.le_refl 0, fun j _ high => ?_, fun j isLow => by omega⟩
      obtain rfl : j = 0 := by omega
      exact filled
  | succ k ih =>
      by_cases empty : widthAt rings k = 0
      · refine ⟨k + 1, Nat.le_refl _, fun j low high => ?_, fun j isLow => ?_⟩
        · obtain rfl : j = k + 1 := by omega
          exact filled
        · obtain rfl : j = k := by omega
          exact empty
      · obtain ⟨low, le, between, below⟩ := ih (by omega)
        refine ⟨low, by omega, fun j fromLow high => ?_, below⟩
        by_cases top : j = k + 1
        · exact top ▸ filled
        · exact between j fromLow (by omega)

theorem exists_high {k : Nat} (filled : 0 < widthAt rings k) :
    ∃ high ≥ k, (∀ j, k ≤ j → j ≤ high → 0 < widthAt rings j) ∧ widthAt rings (high + 1) = 0 := by
  have ends : ∃ d, widthAt rings (k + d + 1) = 0 := ⟨rings.size, widthAt_of_size_le (by omega)⟩
  refine ⟨k + Nat.find ends, Nat.le_add_right _ _, fun j low high => ?_, Nat.find_spec ends⟩
  by_cases bottom : j = k
  · exact bottom ▸ filled
  · have before := Nat.find_min ends (m := j - k - 1) (by omega)
    rw [show k + (j - k - 1) + 1 = j by omega] at before
    omega

/-- Every stitch is in a run. -/
theorem Knot.exists_isRun (a : Knot rings) :
    ∃ low high, IsRun rings low high ∧ low ≤ a.round ∧ a.round ≤ high := by
  obtain ⟨low, lowLe, lower, below⟩ := exists_low a.filled
  obtain ⟨high, leHigh, upper, above⟩ := exists_high a.filled
  refine ⟨low, high, ⟨by omega, fun k fromLow toHigh => ?_, below, above⟩, lowLe, leHigh⟩
  rcases Nat.le_total k a.round with down | up
  · exact lower k fromLow down
  · exact upper k up toHigh

/-- What hangs together with a stitch is the run that it is in. -/
theorem IsRun.between_iff {low high : Nat} (run : IsRun rings low high) {a : Knot rings}
    (fromLow : low ≤ a.round) (toHigh : a.round ≤ high) (b : Knot rings) :
    Between a b ↔ low ≤ b.round ∧ b.round ≤ high := by
  constructor
  · intro between
    constructor
    · by_contra under
      have empty := run.below (low - 1) (by omega)
      have := between (low - 1) (by omega) (by omega)
      omega
    · by_contra beyond
      have := between (high + 1) (by omega) (by omega)
      have := run.above
      omega
  · rintro ⟨fromLow', toHigh'⟩ k below above
    exact run.filled k (by omega) (by omega)

/-- **The connected components** are the stitches of the longest runs of rings that are not
empty. -/
theorem Sewn.exists_supp_eq_iff (sewn : Sewn rings) (stitches : Set (Knot rings)) :
    (∃ component : (web rings).ConnectedComponent, component.supp = stitches) ↔
      ∃ low high, IsRun rings low high ∧
        stitches = {a | low ≤ a.round ∧ a.round ≤ high} := by
  -- the component of a stitch in a run is the run
  have component : ∀ {low high : Nat} (_ : IsRun rings low high) (a : Knot rings),
      low ≤ a.round → a.round ≤ high →
      ((web rings).connectedComponentMk a).supp = {b | low ≤ b.round ∧ b.round ≤ high} := by
    intro low high run a fromLow toHigh
    ext b
    rw [SimpleGraph.ConnectedComponent.mem_supp_iff, SimpleGraph.ConnectedComponent.eq,
      SimpleGraph.reachable_comm, sewn.reachable_iff, run.between_iff fromLow toHigh]
    rfl
  constructor
  · rintro ⟨c, rfl⟩
    obtain ⟨a, rfl⟩ := c.exists_rep
    obtain ⟨low, high, run, fromLow, toHigh⟩ := a.exists_isRun
    exact ⟨low, high, run, component run a fromLow toHigh⟩
  · rintro ⟨low, high, run, rfl⟩
    let a : Knot rings := ⟨low, 0, run.filled low (Nat.le_refl low) run.low_le⟩
    exact ⟨(web rings).connectedComponentMk a, component run a (Nat.le_refl low) run.low_le⟩

/-- **A stack without empty rings** hangs together. -/
theorem Sewn.connected (sewn : Sewn rings) (any : rings ≠ #[])
    (filled : ∀ ring ∈ rings, 0 < ring.width) : (web rings).Connected := by
  have filledAt : ∀ k < rings.size, 0 < widthAt rings k := by
    intro k inside
    rw [widthAt_of_getElem? (Array.getElem?_eq_getElem inside)]
    exact filled _ (Array.getElem_mem inside)
  have bottom : 0 < widthAt rings 0 := filledAt 0 (Array.size_pos_iff.mpr any)
  have : Nonempty (Knot rings) := ⟨0, 0, bottom⟩
  refine ⟨fun a b => (sewn.reachable_iff a b).mpr fun k _ high => filledAt k ?_⟩
  have placed : ∀ c : Knot rings, c.round < rings.size := by
    intro c
    by_contra outside
    have := widthAt_of_size_le (Nat.not_lt.mp outside)
    have := c.filled
    omega
  have := placed a
  have := placed b
  omega

end Crochet
