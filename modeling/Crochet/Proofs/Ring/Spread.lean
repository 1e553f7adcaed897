/-
# Crochet.Proofs.Ring.Spread -- how the links spread over the ring below

A link shows two points and not which stitches stand there, and stitches may
share a point.  `Ties` says which two stitches a link joins by the widths of
the rings alone: it runs between them wherever the stitches stand.  Rings in
which one stitch stands apart tell which two these are.  So every stitch above
ends one link, and the stitches below are served in turn: what two of them
carry differs by at most one link.
-/
import Crochet.Proofs.Ring
import Mathlib.Data.Int.CardIntervalMod

set_option autoImplicit false

namespace Crochet.Ring

/-- The link at place `i` joins stitch `j` of a ring of `m` to stitch `k` of a ring of `n` above
it, wherever their stitches stand. -/
def Ties (m n i j k : Nat) : Prop :=
  ∀ below above : Ring Float, below.width = m → above.width = n → ∀ sag thickness : Float,
    ∃ yarn a b, (linksTo below above sag thickness)[i]? = some yarn ∧
      below.anchors[j]? = some a ∧ above.anchors[k]? = some b ∧ yarn.Joins a b

/-! ## Which stitches a link joins -/

/-- A ring of `n` stitches of which the one at `i` stands apart from all others. -/
def apart (n i : Nat) : Ring Float where
  anchors := (Array.range n).map fun k =>
    { position := ⟨if k = i then 1 else 0, 0, 0⟩, stitch := Stitch.ofKind .singleCrochet }
  band := #[]
  links := #[]

@[simp] theorem apart_width (n i : Nat) : (apart n i).width = n := by
  simp [apart, width]

theorem apart_position {n i j : Nat} {a : Anchor Float} (held : (apart n i).anchors[j]? = some a) :
    a.position = ⟨if j = i then 1 else 0, 0, 0⟩ := by
  rw [apart, Array.getElem?_map, Option.map_eq_some_iff] at held
  obtain ⟨k, isK, rfl⟩ := held
  obtain ⟨-, rfl⟩ : j < n ∧ j = k := by
    simpa [Array.getElem?_eq_some_iff] using isK
  rfl

/-- No other stitch stands where the one that stands apart does. -/
theorem eq_of_apart {n i j : Nat} {a b : Anchor Float} (one : (apart n i).anchors[i]? = some a)
    (other : (apart n i).anchors[j]? = some b) (same : a.position = b.position) : j = i := by
  rw [apart_position one, apart_position other] at same
  by_contra different
  have zero_eq_one : (1 : Float) = 0 := by
    simpa [different] using congrArg Vec3.x same
  revert zero_eq_one
  decide

/-- There is a link for every stitch above, if there is a stitch below. -/
theorem linksTo_size (below above : Ring Float) (sag thickness : Float) :
    (linksTo below above sag thickness).size = if 0 < below.width then above.width else 0 :=
  (linksTo_hangs below above sag thickness).size_eq

/-- **A link joins** the stitch at its own place to one below, which all stitches below are in
turn. -/
theorem ties_iff {m n i j k : Nat} : Ties m n i j k ↔ 0 < m ∧ i < n ∧ j = i % m ∧ k = i := by
  constructor
  · intro ties
    -- the stitches that stand apart are those that the place of the link asks for
    let below := apart m (i % m)
    let above := apart n i
    obtain ⟨yarn, a, b, found, isA, isB, joins⟩ :=
      ties below above (apart_width m (i % m)) (apart_width n i) 0 0
    obtain ⟨a', b', isA', isB', joins'⟩ := (linksTo_hangs below above 0 0).joins i yarn found
    rw [apart_width] at isA'
    refine ⟨?_, ?_, ?_, ?_⟩
    · have inside : i % m < below.width := (Array.getElem?_eq_some_iff.mp isA').1
      rw [apart_width] at inside
      omega
    · have inside : i < above.width := (Array.getElem?_eq_some_iff.mp isB').1
      rwa [apart_width] at inside
    · exact eq_of_apart isA' isA (joins'.start_eq.symm.trans joins.start_eq)
    · exact eq_of_apart isB' isB (joins'.stop_eq.symm.trans joins.stop_eq)
  · rintro ⟨foothold, inside, rfl, rfl⟩ below above rfl rfl sag thickness
    have isPlace : k < (linksTo below above sag thickness).size := by
      rwa [linksTo_size, if_pos foothold]
    have found := Array.getElem?_eq_getElem isPlace
    obtain ⟨a, b, isA, isB, joins⟩ := (linksTo_hangs below above sag thickness).joins k _ found
    exact ⟨_, a, b, found, isA, isB, joins⟩

/-! ## What a stitch carries -/

theorem exists_ties_iff {m n i j : Nat} :
    (∃ k, Ties m n i j k) ↔ 0 < m ∧ i < n ∧ j = i % m := by
  simp [ties_iff]

instance (m n i j : Nat) : Decidable (∃ k, Ties m n i j k) :=
  decidable_of_iff _ exists_ties_iff.symm

/-- The number of links that stitch `j` of a ring of `m` carries, up to a ring of `n`. -/
def carried (m n j : Nat) : Nat := Nat.count (fun i => ∃ k, Ties m n i j k) n

theorem carried_eq {m j : Nat} (inside : j < m) (n : Nat) :
    carried m n j = n / m + if j < n % m then 1 else 0 := by
  have foothold : 0 < m := Nat.zero_lt_of_lt inside
  have here : j % m = j := Nat.mod_eq_of_lt inside
  have residue : ∀ i < n, (∃ k, Ties m n i j k) ↔ i ≡ j [MOD m] := by
    intro i below
    rw [exists_ties_iff, Nat.ModEq, here]
    exact ⟨fun ⟨_, _, same⟩ => same.symm, fun same => ⟨foothold, below, same.symm⟩⟩
  have counted := Nat.count_modEq_card n foothold j
  rw [here] at counted
  rw [← counted, carried, Nat.count_eq_card_filter_range, Nat.count_eq_card_filter_range]
  congr 1
  apply Finset.filter_congr
  intro i isPlace
  exact residue i (Finset.mem_range.mp isPlace)

/-- **The links spread evenly over the ring below.**  There is a link for every stitch above, and
it is the only one that ends there.  A stitch below carries its share of the links, or one more
if it is among the first; so no two differ by more than one link, and every stitch is used unless
the ring above is narrower, and then just the first ones.  Rings of the same width are linked
stitch by stitch, and above a ring without stitches there are no links. -/
theorem linksTo_spread (below above : Ring Float) (sag thickness : Float) :
    let links := linksTo below above sag thickness
    let m := below.width
    let n := above.width
    (m = 0 → links = #[]) ∧
    (0 < m →
      links.size = n ∧
      (∀ k < n, (∃ j, Ties m n k j k) ∧ ∀ i j, Ties m n i j k → i = k) ∧
      (∀ j < m, carried m n j = n / m + if j < n % m then 1 else 0) ∧
      (∀ j < m, ∀ j' < m, carried m n j ≤ carried m n j' + 1) ∧
      (m ≤ n → ∀ j < m, 0 < carried m n j) ∧
      (n < m → ∀ j < m, 0 < carried m n j ↔ j < n) ∧
      (m = n → ∀ i < n, Ties m n i i i ∧ carried m n i = 1)) := by
  intro links m n
  have size : links.size = if 0 < m then n else 0 := linksTo_size below above sag thickness
  constructor
  · intro nothing
    apply Array.eq_empty_of_size_eq_zero
    rw [size, if_neg (by omega)]
  · intro foothold
    refine ⟨?_, ?_, ?_, ?_, ?_, ?_, ?_⟩
    · rw [size, if_pos foothold]
    · intro k inside
      refine ⟨⟨k % m, ties_iff.mpr ⟨foothold, inside, rfl, rfl⟩⟩, ?_⟩
      intro i j ties
      exact (ties_iff.mp ties).2.2.2.symm
    · intro j isBelow
      exact carried_eq isBelow n
    · intro j isBelow j' isBelow'
      rw [carried_eq isBelow, carried_eq isBelow']
      split <;> split <;> omega
    · intro wider j isBelow
      rw [carried_eq isBelow]
      have share : 0 < n / m := Nat.div_pos wider foothold
      omega
    · intro narrower j isBelow
      rw [carried_eq isBelow, Nat.div_eq_of_lt narrower, Nat.mod_eq_of_lt narrower]
      split <;> omega
    · intro same i inside
      have isBelow : i < m := same ▸ inside
      constructor
      · exact ties_iff.mpr ⟨foothold, inside, (Nat.mod_eq_of_lt isBelow).symm, rfl⟩
      · rw [carried_eq isBelow, ← same, Nat.div_self foothold, Nat.mod_self]
        rfl

theorem linksTo_spread_five_twelve :
    let below := build 5 1 0 .usual
    let above := build 12 2 1 .usual
    0 < below.width ∧ (linksTo below above 0.1 0.03).size = 12 ∧
      (List.range 5).map (carried 5 12) = [3, 3, 2, 2, 2] ∧
      ∀ j < 5, 0 < carried 5 12 j := by
  intro below above
  have narrow : below.width = 5 := by decide +kernel
  have wide : above.width = 12 := by decide +kernel
  have foothold : 0 < below.width := by omega
  have law := (linksTo_spread below above 0.1 0.03).2 foothold
  rw [narrow, wide] at law
  obtain ⟨size, -, share, -, used, -⟩ := law
  refine ⟨foothold, size, ?_, used (by decide)⟩
  rw [List.map_congr_left fun j inside => share j (List.mem_range.mp inside)]
  rfl

end Crochet.Ring
