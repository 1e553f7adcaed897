/-
# Crochet.Proofs.Player.Rings -- the rings are a function of the counts

`Settings.ringOf` names the ring of a position from the settings and the stitch
counts alone.  A player is `Built` when it holds exactly these rings up to its
cursor, and its cursor is within its pattern.  Everything that builds a ring
goes through `build?`, which keeps a player built; `climb` is the loop that
advancing and recovering share.
-/
import Crochet.Player
import Crochet.Proofs.Ring

set_option autoImplicit false

namespace Crochet

/-- The ring of a position: the round laid out at its height and, above the first round, linked
to the ring of the position below. -/
def Settings.ringOf (s : Settings) (counts : List Count) : Nat → Option (Ring Float)
  | 0 => do
    let count ← counts[0]?
    some (Ring.build count (s.radiusFor count) (s.heightFor 0) s.layout)
  | i + 1 => do
    let below ← ringOf s counts i
    let count ← counts[i + 1]?
    let ring := Ring.build count (s.radiusFor count) (s.heightFor (i + 1)) s.layout
    some { ring with links := Ring.linksTo below ring s.crossSag s.layout.thickness }

theorem Settings.ringOf_zero_eq_some {s : Settings} {counts : List Count} {ring : Ring Float} :
    s.ringOf counts 0 = some ring ↔ ∃ count, counts[0]? = some count ∧
      Ring.build count (s.radiusFor count) (s.heightFor 0) s.layout = ring := by
  simp [ringOf, Option.bind_eq_some_iff]

theorem Settings.ringOf_succ_eq_some {s : Settings} {counts : List Count} {i : Nat}
    {above : Ring Float} :
    s.ringOf counts (i + 1) = some above ↔ ∃ below, s.ringOf counts i = some below ∧
      ∃ count, counts[i + 1]? = some count ∧
        let ring := Ring.build count (s.radiusFor count) (s.heightFor (i + 1)) s.layout
        { ring with links := Ring.linksTo below ring s.crossSag s.layout.thickness } = above := by
  simp [ringOf, Option.bind_eq_some_iff]

namespace Player

/-- The cursor is within the pattern, and the rings are those of the positions before it. -/
structure Built (p : Player) : Prop where
  cursor_le : p.cursor ≤ p.pattern.length
  rings_eq : ∀ i < p.cursor, p.rings[i]? = p.settings.ringOf p.pattern.counts i

/-- A player without rings is built. -/
theorem built_of_rings_empty {p : Player} (empty : p.rings = #[]) : p.Built where
  cursor_le := by simp [cursor, empty]
  rings_eq := by simp [cursor, empty]

theorem new_built (s : Settings) : (new s).Built := built_of_rings_empty rfl

theorem withPattern_built (p : Player) (pattern : Pattern) : (p.withPattern pattern).Built :=
  built_of_rings_empty rfl

/-- Players that agree on what their rings depend on hold the same rings. -/
theorem Built.rings_congr {p q : Player} (hp : p.Built) (hq : q.Built)
    (settings : p.settings = q.settings) (pattern : p.pattern = q.pattern)
    (cursor : p.cursor = q.cursor) : p.rings = q.rings := by
  apply Array.ext_getElem?
  intro i
  by_cases inside : i < p.cursor
  · rw [hp.rings_eq i inside, hq.rings_eq i (cursor ▸ inside), settings, pattern]
  · have outside : ¬ i < q.cursor := cursor ▸ inside
    simp only [Player.cursor, Nat.not_lt] at inside outside
    rw [Array.getElem?_eq_none inside, Array.getElem?_eq_none outside]

/-! ## One ring -/

theorem get?_isSome_iff (p : Player) :
    (p.pattern.get? p.cursor).isSome ↔ p.cursor < p.pattern.length := by
  simp [Pattern.get?, Pattern.length]

/-- Nothing is built exactly when no round is left. -/
theorem build?_eq_none_iff (p : Player) : p.build? = none ↔ p.pattern.length ≤ p.cursor := by
  have left := get?_isSome_iff p
  unfold build?
  cases found : p.pattern.get? p.cursor with
  | none => simpa [found] using left
  | some round => simpa [found] using left

/-- Building adds one ring and touches nothing else. -/
theorem build?_eq_some {p q : Player} {ring : Ring Float} {events : List Event}
    (built : p.build? = some (ring, q, events)) :
    p.cursor < p.pattern.length ∧ q = { p with rings := p.rings.push ring } := by
  constructor
  · by_contra outside
    simp [(build?_eq_none_iff p).mpr (by omega)] at built
  · unfold build? at built
    split at built
    · cases built
    · cases built
      rfl

/-- The next ring of a built player is the ring of its cursor's position. -/
theorem ringAbove_eq {p : Player} (good : p.Built) {round : Round}
    (next : p.pattern.get? p.cursor = some round) :
    p.settings.ringOf p.pattern.counts p.cursor =
      some (ringAbove p.settings p.rings.back? p.cursor round) := by
  have count : p.pattern.counts[p.cursor]? = some round.stitches := by
    simp only [Pattern.get?] at next
    simp [Pattern.counts, next]
  have back : p.rings.back? = p.rings[p.cursor - 1]? := Array.back?_eq_getElem?
  cases position : p.cursor with
  | zero =>
      have noRing : p.rings = #[] := Array.eq_empty_of_size_eq_zero position
      rw [position] at count
      simp [Settings.ringOf, count, ringAbove, plainRing, noRing]
  | succ i =>
      rw [position] at count
      have inside : i < p.rings.size := by simp only [cursor] at position; omega
      have held : p.rings[i]? = some p.rings[i] := Array.getElem?_eq_getElem inside
      have below : p.settings.ringOf p.pattern.counts i = some p.rings[i] :=
        (good.rings_eq i inside).symm.trans held
      have last : p.rings.back? = some p.rings[i] := by rw [back, position]; exact held
      simp [Settings.ringOf, below, count, ringAbove, plainRing, last, Ring.linked]

/-- Building keeps a player built. -/
theorem build?_built {p q : Player} {ring : Ring Float} {events : List Event} (good : p.Built)
    (built : p.build? = some (ring, q, events)) : q.Built := by
  obtain ⟨inside, rfl⟩ := build?_eq_some built
  have isRing : p.settings.ringOf p.pattern.counts p.cursor = some ring := by
    unfold build? at built
    split at built
    · cases built
    · rename_i round next
      cases built
      exact ringAbove_eq good next
  constructor
  · rw [cursor, Array.size_push]
    exact inside
  · intro i hi
    rcases Nat.lt_succ_iff_lt_or_eq.mp (by simpa [cursor] using hi) with older | newest
    · have := good.rings_eq i older
      simpa [Array.getElem?_push, Nat.ne_of_lt older] using this
    · subst newest
      simpa [Array.getElem?_push, cursor] using isRing.symm

/-! ## Many rings -/

/-- The player after building at most a number of rings. -/
def climb : Nat → Player → Player
  | 0, p => p
  | limit + 1, p =>
    match p.build? with
    | none => p
    | some (_, q, _) => climb limit q

theorem climb_of_build? {p q : Player} {ring : Ring Float} {events : List Event} (limit : Nat)
    (built : p.build? = some (ring, q, events)) : climb (limit + 1) p = climb limit q := by
  simp [climb, built]

theorem climb_of_build?_none {p : Player} (limit : Nat) (done : p.build? = none) :
    climb limit p = p := by
  cases limit <;> simp [climb, done]

/-- Climbing changes nothing but the rings, and reaches as far as the limit and the pattern
let it. -/
theorem climb_spec (limit : Nat) (p : Player) (good : p.Built) :
    (climb limit p).Built ∧ (climb limit p).settings = p.settings ∧
      (climb limit p).pattern = p.pattern ∧
      (climb limit p).cursor = min (p.cursor + limit) p.pattern.length := by
  have within := good.cursor_le
  induction limit generalizing p with
  | zero => exact ⟨good, rfl, rfl, by simp only [climb]; omega⟩
  | succ limit ih =>
      cases step : p.build? with
      | none =>
          have := (build?_eq_none_iff p).mp step
          rw [climb_of_build?_none _ step]
          exact ⟨good, rfl, rfl, by omega⟩
      | some built =>
          obtain ⟨ring, q, events⟩ := built
          have goodNext := build?_built good step
          obtain ⟨inside, rfl⟩ := build?_eq_some step
          rw [climb_of_build? _ step]
          obtain ⟨keeps, settings, pattern, cursor⟩ := ih _ goodNext goodNext.cursor_le
          refine ⟨keeps, settings, pattern, cursor.trans ?_⟩
          simp only [Player.cursor, Array.size_push]
          omega

theorem rebuild_player (limit : Nat) (p : Player) : (rebuild limit p).player = climb limit p := by
  induction limit generalizing p with
  | zero => rfl
  | succ limit ih =>
      simp only [rebuild, climb]
      cases p.build? with
      | none => rfl
      | some built => exact ih _

theorem advance?_eq (p : Player) :
    p.advance? = p.build?.map fun (ring, q, events) =>
      (ring, { player := q
               script := events.map Action.report ++ [.autosave q, .hand p.cursor ring] }) := by
  unfold advance?
  cases p.build? <;> rfl

theorem advanceUpTo_player (limit : Nat) (p : Player) :
    (advanceUpTo limit p).player = climb limit p := by
  induction limit generalizing p with
  | zero => rfl
  | succ limit ih =>
      simp only [advanceUpTo, climb, advance?_eq]
      cases p.build? with
      | none => rfl
      | some built => exact ih _

end Player

end Crochet
