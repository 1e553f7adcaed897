/-
# Crochet.Proofs.Player.Weave -- how the rings of a player hang together

The rings of a built player are sewn: each is closed, and each but the first
hangs from the one below.  So what holds of sewn rings holds of every player
after any run.
-/
import Crochet.Proofs.Player.Sessions
import Crochet.Proofs.Web

set_option autoImplicit false

namespace Crochet

namespace Settings

variable {s : Settings} {counts : List Count}

/-- A ring has as many stitches as its count, or as the cap when that is less, and is closed. -/
theorem ringOf_closed {i : Nat} {ring : Ring Float} (made : s.ringOf counts i = some ring) :
    ring.Closed ∧ ∃ count, counts[i]? = some count ∧ ring.width = Ring.laidOut s.layout count := by
  cases i with
  | zero =>
      obtain ⟨count, known, rfl⟩ := ringOf_zero_eq_some.mp made
      exact ⟨Ring.build_closed _ _ _ _, count, known, Ring.build_width _ _ _ _⟩
  | succ i =>
      obtain ⟨below, -, count, known, rfl⟩ := ringOf_succ_eq_some.mp made
      -- links change neither the anchors nor the band
      have closed := Ring.build_closed count (s.radiusFor count) (s.heightFor (i + 1)) s.layout
      exact ⟨⟨closed.size_eq, closed.joins⟩, count, known, Ring.build_width _ _ _ _⟩

theorem ringOf_zero_links {ring : Ring Float} (made : s.ringOf counts 0 = some ring) :
    ring.links = #[] := by
  obtain ⟨count, -, rfl⟩ := ringOf_zero_eq_some.mp made
  exact Ring.build_links _ _ _ _

theorem ringOf_hangs {i : Nat} {below above : Ring Float}
    (madeBelow : s.ringOf counts i = some below) (madeAbove : s.ringOf counts (i + 1) = some above) :
    above.HangsFrom below := by
  obtain ⟨same, known, count, -, rfl⟩ := ringOf_succ_eq_some.mp madeAbove
  obtain rfl : below = same := Option.some.inj (madeBelow.symm.trans known)
  exact Ring.linksTo_hangs below _ _ _

end Settings

namespace Player

/-- A ring that a built player holds is the one of its position. -/
theorem Built.ringOf_eq {p : Player} (built : p.Built) {k : Nat} {ring : Ring Float}
    (held : p.rings[k]? = some ring) : p.settings.ringOf p.pattern.counts k = some ring := by
  have inside : k < p.cursor := (Array.getElem?_eq_some_iff.mp held).1
  rw [← built.rings_eq k inside, held]

theorem Built.sewn {p : Player} (built : p.Built) : Sewn p.rings where
  closed _ _ held := (Settings.ringOf_closed (built.ringOf_eq held)).1
  first _ held := Settings.ringOf_zero_links (built.ringOf_eq held)
  hangs _ _ _ heldBelow heldAbove :=
    Settings.ringOf_hangs (built.ringOf_eq heldBelow) (built.ringOf_eq heldAbove)

/-- The number of stitches of a ring. -/
theorem Built.width_eq {p : Player} (built : p.Built) {k : Nat} {ring : Ring Float}
    (held : p.rings[k]? = some ring) :
    ∃ count : Count, p.pattern.counts[k]? = some count ∧
      ring.width =
        match p.settings.layout.maxStitches with
        | some limit => min count.toNat limit.toNat
        | none => count.toNat := by
  obtain ⟨-, count, known, width⟩ := Settings.ringOf_closed (built.ringOf_eq held)
  exact ⟨count, known, width.trans (Ring.laidOut_eq _ _)⟩

/-- **The yarn holds the piece together exactly where it can**, after any run over any store,
from any settings.  Every ring has its stated stitches or as many as the cap; bands and links run
between the anchors that their positions say; the connected components of the stitches are the
longest runs of rings that are not empty. -/
theorem runAll_sewn {σ : Type} (store : Store (StateM σ)) (clock : StateM σ Timestamp)
    (settings : Settings) (ops : List Operation) (s : σ) :
    let p := (runAll store clock (new settings) ops s).1.1
    (∀ (k : Nat) (ring : Ring Float), p.rings[k]? = some ring →
      ∃ count : Count, p.pattern.counts[k]? = some count ∧ ring.width =
        match p.settings.layout.maxStitches with
        | some limit => min count.toNat limit.toNat
        | none => count.toNat) ∧
    Sewn p.rings ∧
    (∀ stitches : Set (Knot p.rings),
      (∃ component : (web p.rings).ConnectedComponent, component.supp = stitches) ↔
        ∃ low high, IsRun p.rings low high ∧
          stitches = {a | low ≤ a.round ∧ a.round ≤ high}) ∧
    ((∀ ring ∈ p.rings, 0 < ring.width) → p.rings ≠ #[] → (web p.rings).Connected) := by
  intro p
  have built : p.Built := (runAll_sound store clock ops (new_sound settings) s).built
  exact ⟨fun _ _ held => built.width_eq held, built.sewn, built.sewn.exists_supp_eq_iff,
    fun filled any => built.sewn.connected any filled⟩

end Player

end Crochet
