/-
# Crochet.Proofs.Pattern.Flags -- which patterns a snapshot can stand for

A snapshot keeps counts and texts, so it stands for a pattern only if the rest
can be derived from these: the number of a round from its place, its flags
from what its text mentions.  Whatever is read from a text, made from counts
or restored from a snapshot is such a pattern.  A document is only asked for
the numbers; what it says of the flags is believed, and a pattern that it
flags wrongly does not survive a snapshot.
-/
import Crochet.Proofs.Pattern
import Crochet.Proofs.Pattern.Document
import Crochet.Proofs.Snapshot
import Crochet.Proofs.Text.Pieces

set_option autoImplicit false

namespace Crochet

/-! ## Rounds -/

/-- The round is numbered by its position, and its flags say what its text mentions. -/
structure Round.Faithful (position : Nat) (r : Round) : Prop where
  index : r.index = position + 1
  increases : r.increases = true ↔ "inc".toList <:+: r.text.toList
  decreases : r.decreases = true ↔ "dec".toList <:+: r.text.toList

namespace Round

theorem ofText_faithful (position : Nat) (text : String) (stitches : Count) :
    (ofText (position + 1) text stitches).Faithful position where
  index := rfl
  increases := Text.occurs_iff _ _
  decreases := Text.occurs_iff _ _

/-- A round is faithful exactly when it is the one of its text and count at its position. -/
theorem faithful_iff {position : Nat} {r : Round} :
    r.Faithful position ↔ ofText (position + 1) r.text r.stitches = r := by
  constructor
  · intro faithful
    have made := ofText_faithful position r.text r.stitches
    have increases := Bool.eq_iff_iff.mpr (made.increases.trans faithful.increases.symm)
    have decreases := Bool.eq_iff_iff.mpr (made.decreases.trans faithful.decreases.symm)
    obtain ⟨index, text, stitches, inc, dec⟩ := r
    obtain rfl : index = position + 1 := faithful.index
    exact congrArg₂ (Round.mk _ text stitches) increases decreases
  · intro same
    exact same ▸ ofText_faithful position r.text r.stitches

end Round

/-! ## Patterns -/

namespace Pattern

/-- Every round is faithful at its position. -/
def Faithful (p : Pattern) : Prop :=
  ∀ (position : Nat) (r : Round), p.rounds[position]? = some r → r.Faithful position

theorem getElem?_roundsOf (index : Nat) (entries : List (Count × String)) (position : Nat) :
    (roundsOf index entries)[position]? =
      entries[position]?.map fun entry => Round.ofText (index + position) entry.2 entry.1 := by
  induction entries generalizing index position with
  | nil => rfl
  | cons entry rest ih =>
      cases position with
      | zero => rfl
      | succ position =>
          simp only [roundsOf, List.getElem?_cons_succ, ih]
          rw [Nat.add_assoc, Nat.add_comm 1 position]

/-- The faithful patterns are those of their counts and texts. -/
theorem derived_iff (p : Pattern) : p.Derived ↔ p.Faithful := by
  have derived (position : Nat) :
      (ofCounts p.entries).rounds[position]? =
        p.rounds[position]?.map fun r => Round.ofText (position + 1) r.text r.stitches := by
    rw [ofCounts, getElem?_roundsOf, entries, List.getElem?_map, Option.map_map,
      Nat.add_comm 1 position]
    rfl
  constructor
  · intro same position r found
    have here := derived position
    rw [same, found, Option.map_some] at here
    exact Round.faithful_iff.mpr (Option.some.inj here).symm
  · intro faithful
    refine congrArg Pattern.mk (List.ext_getElem? fun position => ?_)
    refine (derived position).trans ?_
    cases found : p.rounds[position]? with
    | none => rfl
    | some r => exact congrArg some (Round.faithful_iff.mp (faithful position r found))

end Pattern

namespace Snapshot

/-- The faithful patterns are those that survive a snapshot. -/
theorem toPattern_capture_iff (p : Pattern) (now : Timestamp) :
    (capture p now).toPattern = p ↔ p.Faithful := by
  rw [toPattern_capture_eq, ← Pattern.derived_iff, Pattern.Derived]

end Snapshot

namespace Pattern

/-- Flags that the texts bear out. -/
def Flagged (p : Pattern) : Prop :=
  ∀ r ∈ p.rounds, (r.increases = true ↔ "inc".toList <:+: r.text.toList) ∧
    (r.decreases = true ↔ "dec".toList <:+: r.text.toList)

theorem faithful_iff (p : Pattern) : p.Faithful ↔ p.Numbered ∧ p.Flagged := by
  constructor
  · refine fun faithful => ⟨fun position r found => (faithful position r found).index, ?_⟩
    intro r inside
    obtain ⟨position, found⟩ := List.mem_iff_getElem?.mp inside
    exact ⟨(faithful position r found).increases, (faithful position r found).decreases⟩
  · rintro ⟨numbered, flagged⟩ position r found
    obtain ⟨increases, decreases⟩ := flagged r (List.mem_of_getElem? found)
    exact ⟨numbered position r found, increases, decreases⟩

/-- Read from a text, made from counts, the ball, or restored from a snapshot that was decoded. -/
inductive Made : Pattern → Prop where
  | parsed (text : String) : Made (parse text)
  | counted (entries : List (Count × String)) : Made (ofCounts entries)
  | ball : Made ball
  | restored {text : String} {s : Snapshot} (decoded : Snapshot.ofString? text = some s) :
      Made s.toPattern

theorem Made.faithful {p : Pattern} (made : Made p) : p.Faithful := by
  rw [← derived_iff]
  cases made with
  | parsed text => exact read_derived text
  | counted entries => exact ofCounts_derived entries
  | ball => exact ofCounts_derived _
  | restored decoded => exact Snapshot.toPattern_derived _

/-- **What a snapshot can stand for, and what a document lets in.**  A pattern survives a snapshot,
taken at whatever time, exactly when it is faithful: at every position the round is numbered by it
and flagged by what its text mentions.  It is so if it was made from a text, from counts or from a
snapshot.  If it was accepted from a document, it is numbered by its positions and a snapshot keeps
its counts and texts, but its flags are what the document says, and it is faithful exactly if its
texts bear them out. -/
theorem survives_snapshot_iff (p : Pattern) (now : Timestamp) :
    ((Snapshot.capture p now).toPattern = p ↔ p.Faithful) ∧ (Made p → p.Faithful) ∧
    ∀ text, ofDocument text = .ok p → p.Numbered ∧
      (Snapshot.capture p now).toPattern.entries = p.entries ∧ (p.Faithful ↔ p.Flagged) := by
  refine ⟨Snapshot.toPattern_capture_iff p now, Made.faithful, fun text accepted => ?_⟩
  have numbered := (ofDocument_eq_ok_iff.mp accepted).2
  refine ⟨numbered, ?_, ?_⟩
  · rw [Snapshot.toPattern_capture_eq, ofCounts, entries, roundsOf_entries]
  · rw [faithful_iff, and_iff_right numbered]

/-- A plain round that is flagged as an increase. -/
def misflagged : Pattern := ⟨[⟨1, "6 sc", 6, true, false⟩]⟩

theorem ofDocument_misflagged : ofDocument misflagged.toDocument = .ok misflagged :=
  ofDocument_eq_ok_iff.mpr ⟨read?_toDocument (by decide), (numbered_iff _).mpr rfl⟩

theorem not_flagged_misflagged : ¬ misflagged.Flagged := by
  intro flagged
  have mentions := (flagged _ List.mem_cons_self).1.mp rfl
  rw [← Text.occurs_iff] at mentions
  revert mentions
  decide +kernel

/-- The ball survives a snapshot; of the misflagged round only count and text do. -/
theorem survives_snapshot_iff_ball_misflagged :
    Made ball ∧ (Snapshot.capture ball .millennium).toPattern = ball ∧
      ofDocument misflagged.toDocument = .ok misflagged ∧ misflagged.Numbered ∧
      (Snapshot.capture misflagged .millennium).toPattern.entries = [(6, "6 sc")] ∧
      ¬ misflagged.Faithful := by
  obtain ⟨survives, faithful, -⟩ := survives_snapshot_iff ball .millennium
  obtain ⟨-, -, accepted⟩ := survives_snapshot_iff misflagged .millennium
  obtain ⟨numbered, kept, flagged⟩ := accepted _ ofDocument_misflagged
  exact ⟨.ball, survives.mpr (faithful .ball), ofDocument_misflagged, numbered, kept,
    flagged.not.mpr not_flagged_misflagged⟩

/-- A document can be accepted for a pattern that its own snapshot does not stand for. -/
theorem misflagged_accepted :
    ofDocument misflagged.toDocument = .ok misflagged ∧
      misflagged.rounds[0]? = some ⟨1, "6 sc", 6, true, false⟩ ∧
      ¬("inc".toList <:+: "6 sc".toList) ∧
      (Snapshot.capture misflagged .millennium).toPattern ≠ misflagged := by
  have silent : ¬("inc".toList <:+: "6 sc".toList) := by
    rw [← Text.occurs_iff]
    decide +kernel
  have unfaithful : ¬ misflagged.Faithful :=
    fun faithful => not_flagged_misflagged ((faithful_iff _).mp faithful).2
  exact ⟨ofDocument_misflagged, rfl, silent,
    (Snapshot.toPattern_capture_iff _ _).not.mpr unfaithful⟩

end Pattern

end Crochet
