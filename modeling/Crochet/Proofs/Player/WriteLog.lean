/-
# Crochet.Proofs.Player.WriteLog -- what a run writes, and where

`entries` says which writes an operation attempts, from the player before it
and the player after it: under which key, of which pattern, with which
progress.  A store that notes every write it is asked for has noted exactly
these after a run, in order and nothing else, and the run is the one it would
have been without the notes.
-/
import Crochet.Proofs.Player.Keeping
import Mathlib.Data.List.Forall2

set_option autoImplicit false

namespace Crochet

/-! ## A store that takes notes -/

namespace Store

variable {σ : Type}

end Store

namespace Player

open Store

/-- The key and the text of a write. -/
def Write.request (w : Write) : String × String := (w.key, w.snapshot.text)

section

variable {σ : Type} (store : Store (StateM σ)) (clock : StateM σ Timestamp)

theorem carryOutAll_cons (action : Action) (rest : List Action) (s : σ) :
    carryOutAll store clock (action :: rest) s =
      let first := carryOut store clock action s
      let later := carryOutAll store clock rest first.2
      (first.1 ++ later.1, later.2) := rfl

end

/-! ## The writes of an operation -/

/-- A write that an operation calls for: its key, the pattern to be captured, and the progress to
be noted with it if there is any. -/
structure Entry where
  key : String
  pattern : Pattern
  cursor : Option Nat

namespace Entry

/-- The session in progress, with its progress. -/
def auto (pattern : Pattern) (cursor : Nat) : Entry := ⟨autosaveKey, pattern, some cursor⟩

/-- What the user saves, without progress. -/
def manual (pattern : Pattern) : Entry := ⟨manualKey, pattern, none⟩

/-- The snapshot that is to be written at an instant. -/
def snapshot (entry : Entry) (now : Timestamp) : Snapshot :=
  match entry.cursor with
  | some cursor => (Snapshot.capture entry.pattern now).withCursor cursor
  | none => Snapshot.capture entry.pattern now

end Entry

/-- The writes that an operation calls for, in order, from the player before it and the player
after it. -/
def entries (before after : Player) : Operation → List Entry
  | .load .. | .restore => [.auto after.pattern 0]
  | .advance =>
    if before.cursor < before.pattern.length then [.auto before.pattern (before.cursor + 1)] else []
  | .advanceAll =>
    (List.range' (before.cursor + 1) (before.pattern.length - before.cursor)).map
      (.auto before.pattern)
  | .reset => [.auto before.pattern 0]
  | .save => [.manual before.pattern]
  | .recover | .renew _ => []

/-- The write is the one called for, at some instant. -/
def Write.Meets (w : Write) (entry : Entry) : Prop :=
  w.key = entry.key ∧ ∃ now, w.snapshot = entry.snapshot now

/-- Climbing passes through every cursor up to the limit or the end of the pattern. -/
theorem climbs_entries (limit : Nat) (p : Player) :
    (climbs limit p).map (fun q => Entry.auto q.pattern q.cursor) =
      (List.range' (p.cursor + 1) (min limit (p.pattern.length - p.cursor))).map
        (.auto p.pattern) := by
  induction limit generalizing p with
  | zero => simp [climbs]
  | succ limit ih =>
      cases step : p.build? with
      | none =>
          have done := (build?_eq_none_iff p).mp step
          have nothing : p.pattern.length - p.cursor = 0 := by omega
          simp [climbs, step, nothing]
      | some built =>
          obtain ⟨ring, q, events⟩ := built
          obtain ⟨inside, rfl⟩ := build?_eq_some step
          have later := ih { p with rings := p.rings.push ring }
          simp only [cursor, Array.size_push] at later inside ⊢
          have split : min (limit + 1) (p.pattern.length - p.rings.size) =
              min limit (p.pattern.length - (p.rings.size + 1)) + 1 := by omega
          rw [split, List.range'_succ, List.map_cons, ← later]
          simp [climbs, step]

/-- The players that an operation passes through are what it calls to be written. -/
theorem stops_entries {op : Operation} (plays : op ≠ .save) (p : Player)
    (found : Option Snapshot) :
    (p.stops found op).map (fun q => Entry.auto q.pattern q.cursor) =
      entries p (p.played found op).player op := by
  cases op with
  | load text terms => rfl
  | advance =>
      refine (climbs_entries 1 p).trans ?_
      simp only [entries]
      split
      · rename_i inside
        rw [Nat.min_eq_left (by omega)]
        rfl
      · rename_i outside
        rw [Nat.min_eq_right (by omega), Nat.sub_eq_zero_of_le (by omega)]
        rfl
  | advanceAll =>
      refine (climbs_entries _ p).trans ?_
      rw [Nat.min_self]
      rfl
  | reset => rfl
  | save => exact absurd rfl plays
  | restore => cases found <;> rfl
  | recover => rfl
  | renew settings => rfl

/-! ## Operations that go on with their pattern -/

/-- The operation goes on with the pattern that is there. -/
def Operation.goesOn : Operation → Bool
  | .advance | .advanceAll | .reset | .save => true
  | _ => false

section

variable {σ : Type} (store : Store (StateM σ)) (clock : StateM σ Timestamp)

/-! ## The log -/

/-- A script writes every player that it saves, as it then stands. -/
theorem carryOutAll_meets (script : List Action) (s : σ) :
    List.Forall₂ Write.Meets (carryOutAll store clock script s).1.writes
      ((saved script).map fun q => Entry.auto q.pattern q.cursor) := by
  induction script generalizing s with
  | nil => exact .nil
  | cons action rest ih =>
      cases action with
      | report event => exact ih s
      | hand position ring => exact ih s
      | autosave p => exact .cons ⟨rfl, (clock s).1, rfl⟩ (ih _)

/-- **What an operation writes** is what it calls for. -/
theorem run_meets (p : Player) (op : Operation) (s : σ) :
    List.Forall₂ Write.Meets (run store clock p op s).1.trace.writes
      (entries p (run store clock p op s).1.player op) := by
  by_cases plays : op = .save
  · subst plays
    exact .cons ⟨rfl, (clock s).1, rfl⟩ .nil
  -- what is written is what the script saves, and a script saves the players passed through
  · rw [run_player, ← stops_entries plays, ← saved_played, run_apply store clock p plays]
    exact carryOutAll_meets store clock _ _

end

end Player

end Crochet
