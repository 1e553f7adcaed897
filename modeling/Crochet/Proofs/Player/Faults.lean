/-
# Crochet.Proofs.Player.Faults -- playing never learns how a store fared

An operation that reads nothing plays the same over every store: what it hands
over is in its script, and a script carries no result of a write.  So two runs
of such operations over any two stores, failing wherever they like, go through
the same players with the same answers and the same rings.  Only `save` tells
how its write ended, and changes nothing.
-/
import Crochet.Proofs.Player.Sessions
import Crochet.Proofs.Store

set_option autoImplicit false

namespace Crochet.Player

/-- The rings that a script hands over, with their positions. -/
def handed (script : List Action) : List (Nat × Ring Float) :=
  script.filterMap fun
    | .hand position ring => some (position, ring)
    | _ => none

/-- The operation does not ask the store for anything. -/
def Operation.readsNothing : Operation → Bool
  | .restore | .recover => false
  | _ => true

/-- Two outcomes of an operation that look the same from outside: the same player, the same answer
unless it is how a save went, and the same rings handed over. -/
structure Outcome.Alike (op : Operation) (a b : Outcome) : Prop where
  player : a.player = b.player
  answer : op ≠ .save → a.answer = b.answer
  handed : a.trace.handed = b.trace.handed

section

variable {σ τ : Type} (store : Store (StateM σ)) (clock : StateM σ Timestamp)
  (other : Store (StateM τ)) (otherClock : StateM τ Timestamp)

/-! ## One operation -/

theorem carryOutAll_handed (script : List Action) (s : σ) :
    (carryOutAll store clock script s).1.handed = handed script := by
  induction script generalizing s with
  | nil => rfl
  | cons action rest ih =>
      cases action with
      | report event => exact ih s
      | hand position ring => exact congrArg ((position, ring) :: ·) (ih s)
      | autosave p => exact ih _

theorem run_handed {op : Operation} (plays : op ≠ .save) (p : Player) (s : σ) :
    (run store clock p op s).1.trace.handed =
      handed (p.played (op.found store s) op).script := by
  rw [run_apply store clock p plays]
  exact carryOutAll_handed store clock _ _

theorem found_eq_none {op : Operation} (blind : op.readsNothing = true) (s : σ) :
    op.found store s = none := by
  cases op with
  | restore => cases blind
  | recover => cases blind
  | _ => rfl

/-- Saving changes nothing of the player and answers how its write ended. -/
theorem run_save_eq (p : Player) (s : σ) :
    (run store clock p .save s).1.player = p ∧
      (run store clock p .save s).1.answer = .saved (store.write Store.manualKey
        (Snapshot.capture p.pattern (clock s).1).text (clock s).2).1 ∧
      (run store clock p .save s).1.trace.handed = [] := ⟨rfl, rfl, rfl⟩

/-- An operation that reads nothing looks the same over any two stores. -/
theorem run_alike {op : Operation} (blind : op.readsNothing = true) (p : Player) (s : σ) (t : τ) :
    Outcome.Alike op (run store clock p op s).1 (run other otherClock p op t).1 where
  player := by
    rw [run_player, run_player, found_eq_none store blind, found_eq_none other blind]
  answer plays := by
    rw [run_answer store clock p op plays, run_answer other otherClock p op plays,
      found_eq_none store blind, found_eq_none other blind]
  handed := by
    by_cases plays : op = .save
    · subst plays
      rfl
    · rw [run_handed store clock plays, run_handed other otherClock plays,
        found_eq_none store blind, found_eq_none other blind]

/-! ## Many operations -/

theorem runAll_alike_of_readsNothing (ops : List Operation)
    (blind : ∀ op ∈ ops, op.readsNothing = true) (p : Player) (s : σ) (t : τ) :
    ∀ (i : Nat) (op : Operation), ops[i]? = some op →
      ∃ a b, (runAll store clock p ops s).1.2[i]? = some a ∧
        (runAll other otherClock p ops t).1.2[i]? = some b ∧ Outcome.Alike op a b := by
  induction ops generalizing p s t with
  | nil =>
      intro i op found
      cases found
  | cons first rest ih =>
      have here := run_alike store clock other otherClock (blind first List.mem_cons_self) p s t
      intro i op found
      -- both runs go on from the same player, whatever became of their stores
      simp only [runAll_cons, here.player]
      cases i with
      | zero =>
          obtain rfl : first = op := Option.some.inj found
          exact ⟨_, _, rfl, rfl, here⟩
      | succ i =>
          exact ih (fun op later => blind op (List.mem_cons_of_mem first later)) _ _ _ i op found

/-- **Store faults never influence playback.**  Two runs of the same operations from the same
player, none of which reads, over any two stores and clocks, agree after every call on the
pattern, the rings, the cursor and the standing, on the answer unless the call was a save, and
on the rings that were handed over.  A save leaves the player as it was and answers that it
failed exactly when its write did. -/
theorem runAll_alike (ops : List Operation) (blind : ∀ op ∈ ops, op.readsNothing = true)
    (p : Player) (s : σ) (t : τ) :
    (∀ (i : Nat) (op : Operation), ops[i]? = some op →
      ∃ a b, (runAll store clock p ops s).1.2[i]? = some a ∧
        (runAll other otherClock p ops t).1.2[i]? = some b ∧
        a.player.pattern = b.player.pattern ∧ a.player.rings = b.player.rings ∧
        a.player.cursor = b.player.cursor ∧ a.player.standing = b.player.standing ∧
        (op ≠ .save → a.answer = b.answer) ∧ a.trace.handed = b.trace.handed) ∧
    ∀ (q : Player) (now : σ),
      let saved := (run store clock q .save now).1
      let snapshot := Snapshot.capture q.pattern (clock now).1
      saved.player.pattern = q.pattern ∧ saved.player.rings = q.rings ∧
        saved.player.cursor = q.cursor ∧
        ((∃ fault, saved.answer = .saved (.error fault)) ↔
          ∃ fault, (store.write Store.manualKey snapshot.text (clock now).2).1 = .error fault) := by
  constructor
  · intro i op found
    obtain ⟨a, b, isA, isB, alike⟩ :=
      runAll_alike_of_readsNothing store clock other otherClock ops blind p s t i op found
    have same := alike.player
    refine ⟨a, b, isA, isB, ?_, ?_, ?_, ?_, alike.answer, alike.handed⟩ <;> rw [same]
  · intro q now saved snapshot
    obtain ⟨player, answer, -⟩ := run_save_eq store clock q now
    have player : saved.player = q := player
    refine ⟨by rw [player], by rw [player], by rw [player], ?_⟩
    have answer : saved.answer = .saved (store.write Store.manualKey snapshot.text (clock now).2).1 :=
      answer
    rw [answer]
    simp

end

/-- A pattern is loaded, built in part, saved, built to its end, and started again. -/
def unreadOps : List Operation :=
  [.load "6 sc in MR\n[inc] x6\ninc" .us, .advance, .save, .advanceAll, .reset]

/-- The operations over a memory that keeps everything. -/
def keptRan : (Player × List Outcome) × Memory :=
  runAll Memory.store (pure .millennium) (new .usual) unreadOps Memory.empty

/-- The operations over a memory that refuses everything. -/
def refusedRan : (Player × List Outcome) × Memory × List Bool :=
  runAll (Store.faulty Memory.store) (pure .millennium) (new .usual) unreadOps
    (Memory.empty, List.replicate 6 true)

theorem runAll_alike_unreadOps :
    (∀ op ∈ unreadOps, op.readsNothing = true) ∧ keptRan.2.length = 2 ∧ refusedRan.2.1 = [] ∧
      ∃ a b, keptRan.1.2[3]? = some a ∧ refusedRan.1.2[3]? = some b ∧ a.player.cursor = 3 ∧
        a.player.rings = b.player.rings ∧ a.answer = b.answer ∧
        a.trace.handed = b.trace.handed := by
  have blind : ∀ op ∈ unreadOps, op.readsNothing = true := by
    simp [unreadOps, Operation.readsNothing]
  have bothKept : keptRan.2.length = 2 := by decide +kernel
  have noneKept : refusedRan.2.1 = [] := by decide +kernel
  have cursors : keptRan.1.2.map (fun o => o.player.cursor) = [0, 1, 1, 3, 0] := by decide +kernel
  have law := (runAll_alike Memory.store (pure .millennium) (Store.faulty Memory.store)
    (pure .millennium) unreadOps blind (new .usual) Memory.empty
    (Memory.empty, List.replicate 6 true)).1 3 .advanceAll rfl
  rw [← keptRan, ← refusedRan] at law
  obtain ⟨a, b, isA, isB, -, rings, -, -, answer, handed⟩ := law
  have cursor : keptRan.1.2[3]?.map (fun o => o.player.cursor) = some 3 := by
    rw [← List.getElem?_map, cursors]
    rfl
  rw [isA] at cursor
  exact ⟨blind, bothKept, noneKept, a, b, isA, isB, Option.some.inj cursor, rings,
    answer (by simp), handed⟩

end Crochet.Player
