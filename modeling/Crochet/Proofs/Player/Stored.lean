/-
# Crochet.Proofs.Player.Stored -- recovering from whatever is stored

A store may fail, hold nothing, or hold any text.  Recovering from what is no
snapshot does nothing at all.  Recovering from a snapshot depends on the
settings and the snapshot alone, whatever was played before: its pattern is
played from the start, up to the cursor that it names or to the end of the
pattern if that is less.  So recovering once more changes nothing, and no
recovery writes.
-/
import Crochet.Proofs.Player.Recovery
import Crochet.Proofs.Player.View
import Crochet.Proofs.Player.WriteLog

set_option autoImplicit false

namespace Crochet.Player

/-! ## Recovering from a snapshot -/

/-- Of the player before, only its settings matter. -/
theorem recover_congr {p q : Player} (same : p.settings = q.settings) (snapshot : Snapshot) :
    p.recover snapshot = q.recover snapshot := by
  have fresh : p.withPattern snapshot.toPattern = q.withPattern snapshot.toPattern := by
    rw [withPattern, withPattern, same]
  rw [recover, recover, fresh]

/-- Recovering once more from the same plays the same. -/
theorem played_recover_again (p : Player) (found : Option Snapshot) :
    (p.played found .recover).player.played found .recover = p.played found .recover := by
  cases found with
  | none => rfl
  | some snapshot =>
      have settings : (p.recover snapshot).player.settings = p.settings :=
        (recover_spec p snapshot).2.1
      exact recover_congr settings snapshot

/-! ## Recovering over a store -/

section

variable {σ : Type} (store : Store (StateM σ)) (clock : StateM σ Timestamp)

/-- What is found is what the read says, if that is a snapshot. -/
theorem found_recover (s : σ) :
    Operation.found store .recover s =
      (Store.decode Store.autosaveKey (store.read Store.autosaveKey s).1).1 := rfl

/-- Recovering attempts no write, and only the read touches the store. -/
theorem run_recover_writes (p : Player) (s : σ) :
    (run store clock p .recover s).1.trace.writes = [] ∧
      (run store clock p .recover s).2 = (store.read Store.autosaveKey s).2 := by
  constructor
  · exact List.forall₂_nil_right_iff.mp (run_meets store clock p .recover s)
  · rw [run_apply store clock p (by simp)]
    exact carryOutAll_of_saved_nil (saved_played p _ .recover) _

theorem run_recover_none {s : σ} (unread : Operation.found store .recover s = none) (p : Player) :
    (run store clock p .recover s).1.answer = .found false ∧
      (run store clock p .recover s).1.player = p ∧
      (run store clock p .recover s).1.trace.handed = [] := by
  refine ⟨?_, ?_, ?_⟩
  · rw [run_answer store clock p .recover (by simp), unread]
    rfl
  · rw [run_player, unread]
    rfl
  · rw [run_handed store clock (by simp), unread]
    rfl

theorem run_recover_some {s : σ} {snapshot : Snapshot}
    (read : Operation.found store .recover s = some snapshot) (p : Player) :
    (run store clock p .recover s).1.answer = .found true ∧
      (run store clock p .recover s).1.player = (p.recover snapshot).player ∧
      (run store clock p .recover s).1.trace.handed = (p.recover snapshot).player.enumerated := by
  refine ⟨?_, ?_, ?_⟩
  · rw [run_answer store clock p .recover (by simp), read]
    rfl
  · rw [run_player, read]
    rfl
  · rw [run_handed store clock (by simp), read, enumerated_recover]
    rfl

theorem run_recover_again (p : Player) {s t : σ}
    (same : Operation.found store .recover t = Operation.found store .recover s) :
    let first := (run store clock p .recover s).1
    let again := (run store clock first.player .recover t).1
    again.player = first.player ∧ again.answer = first.answer ∧
      again.trace.handed = first.trace.handed := by
  intro first again
  have player : first.player = (p.played (Operation.found store .recover s) .recover).player :=
    run_player store clock p .recover s
  have played : first.player.played (Operation.found store .recover t) .recover =
      p.played (Operation.found store .recover s) .recover := by
    rw [same, player]
    exact played_recover_again p _
  refine ⟨?_, ?_, ?_⟩
  · rw [run_player, played, player]
  · rw [run_answer store clock _ .recover (by simp), run_answer store clock _ .recover (by simp),
      answered, answered, same]
  · rw [run_handed store clock (by simp), run_handed store clock (by simp), played]

/-- The positions of a player's rings, one after another. -/
theorem enumerated_positions (p : Player) :
    p.enumerated.map Prod.fst = List.range p.cursor := by
  rw [enumerated, cursor]
  apply List.ext_getElem
  · simp
  · intro i inside within
    simp

/-- **Recovering is all or nothing, whatever is stored**, for any player.  When the read fails or
what it finds is no snapshot, the answer is that nothing was found, the player is what it was and
nothing is handed over.  Otherwise the player has the pattern of the snapshot and as many rings as
its cursor says, but no more than there are rounds, and each of these is handed over once, in
order.  Nothing is written in either case, and recovering once more from what reads the same
changes nothing and answers the same. -/
theorem run_recover_stored (p : Player) (s : σ) :
    let read := (store.read Store.autosaveKey s).1
    let ran := run store clock p .recover s
    let q := ran.1.player
    ((∃ fault, read = .error fault) ∨ read = .ok none ∨
        (∃ text, read = .ok (some text) ∧ Snapshot.ofString? text = none) →
      ran.1.answer = .found false ∧ q = p ∧ ran.1.trace.handed = []) ∧
    (∀ text snapshot, read = .ok (some text) → Snapshot.ofString? text = some snapshot →
      ran.1.answer = .found true ∧ q.settings = p.settings ∧ q.pattern = snapshot.toPattern ∧
      q.cursor = min ((snapshot.cursor.map UInt64.toNat).getD 0) q.pattern.length ∧
      ran.1.trace.handed = q.rings.toList.mapIdx Prod.mk ∧
      ran.1.trace.handed.map Prod.fst = List.range q.cursor) ∧
    ran.1.trace.writes = [] ∧ ran.2 = (store.read Store.autosaveKey s).2 ∧
    ∀ t : σ, (store.read Store.autosaveKey t).1 = read →
      let again := run store clock q .recover t
      again.1.player = q ∧ again.1.answer = ran.1.answer ∧
        again.1.trace.handed = ran.1.trace.handed := by
  intro read ran q
  have found : Operation.found store .recover s = (Store.decode Store.autosaveKey read).1 :=
    found_recover store s
  obtain ⟨writes, untouched⟩ := run_recover_writes store clock p s
  refine ⟨?_, ?_, writes, untouched, ?_⟩
  · intro unreadable
    apply run_recover_none
    rcases unreadable with ⟨fault, failed⟩ | nothing | ⟨text, stored, corrupt⟩
    · rw [found, failed]
      rfl
    · rw [found, nothing]
      rfl
    · rw [found, stored, Store.decode, corrupt]
  · intro text snapshot stored readable
    have held : Operation.found store .recover s = some snapshot := by
      rw [found, stored, Store.decode, readable]
    obtain ⟨answer, player, handed⟩ := run_recover_some store clock held p
    have player : q = (p.recover snapshot).player := player
    obtain ⟨-, settings, pattern, cursor⟩ := recover_spec p snapshot
    rw [← player] at settings pattern cursor handed
    have positions : ran.1.trace.handed.map Prod.fst = List.range q.cursor := by
      rw [← enumerated_positions, ← handed]
    exact ⟨answer, settings, pattern, cursor, handed, positions⟩
  · intro t same
    apply run_recover_again
    rw [found_recover, found_recover, same]

end

/-- A session of three rounds, the second without a stitch, that claims the greatest progress. -/
def overrun : Snapshot :=
  (Snapshot.capture (.ofCounts [(6, "6 sc in MR"), (0, ""), (12, "inc")]) .millennium).withCursor
    18446744073709551615

/-- A player within the ball. -/
def midway : Player where
  settings := .usual
  pattern := .ball
  rings := #[Ring.build 6 1 0 .usual]

theorem run_recover_stored_overrun :
    let recovered := run Memory.store (pure .millennium) midway .recover
      [(Store.autosaveKey, overrun.text)]
    let refused := run Memory.store (pure .millennium) midway .recover
      [(Store.autosaveKey, overrun.text ++ ",")]
    recovered.1.answer = .found true ∧ recovered.1.player.cursor = 3 ∧
      recovered.1.trace.handed.map Prod.fst = [0, 1, 2] ∧
      refused.1.answer = .found false ∧ refused.1.player = midway := by
  have law := run_recover_stored Memory.store (pure .millennium) midway
    [(Store.autosaveKey, overrun.text)]
  have refusal := run_recover_stored Memory.store (pure .millennium) midway
    [(Store.autosaveKey, overrun.text ++ ",")]
  have settled : overrun.settled = overrun := overrun.settled_eq_self_iff.mpr (.inl (by decide))
  have stored := Snapshot.ofString?_text overrun
  rw [settled] at stored
  obtain ⟨answer, -, pattern, cursor, -, positions⟩ := law.2.1 overrun.text overrun rfl stored
  have rounds : overrun.toPattern.length = 3 := by decide +kernel
  have progress : (overrun.cursor.map UInt64.toNat).getD 0 = 18446744073709551615 := by
    decide +kernel
  rw [pattern, rounds, progress] at cursor
  have corrupt : Snapshot.ofString? (overrun.text ++ ",") = none := by decide +kernel
  obtain ⟨unfound, same, -⟩ := refusal.1 (.inr (.inr ⟨_, rfl, corrupt⟩))
  refine ⟨answer, cursor, ?_, unfound, same⟩
  rw [positions, cursor]
  rfl

end Crochet.Player
