/-
# Crochet.Proofs.Player.View -- what a view was handed is what the player holds

A view draws the rings that it is handed, and starts afresh where playing does:
with a new player, a new pattern, a reset, or a session that was recovered.
Building hands over the one ring that it adds, so every operation keeps the view
in step with the player (`enumerated_played`); by induction a run does, and at
every point of it the view has been handed each ring once, in order.
-/
import Crochet.Proofs.Player.Faults

set_option autoImplicit false

namespace Crochet.Player

/-- The rings of a player with their positions, in order. -/
def enumerated (p : Player) : List (Nat × Ring Float) := p.rings.toList.mapIdx Prod.mk

theorem enumerated_of_rings_empty {p : Player} (empty : p.rings = #[]) : p.enumerated = [] := by
  simp [enumerated, empty]

theorem enumerated_push (p : Player) (ring : Ring Float) :
    ({ p with rings := p.rings.push ring } : Player).enumerated =
      p.enumerated ++ [(p.cursor, ring)] := by
  simp [enumerated, cursor, List.mapIdx_append]

/-! ## Scripts -/

theorem handed_append (first second : List Action) :
    handed (first ++ second) = handed first ++ handed second := List.filterMap_append

/-- Reports hand over nothing. -/
theorem handed_reports (events : List Event) : handed (events.map Action.report) = [] := by
  induction events with
  | nil => rfl
  | cons event events ih => exact ih

/-- Of an advance only its ring is handed over. -/
theorem handed_built (q : Player) (position : Nat) (ring : Ring Float) :
    handed [.autosave q, .hand position ring] = [(position, ring)] := rfl

/-- What is built on the way up is handed over, ring by ring. -/
theorem enumerated_advanceUpTo (limit : Nat) (p : Player) :
    (advanceUpTo limit p).player.enumerated =
      p.enumerated ++ handed (advanceUpTo limit p).script := by
  induction limit generalizing p with
  | zero => exact (List.append_nil _).symm
  | succ limit ih =>
      simp only [advanceUpTo, advance?_eq]
      cases step : p.build? with
      | none => exact (List.append_nil _).symm
      | some built =>
          obtain ⟨ring, q, events⟩ := built
          obtain ⟨-, rfl⟩ := build?_eq_some step
          simp only [Option.map_some, ih, enumerated_push, handed_append, handed_reports,
            handed_built, List.append_assoc, List.nil_append]

theorem enumerated_rebuild (limit : Nat) (p : Player) :
    (rebuild limit p).player.enumerated = p.enumerated ++ handed (rebuild limit p).script := by
  induction limit generalizing p with
  | zero => exact (List.append_nil _).symm
  | succ limit ih =>
      simp only [rebuild]
      cases step : p.build? with
      | none => exact (List.append_nil _).symm
      | some built =>
          obtain ⟨ring, q, events⟩ := built
          obtain ⟨-, rfl⟩ := build?_eq_some step
          have later (script : List Action) :
              handed (.hand p.cursor ring :: script) = (p.cursor, ring) :: handed script := rfl
          simp only [ih, enumerated_push, handed_append, handed_reports, later, List.append_assoc,
            List.singleton_append, List.nil_append]

theorem enumerated_recover (p : Player) (s : Snapshot) :
    (p.recover s).player.enumerated = handed (p.recover s).script := by
  have fresh : (p.withPattern s.toPattern).enumerated = [] := enumerated_of_rings_empty rfl
  have rebuilt := enumerated_rebuild
    (min ((s.cursor.map UInt64.toNat).getD 0) s.toPattern.length) (p.withPattern s.toPattern)
  rw [fresh, List.nil_append] at rebuilt
  have report (event : Event) : handed [.report event] = [] := rfl
  rw [recover, handed_append, report, List.append_nil]
  exact rebuilt

/-! ## Operations -/

/-- The operation starts afresh when it found a snapshot, or none. -/
def Operation.restarts (found : Bool) : Operation → Bool
  | .load .. | .reset | .restore | .renew _ => true
  | .recover => found
  | .advance | .advanceAll | .save => false

/-- **An operation keeps a view in step**: after it the player holds the rings that it held before,
unless the operation starts afresh, and behind them those that were handed over. -/
theorem enumerated_played (p : Player) (found : Option Snapshot) (op : Operation) :
    (p.played found op).player.enumerated =
      (if op.restarts found.isSome then [] else p.enumerated) ++
        handed (p.played found op).script := by
  have idle : p.enumerated = p.enumerated ++ handed [] := (List.append_nil _).symm
  cases op with
  | load text terms =>
      have nothing : handed (p.load text terms).script = [] := by
        simp [load, handed, List.filterMap_map]
      exact (enumerated_of_rings_empty rfl).trans nothing.symm
  | advance =>
      have one := enumerated_advanceUpTo 1 p
      simp only [advanceUpTo] at one
      show (p.played found .advance).player.enumerated = p.enumerated ++ _
      simp only [played]
      cases step : p.advance? with
      | none => exact idle
      | some built => simpa [step] using one
  | advanceAll => exact enumerated_advanceUpTo _ p
  | reset => exact enumerated_of_rings_empty rfl
  | save => exact idle
  | restore => cases found <;> exact enumerated_of_rings_empty rfl
  | recover =>
      cases found with
      | none => exact idle
      | some snapshot => exact enumerated_recover p snapshot
  | renew settings => exact enumerated_of_rings_empty rfl

/-- An operation that was carried out started afresh: with a pattern, a player or a reset, or
because it recovered a session. -/
def startedAfresh : Operation × Outcome → Bool
  | (.load .., _) | (.reset, _) | (.restore, _) | (.renew _, _) => true
  | (.recover, o) =>
    match o.answer with
    | .found yes => yes
    | _ => false
  | (.advance, _) | (.advanceAll, _) | (.save, _) => false

/-- The last steps of a run, from the last one on that started afresh. -/
def sinceFresh : List (Operation × Outcome) → List (Operation × Outcome)
  | [] => []
  | step :: later => if later.any startedAfresh then sinceFresh later else step :: later

/-- What a view was handed since playing last started afresh, that step included. -/
def received (steps : List (Operation × Outcome)) : List (Nat × Ring Float) :=
  (sinceFresh steps).flatMap fun step => step.2.trace.handed

theorem sinceFresh_snoc (steps : List (Operation × Outcome)) (step : Operation × Outcome) :
    sinceFresh (steps ++ [step]) =
      if startedAfresh step then [step] else sinceFresh steps ++ [step] := by
  induction steps with
  | nil => simp [sinceFresh]
  | cons first later ih =>
      simp only [List.cons_append, sinceFresh, List.any_append, List.any_cons, List.any_nil, ih]
      cases startedAfresh step <;> cases later.any startedAfresh <;> simp

theorem received_snoc (steps : List (Operation × Outcome)) (step : Operation × Outcome) :
    received (steps ++ [step]) =
      (if startedAfresh step then [] else received steps) ++ step.2.trace.handed := by
  rw [received, sinceFresh_snoc]
  split <;> simp [received]

section

variable {σ : Type} (store : Store (StateM σ)) (clock : StateM σ Timestamp)

/-- What an operation hands over keeps a view in step, over any store. -/
theorem run_received (op : Operation) {p : Player} {steps : List (Operation × Outcome)}
    (inStep : received steps = p.enumerated) (s : σ) :
    received (steps ++ [(op, (run store clock p op s).1)]) =
      (run store clock p op s).1.player.enumerated := by
  rw [received_snoc, inStep]
  by_cases plays : op = .save
  · subst plays
    exact List.append_nil _
  · have fresh : startedAfresh (op, (run store clock p op s).1) =
        op.restarts (op.found store s).isSome := by
      cases op with
      | recover => simp only [startedAfresh, run_answer store clock p .recover plays, answered,
          Operation.restarts]
      | _ => rfl
    rw [fresh, run_handed store clock plays, run_player, enumerated_played]

/-- The players of a run: the first one, and the one after each operation. -/
def players (first : Player) (outcomes : List Outcome) : List Player :=
  first :: outcomes.map Outcome.player

theorem runAll_received_from (ops : List Operation) {p : Player}
    {steps : List (Operation × Outcome)} (inStep : received steps = p.enumerated) (s : σ) :
    ∀ n ≤ ops.length, ∃ q, (players p (runAll store clock p ops s).1.2)[n]? = some q ∧
      received (steps ++ (ops.zip (runAll store clock p ops s).1.2).take n) = q.enumerated := by
  induction ops generalizing p steps s with
  | nil =>
      intro n none
      obtain rfl : n = 0 := Nat.le_zero.mp none
      exact ⟨p, rfl, by simpa using inStep⟩
  | cons op rest ih =>
      intro n within
      cases n with
      | zero => exact ⟨p, rfl, by simpa using inStep⟩
      | succ n =>
          have next := run_received store clock op inStep s
          obtain ⟨q, isLater, same⟩ :=
            ih next (run store clock p op s).2 n (Nat.le_of_succ_le_succ within)
          refine ⟨q, ?_, ?_⟩
          · rw [runAll_cons]
            exact isLater
          · rw [runAll_cons]
            simpa using same

/-- A call that answers that there was nothing hands over nothing. -/
theorem run_handed_nothing (p : Player) (op : Operation) (s : σ)
    (nothing : (run store clock p op s).1.answer = .built none ∨
      (run store clock p op s).1.answer = .found false) :
    (run store clock p op s).1.trace.handed = [] := by
  by_cases plays : op = .save
  · subst plays
    rfl
  · rw [run_answer store clock p op plays] at nothing
    rw [run_handed store clock plays]
    cases op with
    | advance =>
        have done : p.advance? = none := by simpa [answered] using nothing
        simp [played, done, handed]
    | restore =>
        have unsaved : Operation.found store .restore s = none := by simpa [answered] using nothing
        rw [unsaved]
        rfl
    | recover =>
        have unsaved : Operation.found store .recover s = none := by simpa [answered] using nothing
        rw [unsaved]
        rfl
    | _ => simp [answered] at nothing

/-- **A view never misses, repeats or reorders a ring.**  At every point of any run over any store,
what was handed over since playing last started afresh are the rings that the player now holds,
each with its position, in order; and a call that answers that there was nothing to build or to
recover hands over nothing. -/
theorem runAll_received (settings : Settings) (ops : List Operation) (s : σ) :
    let outcomes := (runAll store clock (new settings) ops s).1.2
    (∀ n ≤ ops.length, ∃ q, (players (new settings) outcomes)[n]? = some q ∧
      received ((ops.zip outcomes).take n) = q.rings.toList.mapIdx Prod.mk) ∧
    ∀ (p : Player) (op : Operation) (now : σ),
      (run store clock p op now).1.answer = .built none ∨
        (run store clock p op now).1.answer = .found false →
      (run store clock p op now).1.trace.handed = [] := by
  have start : received [] = (new settings).enumerated := rfl
  exact ⟨runAll_received_from store clock ops start s,
    fun p op now => run_handed_nothing store clock p op now⟩

end

/-- A session that is played, continued by a new player from its auto-save, and played on to the
end of the pattern and past it. -/
def viewedOps : List Operation :=
  [.load "6 sc in MR\n[inc] x6\ninc" .us, .advance, .advance, .renew .usual, .recover, .advance,
    .advance]

/-- The session over a memory. -/
def viewedRan : (Player × List Outcome) × Memory :=
  runAll Memory.store (pure .millennium) (new .usual) viewedOps Memory.empty

theorem runAll_received_viewedOps :
    5 ≤ viewedOps.length ∧
      (∃ q, (players (new .usual) viewedRan.1.2)[5]? = some q ∧ q.cursor = 2 ∧
        received ((viewedOps.zip viewedRan.1.2).take 5) = q.rings.toList.mapIdx Prod.mk) ∧
      viewedRan.1.1.cursor = 3 ∧
      (run Memory.store (pure .millennium) viewedRan.1.1 .advance viewedRan.2).1.answer =
        .built none ∧
      (run Memory.store (pure .millennium) viewedRan.1.1 .advance
        viewedRan.2).1.trace.handed = [] := by
  have law := runAll_received Memory.store (pure .millennium) .usual viewedOps Memory.empty
  rw [← viewedRan] at law
  have inside : 5 ≤ viewedOps.length := by decide
  obtain ⟨q, isFifth, same⟩ := law.1 5 inside
  obtain ⟨cursors, last, rounds⟩ :
      (players (new .usual) viewedRan.1.2).map cursor = [0, 0, 1, 2, 0, 2, 3, 3] ∧
        viewedRan.1.1.cursor = 3 ∧ viewedRan.1.1.pattern.length = 3 := by decide +kernel
  have progress : (players (new .usual) viewedRan.1.2)[5]?.map cursor = some 2 := by
    rw [← List.getElem?_map, cursors]
    rfl
  rw [isFifth] at progress
  have done : viewedRan.1.1.advance? = none := by
    rw [advance?_eq, (build?_eq_none_iff _).mpr (Nat.le_of_eq (rounds.trans last.symm))]
    rfl
  have answer : (run Memory.store (pure .millennium) viewedRan.1.1 .advance
      viewedRan.2).1.answer = .built none := by
    rw [run_answer Memory.store (pure .millennium) _ .advance (by simp)]
    simp [answered, done]
  exact ⟨inside, ⟨q, isFifth, Option.some.inj progress, same⟩, last, answer,
    law.2 viewedRan.1.1 .advance viewedRan.2 (.inl answer)⟩

end Crochet.Player
