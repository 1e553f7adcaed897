/-
# Crochet.Proofs.Player.Recovery -- what comes back after a run

Two laws about a store that keeps, with any number of failing writes and reads
along the way.  After any run, `recover` on a new player brings back the player
of the last auto-save that worked, and `restore` brings back the pattern of the
last save that worked, whatever was played or auto-saved in between.
-/
import Crochet.Proofs.Player.Keeping

set_option autoImplicit false

namespace Crochet.Player

variable {σ : Type} {store : Store (StateM σ)} {clock : StateM σ Timestamp}
  {held : σ → String → Option String}

/-- What an operation that reads finds is the snapshot of the last write under its key that
worked, with its time settled. -/
theorem found_eq_lastKept (keeps : store.Keeps clock held) {key : String} (settings : Settings)
    (ops : List Operation) (s : σ) (nothing : held s key = none)
    (works : (store.read key (runAll store clock (new settings) ops s).2).1.isOk) :
    (Store.decode key (store.read key (runAll store clock (new settings) ops s).2).1).1 =
      (lastKept key (writesOf (runAll store clock (new settings) ops s).1.2)).map
        fun w => w.snapshot.settled :=
  (runAll_tally keeps ops (new_sound settings) s).decode_read keeps nothing works

/-! ## Recovering -/

/-- When a snapshot was taken does not matter to recovering from it. -/
theorem recover_settled (p : Player) (snapshot : Snapshot) :
    p.recover snapshot.settled = p.recover snapshot := rfl

/-- The snapshot's pattern is built up to the cursor that it names, or to its end. -/
theorem recover_spec (p : Player) (snapshot : Snapshot) :
    let q := (p.recover snapshot).player
    q.Built ∧ q.settings = p.settings ∧ q.pattern = snapshot.toPattern ∧
      q.cursor = min ((snapshot.cursor.map UInt64.toNat).getD 0) q.pattern.length := by
  intro q
  have isClimb : q = climb _ (p.withPattern snapshot.toPattern) := recover_player p snapshot
  obtain ⟨built, settings, pattern, cursor⟩ := climb_spec
    (min ((snapshot.cursor.map UInt64.toNat).getD 0) snapshot.toPattern.length)
    (p.withPattern snapshot.toPattern) (withPattern_built p snapshot.toPattern)
  rw [← isClimb] at built settings pattern cursor
  have fresh : (p.withPattern snapshot.toPattern).cursor = 0 := rfl
  have whole : (p.withPattern snapshot.toPattern).pattern = snapshot.toPattern := rfl
  refine ⟨built, settings, pattern, ?_⟩
  rw [cursor, pattern, fresh, whole]
  omega

/-- Recovering from a snapshot of the session in progress gives the player that was saved, under
the settings of the player that recovers. -/
theorem recover_write {w : Write} (honest : w.Honest) (auto : w.key = Store.autosaveKey)
    (p : Player) :
    (p.recover w.snapshot).player.Built ∧
      (p.recover w.snapshot).player.settings = p.settings ∧
      (p.recover w.snapshot).player.pattern = w.player.pattern ∧
      (w.player.cursor < UInt64.size → (p.recover w.snapshot).player.cursor = w.player.cursor) := by
  obtain ⟨built, settings, pattern, cursor⟩ := recover_spec p w.snapshot
  rw [honest.pattern] at pattern
  refine ⟨built, settings, pattern, ?_⟩
  intro word
  have within : w.player.cursor ≤ w.player.pattern.length := honest.sound.built.cursor_le
  have sameWord : (UInt64.ofNat w.player.cursor).toNat = w.player.cursor :=
    UInt64.toNat_ofNat_of_lt' word
  rw [cursor, pattern, honest.cursor auto, Option.map_some, Option.getD_some, sameWord]
  omega

/-- **Crash recovery loses nothing that was auto-saved.**  A new player that recovers after a run
finds something unless every auto-save of the run failed, and then has the pattern and the
cursor of the player of the last auto-save that worked; under the same settings it has its
rings.  A cursor is a machine word. -/
theorem recover_after_runAll (keeps : store.Keeps clock held) (settings fresh : Settings)
    (ops : List Operation) (s : σ) (nothing : held s Store.autosaveKey = none)
    (works : (store.read Store.autosaveKey (runAll store clock (new settings) ops s).2).1.isOk) :
    let ran := runAll store clock (new settings) ops s
    let last := lastKept Store.autosaveKey (writesOf ran.1.2)
    let recovered := (run store clock (new fresh) .recover ran.2).1
    (recovered.answer = .found false ↔
      ∀ w ∈ writesOf ran.1.2, w.key = Store.autosaveKey → w.worked = false) ∧
    ∀ w, last = some w →
      recovered.answer = .found true ∧
      recovered.player.pattern = w.player.pattern ∧
      (w.player.cursor < UInt64.size →
        recovered.player.cursor = w.player.cursor ∧
        (fresh = w.player.settings → recovered.player.rings = w.player.rings)) := by
  intro ran last recovered
  have finds : Operation.found store .recover ran.2 = last.map fun w => w.snapshot.settled :=
    found_eq_lastKept keeps settings ops s nothing works
  have answer : recovered.answer = .found last.isSome := by
    have := run_answer store clock (new fresh) .recover (by simp) ran.2
    simpa [answered, finds] using this
  constructor
  · rw [← lastKept_eq_none_iff, answer]
    show Answer.found last.isSome = .found false ↔ last = none
    cases last <;> simp
  · intro w isLast
    have player : recovered.player = ((new fresh).recover w.snapshot).player := by
      have := run_player store clock (new fresh) .recover ran.2
      simpa [played, finds, isLast, recover_settled] using this
    obtain ⟨inside, auto, -⟩ := mem_of_lastKept isLast
    have honest := (runAll_tally keeps ops (new_sound settings) s).honest w inside
    obtain ⟨built, same, pattern, cursor⟩ := recover_write honest auto (new fresh)
    rw [player]
    refine ⟨by rw [answer, isLast]; rfl, pattern, fun word => ⟨cursor word, fun config => ?_⟩⟩
    exact built.rings_congr honest.sound.built (same.trans config) pattern (cursor word)

/-- Two patterns are loaded and saved, and the second is built. -/
def sampleOps : List Operation :=
  [.load "6 sc in MR\ninc x6" .us, .save, .load "8 sc in MR\n8 sc" .us, .save, .advance, .advance]

/-- The operations over a memory that refuses the second save and the last auto-save. -/
def sampleRan : (Player × List Outcome) × Memory × List Bool :=
  runAll (Store.faulty Memory.store) (pure .millennium) (new .usual) sampleOps
    (Memory.empty, [false, false, false, true, false, true])

theorem recover_after_sampleRan :
    let recovered :=
      (run (Store.faulty Memory.store) (pure .millennium) (new .usual) .recover sampleRan.2).1
    sampleRan.1.1.cursor = 2 ∧ recovered.answer = .found true ∧
      recovered.player.pattern = .parse "8 sc in MR\n8 sc" ∧ recovered.player.cursor = 1 := by
  have law := recover_after_runAll
    (Store.faulty_keeps (Memory.store_keeps .millennium) .millennium) .usual .usual sampleOps
    (Memory.empty, [false, false, false, true, false, true]) rfl (by decide +kernel)
  have both : sampleRan.1.1.cursor = 2 := by decide +kernel
  have last : (lastKept Store.autosaveKey (writesOf sampleRan.1.2)).map
      (fun w => (w.player.pattern, w.player.cursor)) = some (.parse "8 sc in MR\n8 sc", 1) := by
    decide +kernel
  rw [← sampleRan] at law
  obtain ⟨w, isLast, same⟩ := Option.map_eq_some_iff.mp last
  obtain ⟨samePattern, sameCursor⟩ := Prod.mk.inj same
  have word : w.player.cursor < UInt64.size := by rw [sameCursor]; decide
  obtain ⟨answer, pattern, progress⟩ := law.2 w isLast
  exact ⟨both, answer, pattern.trans samePattern, (progress word).1.trans sameCursor⟩

/-! ## Restoring -/

/-- The operation was a save that worked. -/
def Outcome.keptSave (o : Outcome) : Bool :=
  match o.answer with
  | .saved (.ok ()) => true
  | _ => false

/-- The saves that worked, in order. -/
def keptSaves (outcomes : List Outcome) : List Outcome := outcomes.filter Outcome.keptSave

/-- Whatever an operation but `save` writes is an auto-save, and it answers no save. -/
theorem run_autosaves (store : Store (StateM σ)) (clock : StateM σ Timestamp) {op : Operation}
    (plays : op ≠ .save) (p : Player) (s : σ) :
    (∀ w ∈ (run store clock p op s).1.trace.writes, w.key = Store.autosaveKey) ∧
      (run store clock p op s).1.keptSave = false := by
  constructor
  · rw [run_eq store clock p plays]
    exact carryOutAll_keys _ _
  · rw [Outcome.keptSave, run_answer store clock p op plays]
    cases op <;> simp [answered]

/-- Saving attempts one write, of the player that saves, and answers how it ended. -/
theorem run_save (store : Store (StateM σ)) (clock : StateM σ Timestamp) (p : Player) (s : σ) :
    ∃ w : Write, w.key = Store.manualKey ∧ w.player = p ∧
      (run store clock p .save s).1 = ⟨p, .saved w.result, .wrote w⟩ :=
  ⟨_, rfl, rfl, rfl⟩

/-- The last manual write that worked is the last save that worked. -/
theorem runAll_keptSaves (settings : Settings) (ops : List Operation) (s : σ) :
    (lastKept Store.manualKey
        (writesOf (runAll store clock (new settings) ops s).1.2)).map Write.player =
      (keptSaves (runAll store clock (new settings) ops s).1.2).getLast?.map Outcome.player := by
  refine runAll_induction store clock
    (motive := fun _ past _ => (lastKept Store.manualKey (writesOf past)).map Write.player =
      (keptSaves past).getLast?.map Outcome.player)
    (fun p past s op same => ?_) ops rfl
  by_cases plays : op = .save
  · subst plays
    obtain ⟨w, key, player, outcome⟩ := run_save store clock p s
    rw [outcome, writesOf_snoc]
    show (lastKept Store.manualKey (writesOf past ++ [w])).map Write.player = _
    rw [lastKept_snoc]
    cases result : w.result with
    | ok =>
        have worked : w.worked = true := by simp [Write.worked, result]
        simp [key, worked, keptSaves, Outcome.keptSave, player]
    | error fault =>
        have failed : w.worked = false := by simp [Write.worked, result]
        have saves : keptSaves (past ++ [⟨p, .saved (.error fault), .wrote w⟩]) =
            keptSaves past := by
          simp [keptSaves, Outcome.keptSave]
        simpa [failed, saves] using same
  · obtain ⟨keys, kept⟩ := run_autosaves store clock plays p s
    have apart : Store.autosaveKey ≠ Store.manualKey := by decide
    have log : lastKept Store.manualKey (writesOf (past ++ [(run store clock p op s).1])) =
        lastKept Store.manualKey (writesOf past) := by
      rw [writesOf_snoc]
      exact lastKept_append_of_ne _ _ fun w inside => keys w inside ▸ apart
    have saves : keptSaves (past ++ [(run store clock p op s).1]) = keptSaves past := by
      simp [keptSaves, kept]
    rw [log, saves, same]

/-- **Saves are never disturbed by playing.**  Restoring at any moment of a run finds something
exactly when an earlier save worked, and then the pattern is the one that the last such save
kept; otherwise it is the ball.  No ring is left. -/
theorem restore_after_runAll (keeps : store.Keeps clock held) (settings : Settings)
    (ops : List Operation) (s : σ) (nothing : held s Store.manualKey = none)
    (works : (store.read Store.manualKey (runAll store clock (new settings) ops s).2).1.isOk) :
    let ran := runAll store clock (new settings) ops s
    let saves := keptSaves ran.1.2
    let restored := (run store clock ran.1.1 .restore ran.2).1
    restored.answer = .found (!saves.isEmpty) ∧
      restored.player.pattern =
        ((saves.getLast?.map fun save => save.player.pattern).getD .ball) ∧
      restored.player.cursor = 0 ∧ restored.player.rings = #[] := by
  intro ran saves restored
  let last := lastKept Store.manualKey (writesOf ran.1.2)
  have same : last.map Write.player = saves.getLast?.map Outcome.player :=
    runAll_keptSaves settings ops s
  have finds : Operation.found store .restore ran.2 = last.map fun w => w.snapshot.settled :=
    found_eq_lastKept keeps settings ops s nothing works
  have answer : restored.answer = .found last.isSome := by
    have := run_answer store clock ran.1.1 .restore (by simp) ran.2
    simpa [answered, finds] using this
  have player : restored.player = (ran.1.1.restore (last.map fun w => w.snapshot.settled)).player := by
    have := run_player store clock ran.1.1 .restore ran.2
    simpa only [played, finds] using this
  rw [answer, player]
  cases isLast : last with
  | none =>
      have unsaved : saves = [] := by simpa [isLast] using same.symm
      rw [unsaved]
      exact ⟨rfl, rfl, rfl, rfl⟩
  | some w =>
      rw [isLast] at same
      obtain ⟨save, isSave, saved⟩ := Option.map_eq_some_iff.mp same.symm
      have anySave : saves ≠ [] := fun unsaved => by simp [unsaved] at isSave
      have honest := (runAll_tally keeps ops (new_sound settings) s).honest w
        (mem_of_lastKept isLast).1
      refine ⟨?_, ?_, rfl, rfl⟩
      · simp [anySave]
      · rw [isSave]
        show w.snapshot.settled.toPattern = save.player.pattern
        rw [Snapshot.toPattern_settled, honest.pattern, saved]

theorem restore_after_sampleRan :
    let restored :=
      (run (Store.faulty Memory.store) (pure .millennium) sampleRan.1.1 .restore sampleRan.2).1
    restored.answer = .found true ∧ restored.player.pattern = .parse "6 sc in MR\ninc x6" ∧
      restored.player.cursor = 0 := by
  have law := restore_after_runAll
    (Store.faulty_keeps (Memory.store_keeps .millennium) .millennium) .usual sampleOps
    (Memory.empty, [false, false, false, true, false, true]) rfl (by decide +kernel)
  have anySave : (keptSaves sampleRan.1.2).isEmpty = false := by decide +kernel
  have last : (keptSaves sampleRan.1.2).getLast?.map (fun save => save.player.pattern) =
      some (.parse "6 sc in MR\ninc x6") := by decide +kernel
  rw [← sampleRan] at law
  obtain ⟨answer, pattern, cursor, -⟩ := law
  exact ⟨by rw [answer, anySave]; rfl, by rw [pattern, last]; rfl, cursor⟩

end Crochet.Player
