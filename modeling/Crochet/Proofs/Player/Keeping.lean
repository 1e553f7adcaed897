/-
# Crochet.Proofs.Player.Keeping -- what a store keeps of a run

Along a run, `Tally` compares a store that keeps with the log of the writes
attempted so far: under every key stands the text of the last write that
worked, and every write is an honest snapshot of the player that made it.
Reading a snapshot back only settles its time, so what an operation finds in
the store is read off the log.
-/
import Crochet.Proofs.Player.Sessions
import Crochet.Proofs.Snapshot
import Crochet.Proofs.Store

set_option autoImplicit false

namespace Crochet.Player

/-! ## The log of a run -/

/-- The write worked. -/
def Write.worked (w : Write) : Bool :=
  match w.result with
  | .ok () => true
  | .error _ => false

/-- All writes that were attempted, in order. -/
def writesOf (outcomes : List Outcome) : List Write := outcomes.flatMap fun o => o.trace.writes

@[simp] theorem writesOf_snoc (past : List Outcome) (o : Outcome) :
    writesOf (past ++ [o]) = writesOf past ++ o.trace.writes := by
  simp [writesOf]

/-- The last write under a key that worked. -/
def lastKept (key : String) (log : List Write) : Option Write :=
  (log.filter fun w => w.key = key && w.worked).getLast?

theorem lastKept_snoc (key : String) (log : List Write) (w : Write) :
    lastKept key (log ++ [w]) =
      if w.key = key ∧ w.worked = true then some w else lastKept key log := by
  by_cases hit : w.key = key ∧ w.worked = true
  · simp [lastKept, List.filter_append, hit]
  · simp only [lastKept, List.filter_append, if_neg hit]
    have : (w.key = key && w.worked) = false := by simpa using hit
    simp [this]

theorem lastKept_append_of_ne (key : String) (log : List Write) {later : List Write}
    (elsewhere : ∀ w ∈ later, w.key ≠ key) :
    lastKept key (log ++ later) = lastKept key log := by
  have none : later.filter (fun w => w.key = key && w.worked) = [] := by
    simp only [List.filter_eq_nil_iff, Bool.and_eq_true, decide_eq_true_eq, not_and]
    exact fun w inside same => absurd same (elsewhere w inside)
  simp [lastKept, List.filter_append, none]

theorem lastKept_eq_none_iff (key : String) (log : List Write) :
    lastKept key log = none ↔ ∀ w ∈ log, w.key = key → w.worked = false := by
  simp [lastKept]

theorem mem_of_lastKept {key : String} {log : List Write} {w : Write}
    (last : lastKept key log = some w) : w ∈ log ∧ w.key = key ∧ w.worked = true := by
  have := List.mem_filter.mp (List.mem_of_getLast? last)
  simpa using this

/-- The snapshot of a write is one of the player that made it, and of its progress when the
session in progress is saved. -/
structure Write.Honest (w : Write) : Prop where
  sound : w.player.Sound
  pattern : w.snapshot.toPattern = w.player.pattern
  cursor : w.key = Store.autosaveKey → w.snapshot.cursor = some (.ofNat w.player.cursor)

/-- What a store holds is what the log of writes leaves of what it held `before`, and the log is
honest. -/
structure Tally {σ : Type} (held : σ → String → Option String) (before : String → Option String)
    (log : List Write) (s : σ) : Prop where
  held_eq : ∀ key, held s key = ((lastKept key log).map fun w => w.snapshot.text).or (before key)
  honest : ∀ w ∈ log, w.Honest

variable {σ : Type} {store : Store (StateM σ)} {clock : StateM σ Timestamp}
  {held : σ → String → Option String} {before : String → Option String}

theorem tally_nil (s : σ) : Tally held (held s) [] s := ⟨fun _ => rfl, by simp⟩

/-- Whatever holds the same texts has the same tally. -/
theorem Tally.congr {log : List Write} {s t : σ} (tally : Tally held before log s)
    (same : held t = held s) : Tally held before log t :=
  ⟨fun key => by rw [same]; exact tally.held_eq key, tally.honest⟩

/-! ## Which players are auto-saved -/

/-- The players that a script saves, in order. -/
def saved (script : List Action) : List Player :=
  script.filterMap fun
    | .autosave p => some p
    | _ => none

/-- Everything a script writes is an auto-save. -/
theorem carryOutAll_keys (script : List Action) (s : σ) :
    ∀ w ∈ (carryOutAll store clock script s).1.writes, w.key = Store.autosaveKey := by
  induction script generalizing s with
  | nil => intro w inside; cases inside
  | cons action rest ih =>
      intro w inside
      cases action with
      | report event => exact ih s w inside
      | hand position ring => exact ih s w inside
      | autosave p =>
          rcases List.mem_cons.mp inside with first | later
          · rw [first]
          · exact ih _ w later

/-- The players after each of at most a number of rings. -/
def climbs : Nat → Player → List Player
  | 0, _ => []
  | limit + 1, p =>
    match p.build? with
    | none => []
    | some (_, q, _) => q :: climbs limit q

theorem saved_advanceUpTo (limit : Nat) (p : Player) :
    saved (advanceUpTo limit p).script = climbs limit p := by
  induction limit generalizing p with
  | zero => rfl
  | succ limit ih =>
      simp only [advanceUpTo, climbs, advance?_eq]
      cases p.build? with
      | none => rfl
      | some built =>
          obtain ⟨ring, q, events⟩ := built
          have := ih q
          simp only [saved] at this
          simp [saved, this]

/-- The players that an operation passes through, each right after it changed.  What was recovered
is not saved again, and a new player has nothing to save. -/
def stops (p : Player) (found : Option Snapshot) : Operation → List Player
  | .load text terms => [(p.load text terms).player]
  | .advance => climbs 1 p
  | .advanceAll => climbs (p.pattern.length - p.cursor) p
  | .reset => [p.reset.player]
  | .restore => [(p.restore found).player]
  | .save | .recover | .renew _ => []

/-- **What an operation auto-saves** is every player that it passes through, once and in order. -/
theorem saved_played (p : Player) (found : Option Snapshot) (op : Operation) :
    saved (p.played found op).script = p.stops found op := by
  cases op with
  | load text terms => simp [saved, played, load, stops]
  | advance =>
      simp only [played, stops, climbs, advance?_eq]
      cases p.build? with
      | none => rfl
      | some built => simp [saved]
  | advanceAll => exact saved_advanceUpTo _ p
  | reset => rfl
  | save => rfl
  | restore => cases found <;> rfl
  | recover =>
      cases found with
      | none => rfl
      | some snapshot =>
          refine List.filterMap_eq_nil_iff.mpr fun action inside => ?_
          cases action with
          | autosave q => simp [played, recover, rebuild_saves] at inside
          | _ => rfl
  | renew settings => rfl

/-! ## What an operation does to the tally -/

/-- A write that is attempted, and what it leaves behind. -/
theorem attempt_eq (p : Player) (key : String) (snapshot : Snapshot) (s : σ) :
    attempt store p key snapshot s =
      ({ player := p, key, snapshot, result := (store.write key snapshot.text s).1 },
        (store.write key snapshot.text s).2) := rfl

/-- An auto-save leaves what its write leaves. -/
theorem carryOut_autosave_state (p : Player) (s : σ) :
    (carryOut store clock (.autosave p) s).2 =
      (store.write Store.autosaveKey (p.progress (clock s).1).text (clock s).2).2 := rfl

/-- A script that saves nothing leaves everything as it was. -/
theorem carryOutAll_of_saved_nil {script : List Action} (unsaved : saved script = []) (s : σ) :
    (carryOutAll store clock script s).2 = s := by
  induction script with
  | nil => rfl
  | cons action rest ih =>
      cases action with
      | autosave p => cases unsaved
      | report event => exact ih unsaved
      | hand position ring => exact ih unsaved

/-- Saving attempts one write, leaves what that leaves, and answers how it ended. -/
theorem run_save_state (p : Player) (s : σ) :
    let wrote :=
      store.write Store.manualKey (Snapshot.capture p.pattern (clock s).1).text (clock s).2
    (run store clock p .save s).1.answer = .saved wrote.1 ∧
      (run store clock p .save s).2 = wrote.2 := ⟨rfl, rfl⟩

/-- A write that works stands under its key; one that fails leaves everything as it was. -/
theorem attempt_tally (keeps : store.Keeps clock held) {log : List Write} {s : σ}
    (tally : Tally held before log s) (p : Player) (key : String) (snapshot : Snapshot)
    (honest : (attempt store p key snapshot s).1.Honest) :
    Tally held before (log ++ [(attempt store p key snapshot s).1])
      (attempt store p key snapshot s).2 := by
  constructor
  · intro other
    rw [lastKept_snoc, attempt_eq]
    cases result : (store.write key snapshot.text s).1 with
    | ok =>
        rw [keeps.write_ok key snapshot.text s result]
        by_cases hit : key = other
        · simp [hit, Write.worked]
        · have miss : ¬ other = key := fun same => hit same.symm
          simpa [hit, miss] using tally.held_eq other
    | error fault =>
        rw [keeps.write_error key snapshot.text s fault result]
        simpa [Write.worked] using tally.held_eq other
  · intro w inside
    rcases List.mem_append.mp inside with old | new
    · exact tally.honest w old
    · rw [List.mem_singleton.mp new]
      exact honest

theorem carryOutAll_tally (keeps : store.Keeps clock held) (script : List Action)
    (sound : ∀ p, Action.autosave p ∈ script → p.Sound) {log : List Write} {s : σ}
    (tally : Tally held before log s) :
    Tally held before (log ++ (carryOutAll store clock script s).1.writes)
      (carryOutAll store clock script s).2 := by
  induction script generalizing log s with
  | nil =>
      show Tally held before (log ++ []) s
      rwa [List.append_nil]
  | cons action rest ih =>
      have goOn := fun {log s} => @ih (fun p inside => sound p (by simp [inside])) log s
      cases action with
      | report event => exact goOn tally
      | hand position ring => exact goOn tally
      | autosave p =>
          have good : p.Sound := sound p (by simp)
          have later := goOn (attempt_tally keeps (tally.congr (keeps.clock_held s)) p
            Store.autosaveKey (p.progress (clock s).1)
            ⟨good, Snapshot.toPattern_capture good.derived (clock s).1, fun _ => rfl⟩)
          rw [List.append_assoc] at later
          exact later

/-- What an operation reads leaves everything as it was. -/
theorem lookUp_held (keeps : store.Keeps clock held) (op : Operation) (s : σ) :
    held (op.lookUp store s).2 = held s := by
  cases op with
  | restore => exact keeps.read_held _ s
  | recover => exact keeps.read_held _ s
  | _ => rfl

theorem run_tally (keeps : store.Keeps clock held) {p : Player} (good : p.Sound)
    (op : Operation) {log : List Write} {s : σ} (tally : Tally held before log s) :
    Tally held before (log ++ (run store clock p op s).1.trace.writes)
      (run store clock p op s).2 := by
  by_cases plays : op = .save
  · subst plays
    have apart : Store.manualKey ≠ Store.autosaveKey := by decide
    exact attempt_tally keeps (tally.congr (keeps.clock_held s)) p Store.manualKey
      (Snapshot.capture p.pattern (clock s).1)
      ⟨good, Snapshot.toPattern_capture good.derived (clock s).1, fun same => absurd same apart⟩
  · rw [run_eq store clock p plays]
    exact carryOutAll_tally keeps _ (played_sound good _ op).saves
      (tally.congr (lookUp_held keeps op s))

/-- **Along a run** the store holds what the log of the run leaves, and the log is honest. -/
theorem runAll_tally (keeps : store.Keeps clock held) (ops : List Operation) {p : Player}
    (good : p.Sound) (s : σ) :
    Tally held (held s) (writesOf (runAll store clock p ops s).1.2)
      (runAll store clock p ops s).2 := by
  have start : p.Sound ∧ Tally held (held s) (writesOf []) s := ⟨good, tally_nil s⟩
  refine (runAll_induction store clock
    (motive := fun p past t => p.Sound ∧ Tally held (held s) (writesOf past) t)
    (fun p past t op => ?_) ops start).2
  rintro ⟨good, tally⟩
  constructor
  · rw [run_player]
    exact (played_sound good _ op).player
  · have step := run_tally keeps good op tally
    rwa [← writesOf_snoc] at step

/-- A read that works finds the snapshot of the last write that worked, with its time settled. -/
theorem Tally.decode_read (keeps : store.Keeps clock held) {key : String} {log : List Write}
    {s : σ} (tally : Tally held before log s) (nothing : before key = none)
    (works : (store.read key s).1.isOk) :
    (Store.decode key (store.read key s).1).1 =
      (lastKept key log).map fun w => w.snapshot.settled := by
  have holds := tally.held_eq key
  cases read : (store.read key s).1 with
  | error fault => rw [read] at works; cases works
  | ok found =>
      rw [← keeps.read_ok key s found read, nothing] at holds
      cases last : lastKept key log with
      | none =>
          have : found = none := by simpa [last] using holds
          simp [this, Store.decode]
      | some w =>
          have : found = some w.snapshot.text := by simpa [last] using holds
          simp [this, Store.decode, Snapshot.ofString?_text]

end Crochet.Player
