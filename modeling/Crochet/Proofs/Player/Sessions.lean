/-
# Crochet.Proofs.Player.Sessions -- what a run of operations makes of a player

An operation reads what it needs, plays, and carries out what it played:
`run_eq` says so once for all operations but `save`, which plays nothing.  What
is played depends on the player, the operation and the snapshot that was found,
and on nothing else of the store.  `runAll_induction` carries a property along
any run over any store; `runAll_sound` is its first use.
-/
import Crochet.Player.Run
import Crochet.Proofs.Pattern
import Crochet.Proofs.Player.Rings

set_option autoImplicit false

namespace Crochet.Player

/-! ## One operation -/

section

variable {m : Type → Type} [Monad m]

/-- What an operation reads before it plays: a snapshot if there is one, and what there is to
say about it. -/
def Operation.lookUp (store : Store m) : Operation → m (Option Snapshot × List Event)
  | .restore => store.load Store.manualKey
  | .recover => store.load Store.autosaveKey
  | _ => return (none, [])

/-- What a player plays for an operation that found a snapshot or none. -/
def played (p : Player) (found : Option Snapshot) : Operation → Played
  | .load text terms => p.load text terms
  | .advance => (p.advance?.map Prod.snd).getD { player := p, script := [] }
  | .advanceAll => p.advanceAll
  | .reset => p.reset
  | .save => { player := p, script := [] }
  | .restore => p.restore found
  | .recover => (found.map p.recover).getD { player := p, script := [] }
  | .renew settings => { player := .new settings, script := [] }

/-- What a player answers to an operation that plays and found a snapshot or none. -/
def answered (p : Player) (found : Option Snapshot) : Operation → Answer
  | .advance => .built (p.advance?.map Prod.fst)
  | .advanceAll => .count (p.advanceAll.player.cursor - p.cursor)
  | .restore | .recover => .found found.isSome
  | _ => .done

namespace Trace

@[simp] theorem nothing_append (t : Trace) : nothing ++ t = t := rfl

@[simp] theorem append_nothing (t : Trace) : t ++ nothing = t := by
  obtain ⟨events, writes, handed⟩ := t
  show append _ _ = _
  simp [append, nothing]

@[simp] theorem reports_nil : reports [] = nothing := rfl

end Trace

/-- **An operation that plays** reads what it needs and carries out what it played. -/
theorem run_eq [LawfulMonad m] (store : Store m) (clock : m Timestamp) (p : Player)
    {op : Operation} (plays : op ≠ .save) :
    run store clock p op =
      op.lookUp store >>= fun found =>
        finish store clock found.2 (p.answered found.1 op) (p.played found.1 op) := by
  cases op with
  | save => exact absurd rfl plays
  | advance =>
      simp only [run, Operation.lookUp, played, answered, pure_bind]
      cases p.advance? with
      | none => simp [finish, carryOutAll]
      | some built => rfl
  | recover =>
      simp only [run, Operation.lookUp, played, answered]
      congr 1
      funext found
      obtain ⟨found, events⟩ := found
      cases found with
      | none => simp [finish, carryOutAll]
      | some snapshot => rfl
  | renew settings =>
      simp [run, Operation.lookUp, played, answered, finish, carryOutAll]
  | _ => simp [run, Operation.lookUp, played, answered]

end

/-! ## Sound players -/

/-- The rings are built, and the pattern is the one of its counts and texts. -/
structure Sound (p : Player) : Prop where
  built : p.Built
  derived : p.pattern.Derived

/-- The player at the end is sound, and so is every player that is to be saved on the way. -/
structure Played.Sound (played : Played) : Prop where
  player : played.player.Sound
  saves : ∀ p, Action.autosave p ∈ played.script → p.Sound

theorem new_sound (s : Settings) : (new s).Sound := ⟨new_built s, Pattern.empty_derived⟩

theorem withPattern_sound (p : Player) {pattern : Pattern} (derived : pattern.Derived) :
    (p.withPattern pattern).Sound := ⟨withPattern_built p pattern, derived⟩

theorem reset_player_sound {p : Player} (good : p.Sound) :
    ({ p with rings := #[] } : Player).Sound := ⟨built_of_rings_empty rfl, good.derived⟩

theorem build?_sound {p q : Player} {ring : Ring Float} {events : List Event} (good : p.Sound)
    (built : p.build? = some (ring, q, events)) : q.Sound := by
  refine ⟨build?_built good.built built, ?_⟩
  obtain ⟨-, rfl⟩ := build?_eq_some built
  exact good.derived

theorem climb_sound (limit : Nat) {p : Player} (good : p.Sound) : (climb limit p).Sound := by
  obtain ⟨built, -, pattern, -⟩ := climb_spec limit p good.built
  exact ⟨built, pattern ▸ good.derived⟩

/-- A player that does nothing. -/
theorem idle_sound {p : Player} (good : p.Sound) : Played.Sound { player := p, script := [] } :=
  ⟨good, by simp⟩

theorem advance?_sound {p : Player} {ring : Ring Float} {played : Played} (good : p.Sound)
    (advanced : p.advance? = some (ring, played)) : played.Sound := by
  rw [advance?_eq] at advanced
  obtain ⟨⟨ring', q, events⟩, built, rfl, rfl⟩ := Option.map_eq_some_iff.mp advanced
  have next := build?_sound good built
  refine ⟨next, fun saved inside => ?_⟩
  have : saved = q := by simpa using inside
  exact this ▸ next

theorem advanceUpTo_sound (limit : Nat) {p : Player} (good : p.Sound) :
    (advanceUpTo limit p).Sound := by
  induction limit generalizing p with
  | zero => exact idle_sound good
  | succ limit ih =>
      simp only [advanceUpTo]
      split
      · exact idle_sound good
      · rename_i ring played advanced
        have first := advance?_sound good advanced
        have later := ih first.player
        refine ⟨later.player, fun saved inside => ?_⟩
        rcases List.mem_append.mp inside with early | late
        · exact first.saves saved early
        · exact later.saves saved late

/-- Rebuilding saves nothing. -/
theorem rebuild_saves (limit : Nat) (p saved : Player) :
    Action.autosave saved ∉ (rebuild limit p).script := by
  induction limit generalizing p with
  | zero => simp [rebuild]
  | succ limit ih =>
      simp only [rebuild]
      split
      · simp
      · simp [ih]

theorem restore_sound (p : Player) (found : Option Snapshot) : (p.restore found).Sound := by
  cases found with
  | none =>
      have ball : (p.withPattern .ball).Sound := withPattern_sound p (Pattern.ofCounts_derived _)
      exact ⟨ball, by simp [restore, ball]⟩
  | some snapshot =>
      have old : (p.withPattern snapshot.toPattern).Sound :=
        withPattern_sound p snapshot.toPattern_derived
      exact ⟨old, by simp [restore, old]⟩

theorem recover_player (p : Player) (s : Snapshot) :
    (p.recover s).player =
      climb (min ((s.cursor.map UInt64.toNat).getD 0) s.toPattern.length)
        (p.withPattern s.toPattern) := rebuild_player _ _

theorem recover_sound (p : Player) (s : Snapshot) : (p.recover s).Sound := by
  constructor
  · rw [recover_player]
    exact climb_sound _ (withPattern_sound p s.toPattern_derived)
  · intro saved inside
    simp [recover, rebuild_saves] at inside

/-- **Playing keeps players sound**, whatever the operation and whatever was found. -/
theorem played_sound {p : Player} (good : p.Sound) (found : Option Snapshot) (op : Operation) :
    (p.played found op).Sound := by
  cases op with
  | load text terms =>
      have loaded : (p.withPattern ⟨(Pattern.read (terms.normalize text)).map Prod.fst⟩).Sound :=
        withPattern_sound p (Pattern.read_derived _)
      exact ⟨loaded, by simp [played, load, loaded]⟩
  | advance =>
      simp only [played]
      cases advanced : p.advance? with
      | none => exact idle_sound good
      | some built => exact advance?_sound good advanced
  | advanceAll => exact advanceUpTo_sound _ good
  | reset =>
      have empty := reset_player_sound good
      exact ⟨empty, by simp [played, reset, empty]⟩
  | save => exact idle_sound good
  | restore => exact restore_sound p found
  | recover =>
      cases found with
      | none => exact idle_sound good
      | some snapshot => exact recover_sound p snapshot
  | renew settings => exact idle_sound (new_sound settings)

/-! ## Many operations -/

section

variable {m : Type → Type} [Monad m]

/-- Runs operations one after another. -/
def runAll (store : Store m) (clock : m Timestamp) (p : Player) :
    List Operation → m (Player × List Outcome)
  | [] => return (p, [])
  | op :: rest => do
    let first ← run store clock p op
    let (last, later) ← runAll store clock first.player rest
    return (last, first :: later)

end

variable {σ : Type} (store : Store (StateM σ)) (clock : StateM σ Timestamp)

theorem runAll_cons (p : Player) (op : Operation) (rest : List Operation) (s : σ) :
    runAll store clock p (op :: rest) s =
      let first := run store clock p op s
      let later := runAll store clock first.1.player rest first.2
      ((later.1.1, first.1 :: later.1.2), later.2) := rfl

/-- What every operation keeps, a run that goes on from some outcomes keeps. -/
theorem runAll_from {motive : Player → List Outcome → σ → Prop}
    (step : ∀ p past s op, motive p past s →
      motive (run store clock p op s).1.player (past ++ [(run store clock p op s).1])
        (run store clock p op s).2)
    (ops : List Operation) {p : Player} {past : List Outcome} {s : σ} (start : motive p past s) :
    motive (runAll store clock p ops s).1.1 (past ++ (runAll store clock p ops s).1.2)
      (runAll store clock p ops s).2 := by
  induction ops generalizing p past s with
  | nil =>
      show motive p (past ++ []) s
      rwa [List.append_nil]
  | cons op rest ih =>
      have later := ih (step p past s op start)
      rw [List.append_assoc] at later
      exact later

/-- What every operation keeps, a run of operations keeps: of the player, of the outcomes so
far, and of whatever the store and the clock live in. -/
theorem runAll_induction {motive : Player → List Outcome → σ → Prop}
    (step : ∀ p past s op, motive p past s →
      motive (run store clock p op s).1.player (past ++ [(run store clock p op s).1])
        (run store clock p op s).2)
    (ops : List Operation) {p : Player} {s : σ} (start : motive p [] s) :
    motive (runAll store clock p ops s).1.1 (runAll store clock p ops s).1.2
      (runAll store clock p ops s).2 :=
  runAll_from store clock step ops start

/-- The snapshot that an operation finds in a store. -/
def Operation.found (op : Operation) (s : σ) : Option Snapshot := (op.lookUp store s).1.1

/-- `run_eq` in a state. -/
theorem run_apply (p : Player) {op : Operation} (plays : op ≠ .save) (s : σ) :
    run store clock p op s =
      finish store clock (op.lookUp store s).1.2 (p.answered (op.found store s) op)
        (p.played (op.found store s) op) (op.lookUp store s).2 := by
  rw [run_eq store clock p plays]
  rfl

theorem run_player (p : Player) (op : Operation) (s : σ) :
    (run store clock p op s).1.player = (p.played (op.found store s) op).player := by
  by_cases plays : op = .save
  · subst plays
    rfl
  · rw [run_apply store clock p plays]
    rfl

theorem run_answer (p : Player) (op : Operation) (plays : op ≠ .save) (s : σ) :
    (run store clock p op s).1.answer = p.answered (op.found store s) op := by
  rw [run_apply store clock p plays]
  rfl

theorem runAll_sound (ops : List Operation) {p : Player} (good : p.Sound) (s : σ) :
    (runAll store clock p ops s).1.1.Sound :=
  runAll_induction store clock (motive := fun p _ _ => p.Sound)
    (fun p past s op good => by
      rw [run_player]
      exact (played_sound good _ op).player)
    ops good

/-- **The rings of a player are those that its settings, its pattern's counts and its cursor
make**, after any run over any store, from any settings. -/
theorem runAll_rings (settings : Settings) (ops : List Operation) (s : σ) :
    let p := (runAll store clock (new settings) ops s).1.1
    p.cursor ≤ p.pattern.length ∧
      ∀ i, p.rings[i]? = if i < p.cursor then p.settings.ringOf p.pattern.counts i else none := by
  intro p
  have built : p.Built := (runAll_sound store clock ops (new_sound settings) s).built
  refine ⟨built.cursor_le, fun i => ?_⟩
  split
  · rename_i inside
    exact built.rings_eq i inside
  · rename_i outside
    exact Array.getElem?_eq_none (Nat.not_lt.mp outside)

end Crochet.Player
