/-
# Crochet.Proofs.Player.Draining -- building what is left, at once or ring by ring

Building at most so many rings is a sum: first some of them, then the others
from where those ended (`advanceUpTo_add`).  Carrying out a script is one too,
so a run of single advances comes to the same as building at once, over any
store and whatever becomes of the auto-saves in between.  As many advances
build a ring as rounds are left, and the next one builds none.
-/
import Crochet.Proofs.Player.View
import Crochet.Proofs.Player.WriteLog

set_option autoImplicit false

namespace Crochet.Player

/-! ## Limits add up -/

/-- First one thing is played, then another by the player that this leaves. -/
def Played.andThen (first : Played) (next : Player → Played) : Played where
  player := (next first.player).player
  script := first.script ++ (next first.player).script

theorem advance?_eq_none_iff (p : Player) :
    p.advance? = none ↔ p.pattern.length ≤ p.cursor := by
  rw [advance?_eq, Option.map_eq_none_iff, build?_eq_none_iff]

theorem advanceUpTo_of_done {p : Player} (done : p.pattern.length ≤ p.cursor) (limit : Nat) :
    advanceUpTo limit p = { player := p, script := [] } := by
  have none := (advance?_eq_none_iff p).mpr done
  cases limit with
  | zero => rfl
  | succ limit => rw [advanceUpTo, none]

theorem advanceUpTo_add (first second : Nat) (p : Player) :
    advanceUpTo (first + second) p = (advanceUpTo first p).andThen (advanceUpTo second) := by
  induction first generalizing p with
  | zero =>
      rw [Nat.zero_add]
      rfl
  | succ first ih =>
      by_cases done : p.pattern.length ≤ p.cursor
      · rw [advanceUpTo_of_done done, advanceUpTo_of_done done, Played.andThen,
          advanceUpTo_of_done done]
        rfl
      · obtain ⟨⟨ring, played⟩, built⟩ :=
          Option.ne_none_iff_exists'.mp (mt (advance?_eq_none_iff p).mp done)
        rw [Nat.succ_add, advanceUpTo, advanceUpTo, built]
        simp only [ih, Played.andThen, List.append_assoc]

/-- An advance builds at most one ring. -/
theorem played_advance (p : Player) (found : Option Snapshot) :
    p.played found .advance = advanceUpTo 1 p := by
  simp only [played, advanceUpTo]
  cases p.advance? with
  | none => rfl
  | some built => simp

theorem advanceUpTo_spec (limit : Nat) {p : Player} (good : p.Built) :
    (advanceUpTo limit p).player.Built ∧ (advanceUpTo limit p).player.pattern = p.pattern ∧
      (advanceUpTo limit p).player.cursor = min (p.cursor + limit) p.pattern.length := by
  rw [advanceUpTo_player]
  obtain ⟨built, -, pattern, cursor⟩ := climb_spec limit p good
  exact ⟨built, pattern, cursor⟩

/-- Building some of what is left and then the rest is building all of it. -/
theorem advanceAll_split {p : Player} (good : p.Built) {first : Nat}
    (within : first ≤ p.pattern.length - p.cursor) :
    (advanceUpTo first p).andThen advanceAll = p.advanceAll := by
  obtain ⟨-, pattern, cursor⟩ := advanceUpTo_spec first good
  have rest : (advanceUpTo first p).player.pattern.length - (advanceUpTo first p).player.cursor =
      p.pattern.length - p.cursor - first := by
    rw [pattern, cursor]
    omega
  have whole : first + (p.pattern.length - p.cursor - first) = p.pattern.length - p.cursor := by
    omega
  rw [advanceAll, ← whole, advanceUpTo_add, Played.andThen, Played.andThen, advanceAll, rest]

/-- Everything is built when all that is left is. -/
theorem advanceAll_cursor {p : Player} (good : p.Built) :
    p.advanceAll.player.pattern = p.pattern ∧
      p.advanceAll.player.cursor = p.pattern.length := by
  have within := good.cursor_le
  obtain ⟨-, pattern, cursor⟩ := advanceUpTo_spec (p.pattern.length - p.cursor) good
  refine ⟨pattern, cursor.trans ?_⟩
  omega

/-! ## What a run comes to -/

namespace Trace

theorem append_assoc (first second third : Trace) :
    first ++ second ++ third = first ++ (second ++ third) := by
  show append (append _ _) _ = append _ (append _ _)
  simp [append]

/-- All that came of some operations, in order. -/
def ofOutcomes (outcomes : List Outcome) : Trace :=
  outcomes.foldr (fun o later => o.trace ++ later) nothing

theorem ofOutcomes_append (first second : List Outcome) :
    ofOutcomes (first ++ second) = ofOutcomes first ++ ofOutcomes second := by
  induction first with
  | nil => rfl
  | cons o first ih =>
      show o.trace ++ ofOutcomes (first ++ second) = o.trace ++ ofOutcomes first ++ _
      rw [ih, append_assoc]

end Trace

/-- What playing comes to: the player at the end, all that came of it in order, and whatever the
store is left as. -/
structure Upshot (σ : Type) where
  player : Player
  trace : Trace
  state : σ

section

variable {σ : Type} (store : Store (StateM σ)) (clock : StateM σ Timestamp)

/-- What a run comes to. -/
def Upshot.ofRun (ran : (Player × List Outcome) × σ) : Upshot σ where
  player := ran.1.1
  trace := .ofOutcomes ran.1.2
  state := ran.2

/-- What carrying out comes to. -/
def Upshot.ofPlayed (played : Played) (s : σ) : Upshot σ where
  player := played.player
  trace := (carryOutAll store clock played.script s).1
  state := (carryOutAll store clock played.script s).2

/-- What comes of going on from there. -/
def Upshot.goOn (early : Upshot σ) (next : Player → σ → Upshot σ) : Upshot σ where
  player := (next early.player early.state).player
  trace := early.trace ++ (next early.player early.state).trace
  state := (next early.player early.state).state

theorem carryOutAll_append (first second : List Action) (s : σ) :
    carryOutAll store clock (first ++ second) s =
      let early := carryOutAll store clock first s
      let late := carryOutAll store clock second early.2
      (early.1 ++ late.1, late.2) := by
  induction first generalizing s with
  | nil => rfl
  | cons action first ih =>
      simp only [List.cons_append, carryOutAll_cons, ih, Trace.append_assoc]

theorem ofPlayed_andThen (first : Played) (next : Player → Played) (s : σ) :
    Upshot.ofPlayed store clock (first.andThen next) s =
      (Upshot.ofPlayed store clock first s).goOn
        fun q t => Upshot.ofPlayed store clock (next q) t := by
  simp only [Upshot.ofPlayed, Upshot.goOn, Played.andThen, carryOutAll_append]

theorem runAll_append (ops later : List Operation) (p : Player) (s : σ) :
    runAll store clock p (ops ++ later) s =
      let first := runAll store clock p ops s
      let rest := runAll store clock first.1.1 later first.2
      ((rest.1.1, first.1.2 ++ rest.1.2), rest.2) := by
  induction ops generalizing p s with
  | nil => rfl
  | cons op ops ih => simp only [List.cons_append, runAll_cons, ih]

theorem ofRun_append (ops later : List Operation) (p : Player) (s : σ) :
    Upshot.ofRun (runAll store clock p (ops ++ later) s) =
      (Upshot.ofRun (runAll store clock p ops s)).goOn
        fun q t => Upshot.ofRun (runAll store clock q later t) := by
  simp only [Upshot.ofRun, Upshot.goOn, runAll_append, Trace.ofOutcomes_append]

/-- An operation that reads nothing carries out what it plays. -/
theorem run_of_readsNothing {op : Operation} (plays : op ≠ .save)
    (blind : op.readsNothing = true) (p : Player) (s : σ) :
    run store clock p op s =
      let upshot := Upshot.ofPlayed store clock (p.played none op) s
      (⟨upshot.player, p.answered none op, upshot.trace⟩, upshot.state) := by
  have lookedUp : op.lookUp store s = ((none, []), s) := by
    cases op with
    | restore => cases blind
    | recover => cases blind
    | _ => rfl
  rw [run_apply store clock p plays, found_eq_none store blind, lookedUp]
  rfl

theorem ofRun_single {op : Operation} (plays : op ≠ .save) (blind : op.readsNothing = true)
    (p : Player) (s : σ) :
    Upshot.ofRun (runAll store clock p [op] s) =
      Upshot.ofPlayed store clock (p.played none op) s := by
  rw [runAll_cons, run_of_readsNothing store clock plays blind]
  show Upshot.mk _ (_ ++ Trace.nothing) _ = _
  rw [Trace.append_nothing]
  rfl

/-! ## Advancing one by one -/

/-- Single advances come to what building at most so many rings comes to. -/
theorem ofRun_advances (count : Nat) (p : Player) (s : σ) :
    Upshot.ofRun (runAll store clock p (List.replicate count .advance) s) =
      Upshot.ofPlayed store clock (advanceUpTo count p) s := by
  induction count generalizing p s with
  | zero => rfl
  | succ count ih =>
      rw [List.replicate_succ, ← List.singleton_append, ofRun_append,
        ofRun_single store clock (by simp) rfl, played_advance]
      simp only [ih]
      rw [← ofPlayed_andThen, ← advanceUpTo_add, Nat.add_comm]

/-- So do single advances and building all that they leave. -/
theorem ofRun_split {p : Player} (good : p.Built) {count : Nat}
    (within : count ≤ p.pattern.length - p.cursor) (s : σ) :
    Upshot.ofRun (runAll store clock p (List.replicate count .advance ++ [.advanceAll]) s) =
      Upshot.ofPlayed store clock p.advanceAll s := by
  have last : ∀ (q : Player) (t : σ), Upshot.ofRun (runAll store clock q [.advanceAll] t) =
      Upshot.ofPlayed store clock q.advanceAll t :=
    fun q t => ofRun_single store clock (by simp) rfl q t
  rw [ofRun_append, ofRun_advances]
  simp only [last]
  rw [← ofPlayed_andThen, advanceAll_split good within]

theorem standing_eq_ready_iff (p : Player) :
    p.standing = .ready p.cursor ↔ p.cursor < p.pattern.length := by
  unfold standing
  split <;> simp_all

theorem standing_eq_idle_iff (p : Player) :
    p.standing = .idle ↔ p.pattern.length ≤ p.cursor := by
  unfold standing
  split
  · rename_i inside
    constructor
    · intro same
      cases same
    · intro done
      omega
  · rename_i outside
    exact ⟨fun _ => Nat.le_of_not_lt outside, fun _ => rfl⟩

/-- An advance builds, adds, hands over and answers the ring that comes next. -/
theorem run_advance_of_ready {p : Player} (good : p.Built) (inside : p.cursor < p.pattern.length)
    (s : σ) :
    let stepped := (run store clock p .advance s).1
    ∃ ring, p.settings.ringOf p.pattern.counts p.cursor = some ring ∧
      stepped.answer = .built (some ring) ∧
      stepped.player = { p with rings := p.rings.push ring } ∧
      stepped.trace.handed = [(p.cursor, ring)] := by
  intro stepped
  cases step : p.build? with
  | none =>
      have done := (build?_eq_none_iff p).mp step
      omega
  | some built =>
      obtain ⟨ring, q, events⟩ := built
      have next := build?_built good step
      obtain ⟨-, rfl⟩ := build?_eq_some step
      refine ⟨ring, ?_, ?_, ?_, ?_⟩
      · have newest := next.rings_eq p.cursor (by simp [cursor])
        rw [← newest]
        simp [cursor]
      · show (run store clock p .advance s).1.answer = _
        rw [run_answer store clock p .advance (by simp)]
        simp [answered, advance?_eq, step]
      · show (run store clock p .advance s).1.player = _
        rw [run_player]
        simp [played, advance?_eq, step]
      · show (run store clock p .advance s).1.trace.handed = _
        rw [run_handed store clock (by simp)]
        simp [played, advance?_eq, step, handed_append, handed_reports, handed_built]

/-- When everything is built, nothing is played. -/
theorem played_of_done {p : Player} (done : p.pattern.length ≤ p.cursor) :
    p.played none .advance = { player := p, script := [] } ∧
      p.played none .advanceAll = { player := p, script := [] } := by
  rw [played_advance]
  exact ⟨advanceUpTo_of_done done _, advanceUpTo_of_done done _⟩

theorem run_advance_of_done {p : Player} (done : p.pattern.length ≤ p.cursor) (s : σ) :
    run store clock p .advance s = (⟨p, .built none, .nothing⟩, s) := by
  rw [run_of_readsNothing store clock (by simp) rfl, (played_of_done done).1, answered,
    (advance?_eq_none_iff p).mpr done]
  rfl

theorem run_advanceAll_of_done {p : Player} (done : p.pattern.length ≤ p.cursor) (s : σ) :
    run store clock p .advanceAll s = (⟨p, .count 0, .nothing⟩, s) := by
  have built : p.advanceAll = { player := p, script := [] } := (played_of_done done).2
  rw [run_of_readsNothing store clock (by simp) rfl, (played_of_done done).2, answered, built,
    Nat.sub_self]
  rfl

/-- As many advances as rounds are left all build a ring. -/
theorem advances_build (count : Nat) {p : Player} (good : p.Built)
    (within : count ≤ p.pattern.length - p.cursor) (s : σ) :
    ∀ o ∈ (runAll store clock p (List.replicate count .advance) s).1.2,
      ∃ ring, o.answer = .built (some ring) := by
  induction count generalizing p s with
  | zero =>
      intro o inside
      cases inside
  | succ count ih =>
      obtain ⟨ring, -, answer, -, -⟩ := run_advance_of_ready store clock good (by omega) s
      have next : (run store clock p .advance s).1.player = (advanceUpTo 1 p).player := by
        rw [run_player, played_advance]
      obtain ⟨built, pattern, cursor⟩ := advanceUpTo_spec 1 good
      intro o inside
      rw [List.replicate_succ, runAll_cons] at inside
      rcases List.mem_cons.mp inside with rfl | later
      · exact ⟨ring, answer⟩
      · rw [next] at later
        refine ih built ?_ _ o later
        rw [pattern, cursor]
        omega

end

/-- **Building all that is left is advancing until nothing is.**  For every player after any run,
and over any store from there: it stands ready for the round at its cursor, or idle at the end; an
advance builds the ring of that round when it is ready and leaves everything untouched when it is
idle.  Building all of the rounds that are left answers how many they are and leaves the player
idle.  So many single advances build a ring each and come to the same: the same player, the same
writes with the same results, the same rings handed over; and so do any number of them with
building what they leave.  After that nothing is built any more. -/
theorem runAll_drains {σ τ : Type} (store : Store (StateM σ)) (clock : StateM σ Timestamp)
    (settings : Settings) (ops : List Operation) (s : σ) (other : Store (StateM τ))
    (otherClock : StateM τ Timestamp) (t : τ) :
    let p := (runAll store clock (new settings) ops s).1.1
    let left := p.pattern.length - p.cursor
    let stepped := run other otherClock p .advance t
    let drained := run other otherClock p .advanceAll t
    let upshot := Upshot.ofRun (runAll other otherClock p [.advanceAll] t)
    ((p.standing = .ready p.cursor ↔ p.cursor < p.pattern.length) ∧
      (p.standing = .idle ↔ p.cursor = p.pattern.length)) ∧
    ((p.standing = .ready p.cursor → ∃ ring,
        p.settings.ringOf p.pattern.counts p.cursor = some ring ∧
        stepped.1.answer = .built (some ring) ∧
        stepped.1.player = { p with rings := p.rings.push ring } ∧
        stepped.1.trace.handed = [(p.cursor, ring)]) ∧
      (p.standing = .idle → stepped = (⟨p, .built none, .nothing⟩, t))) ∧
    (drained.1.answer = .count left ∧ drained.1.player.standing = .idle ∧
      drained.1.player.cursor = p.pattern.length) ∧
    (∀ o ∈ (runAll other otherClock p (List.replicate left .advance) t).1.2,
      ∃ ring, o.answer = .built (some ring)) ∧
    Upshot.ofRun (runAll other otherClock p (List.replicate left .advance) t) = upshot ∧
    (∀ count ≤ left, Upshot.ofRun (runAll other otherClock p
      (List.replicate count .advance ++ [.advanceAll]) t) = upshot) ∧
    ∀ u : τ,
      run other otherClock drained.1.player .advance u =
        (⟨drained.1.player, .built none, .nothing⟩, u) ∧
      run other otherClock drained.1.player .advanceAll u =
        (⟨drained.1.player, .count 0, .nothing⟩, u) := by
  intro p left stepped drained upshot
  have good : p.Built := (runAll_sound store clock ops (new_sound settings) s).built
  have within := good.cursor_le
  obtain ⟨pattern, cursor⟩ := advanceAll_cursor good
  have player : drained.1.player = p.advanceAll.player := run_player other otherClock p _ t
  have atOnce : upshot = Upshot.ofPlayed other otherClock p.advanceAll t :=
    ofRun_single other otherClock (by simp) rfl p t
  have done : drained.1.player.pattern.length ≤ drained.1.player.cursor := by
    rw [player, pattern, cursor]
  refine ⟨⟨standing_eq_ready_iff p, ?_⟩, ⟨?_, ?_⟩, ⟨?_, ?_, ?_⟩, ?_, ?_, ?_, ?_⟩
  · rw [standing_eq_idle_iff]
    omega
  · intro isReady
    exact run_advance_of_ready other otherClock good ((standing_eq_ready_iff p).mp isReady) t
  · intro isIdle
    exact run_advance_of_done other otherClock ((standing_eq_idle_iff p).mp isIdle) t
  · rw [run_answer other otherClock p .advanceAll (by simp), answered, cursor]
  · exact (standing_eq_idle_iff _).mpr done
  · rw [player, cursor]
  · exact advances_build other otherClock left good (Nat.le_refl left) t
  · rw [atOnce]
    exact ofRun_advances other otherClock left p t
  · intro count within
    rw [atOnce]
    exact ofRun_split other otherClock good within t
  · intro u
    exact ⟨run_advance_of_done other otherClock done u,
      run_advanceAll_of_done other otherClock done u⟩

/-- A pattern of three rounds of which the first is built. -/
def startedOps : List Operation := [.load "6 sc in MR\n[inc] x6\ninc" .us, .advance]

/-- The operations over a memory. -/
def startedRan : (Player × List Outcome) × Memory :=
  runAll Memory.store (pure .millennium) (new .usual) startedOps Memory.empty

/-- The rounds that are left are built over a memory that refuses the first write. -/
theorem runAll_drains_refused :
    let p := startedRan.1.1
    let refusing := Store.faulty Memory.store
    let drained := run refusing (pure .millennium) p .advanceAll (Memory.empty, [true])
    p.standing = .ready 1 ∧ drained.1.answer = .count 2 ∧ drained.1.player.cursor = 3 ∧
      1 ≤ p.pattern.length - p.cursor ∧
      Upshot.ofRun (runAll refusing (pure .millennium) p
          (List.replicate 1 .advance ++ [.advanceAll]) (Memory.empty, [true])) =
        Upshot.ofRun (runAll refusing (pure .millennium) p [.advanceAll]
          (Memory.empty, [true])) := by
  have law := runAll_drains Memory.store (pure .millennium) .usual startedOps Memory.empty
    (Store.faulty Memory.store) (pure .millennium) (Memory.empty, [true])
  rw [← startedRan] at law
  obtain ⟨rounds, one⟩ : startedRan.1.1.pattern.length = 3 ∧ startedRan.1.1.cursor = 1 := by
    decide +kernel
  have left : startedRan.1.1.pattern.length - startedRan.1.1.cursor = 2 := by rw [rounds, one]
  obtain ⟨⟨ready, -⟩, -, ⟨answer, -, cursor⟩, -, -, split, -⟩ := law
  rw [left] at answer
  rw [one] at ready
  have inside : 1 ≤ startedRan.1.1.pattern.length - startedRan.1.1.cursor := by rw [left]; decide
  refine ⟨ready.mpr ?_, answer, cursor.trans rounds, inside, split 1 inside⟩
  rw [rounds]
  decide

end Crochet.Player
