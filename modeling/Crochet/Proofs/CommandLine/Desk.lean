/-
# Crochet.Proofs.CommandLine.Desk -- operations over a directory on a desk

A directory on a desk is the directory in the files of the desk; nothing else of
the desk is touched.  Once it takes what is written to it, it is `Keeping`: the
file of the session in progress tells the player that was saved last.  Carrying
out a script keeps that up, and so does every operation.
-/
import Crochet.Proofs.CommandLine.Lifting
import Crochet.Proofs.Player.Keeping
import Crochet.Proofs.Store.Readiness

set_option autoImplicit false

namespace Crochet.CommandLine

open Directory

/-! ## A directory on a desk -/

/-- A directory on a desk. -/
abbrev deskStore (root : String) : Store (StateM Desk) := store root

/-- The clock of a desk. -/
abbrev deskClock : StateM Desk Timestamp := Host.now

section

variable (root key text : String) (desk : Desk)

theorem write_desk :
    let wrote := (store root : Store (StateM FileTree)).write key text desk.files
    (deskStore root).write key text desk = (wrote.1, { desk with files := wrote.2 }) := by
  have lifted : (store root : Store (StateM FileTree)).lift (StateM Desk) = deskStore root :=
    lift_store root
  rw [← lifted]
  rfl

theorem read_desk (valid : isKey key = true) :
    (deskStore root).read key desk =
      (readBytes (path root key) (desk.files.read (path root key)), desk) := by
  rw [deskStore, store_read valid]
  rfl

end

/-- The file of a key on a desk can be written, and then says what was written. -/
theorem write_opening {desk : Desk} {next : FileTree} {root key : String} {keys : List String}
    (opening : Opening desk.files next root keys) (inside : key ∈ keys) (text : String) :
    (deskStore root).write key text desk =
      (.ok (), { desk with files := stored next root key text }) := by
  rw [write_desk, opening.write inside]

/-! ## The session in progress -/

/-- The directory takes what is written to it, and its file of the session in progress is that of
the player that was saved last, if one was. -/
inductive Keeping (root : String) (keys : List String) : Option Player → FileTree → Prop where
  | unsaved {tree next : FileTree} (opening : Opening tree next root keys) :
      Keeping root keys none tree
  | saved {tree : FileTree} {p : Player} {now : Timestamp} (ready : Ready tree root keys)
      (stands : Stands tree root Store.autosaveKey (p.progress now).text) :
      Keeping root keys (some p) tree

variable {root : String} {keys : List String} {last : Option Player} {desk : Desk}

theorem Keeping.opening {tree : FileTree} (keeping : Keeping root keys last tree) :
    ∃ next, Opening tree next root keys := by
  cases keeping with
  | unsaved opening => exact ⟨_, opening⟩
  | saved ready stands => exact ⟨_, ready.opening⟩

/-- The desk is another one in its files only. -/
def SameButFiles (desk after : Desk) : Prop := after = { desk with files := after.files }

theorem SameButFiles.refl (desk : Desk) : SameButFiles desk desk := rfl

theorem SameButFiles.trans {between after : Desk} (first : SameButFiles desk between)
    (second : SameButFiles between after) : SameButFiles desk after := by
  rw [SameButFiles, second, first]

/-- An auto-save puts the player where the last one was. -/
theorem carryOut_keeping (auto : Store.autosaveKey ∈ keys)
    (keeping : Keeping root keys last desk.files) (action : Action) :
    let after := (Player.carryOut (deskStore root) deskClock action desk).2
    SameButFiles desk after ∧
      Keeping root keys ((Player.saved [action]).getLast?.or last) after.files := by
  cases action with
  | report event => exact ⟨.refl desk, keeping⟩
  | hand position ring => exact ⟨.refl desk, keeping⟩
  | autosave p =>
      obtain ⟨next, opening⟩ := keeping.opening
      have written := write_opening opening auto (p.progress desk.clock).text
      have time : deskClock desk = (desk.clock, desk) := rfl
      rw [Player.carryOut_autosave_state, time, written]
      exact ⟨rfl, .saved (opening.2.put auto _) (stands_stored next root _ _)⟩

theorem carryOutAll_keeping (auto : Store.autosaveKey ∈ keys)
    (keeping : Keeping root keys last desk.files) (script : List Action) :
    let after := (Player.carryOutAll (deskStore root) deskClock script desk).2
    SameButFiles desk after ∧
      Keeping root keys ((Player.saved script).getLast?.or last) after.files := by
  induction script generalizing last desk with
  | nil => exact ⟨.refl desk, keeping⟩
  | cons action rest ih =>
      obtain ⟨same, kept⟩ := carryOut_keeping auto keeping action
      obtain ⟨later, final⟩ := ih kept
      have order : Player.saved (action :: rest) = Player.saved [action] ++ Player.saved rest :=
        List.filterMap_append (l := [action])
      rw [order, List.getLast?_append, Option.or_assoc]
      exact ⟨same.trans later, final⟩

theorem lookUp_desk (op : Player.Operation) (root : String) (desk : Desk) :
    (op.lookUp (deskStore root) desk).2 = desk := by
  cases op <;> rfl

/-- **An operation that plays keeps the session in progress**, whatever stood in the directory. -/
theorem run_keeping (auto : Store.autosaveKey ∈ keys)
    (keeping : Keeping root keys last desk.files) (p : Player) (op : Player.Operation)
    (plays : op ≠ .save) :
    let after := (p.run (deskStore root) deskClock op desk).2
    SameButFiles desk after ∧
      Keeping root keys ((p.stops (op.found (deskStore root) desk) op).getLast?.or last)
        after.files := by
  rw [Player.run_apply (deskStore root) deskClock p plays desk, lookUp_desk, ← Player.saved_played]
  exact carryOutAll_keeping auto keeping _

/-! ## Steps -/

section

variable {α β : Type} {next : Desk} {a : α}

/-- A step that does not fail hands over to the one behind it. -/
theorem run_bind {step : Step (StateM Desk) α} (done : step.run desk = (.ok a, next))
    (later : α → Step (StateM Desk) β) : (step >>= later).run desk = (later a).run next := by
  rw [ExceptT.run_bind]
  simp only [bind, StateT.bind, done]

end

/-- An operation over a directory is a step that does not fail. -/
theorem operate_run (root : String) (p : Player) (op : Player.Operation) (desk : Desk) :
    let ran := p.run (deskStore root) deskClock op desk
    (operate (storeIn (some root)) p op : Step (StateM Desk) Player.Outcome).run desk =
      (.ok ran.1, ran.2) := by
  have lifted : (operate (storeIn (some root)) p op : Step (StateM Desk) Player.Outcome) =
      liftM (p.run (deskStore root) Host.now op) := by
    rw [Player.lift_run, lift_store]
    rfl
  rw [lifted]
  rfl

end Crochet.CommandLine
