/-
# Crochet.Proofs.CommandLine.Lifting -- one program on several hosts

A program that only reads and writes files does the same wherever files can be
lifted to, and so does a store made of such programs and an operation over it.
There are two liftings: what happens to a tree of files happens on a desk, and
what runs on a host runs as a step of a command, which then does not fail.
-/
import Crochet.CommandLine.Run
import Mathlib.Tactic.Common

set_option autoImplicit false

namespace Crochet

/-- Lifting takes what is done with files in one monad to the same in another. -/
class LiftsFiles (m n : Type → Type) [MonadLiftT m n] [Files m] [Files n] : Prop where
  read : ∀ path, (liftM (Files.read path : m (Except FileFault ByteArray)) : n _) =
    Files.read path
  write : ∀ path bytes, (liftM (Files.write path bytes : m (Except FileFault Unit)) : n _) =
    Files.write path bytes
  createDir : ∀ path, (liftM (Files.createDir path : m (Except FileFault Unit)) : n _) =
    Files.createDir path

variable {m n : Type → Type} [Monad m] [Monad n] [MonadLiftT m n] [LawfulMonadLiftT m n]

/-! ## Files -/

namespace Files

variable [Files m] [Files n] [LiftsFiles m n]

theorem lift_isDirectory (path : String) :
    (liftM (isDirectory path : m Bool) : n Bool) = isDirectory path := by
  simp only [isDirectory, monadLift_bind, LiftsFiles.read]
  congr 1
  funext found
  split <;> exact monadLift_pure _

theorem lift_unlessThere (path : String) (result : Except FileFault Unit) :
    (liftM (unlessThere path result : m (Except FileFault Unit)) : n _) =
      unlessThere path result := by
  cases result with
  | ok done => exact monadLift_pure _
  | error fault =>
      simp only [unlessThere, monadLift_bind, lift_isDirectory]
      congr 1
      funext isThere
      split <;> exact monadLift_pure _

theorem lift_createFirst (paths : List String) :
    (liftM (createFirst paths : m (Except FileFault Unit)) : n _) = createFirst paths := by
  induction paths with
  | nil => exact monadLift_pure _
  | cons path above ih =>
      simp only [createFirst, monadLift_bind, LiftsFiles.createDir]
      congr 1
      funext made
      split
      · simp only [monadLift_bind, ih]
        congr 1
        funext climbed
        split
        · simp only [monadLift_bind, LiftsFiles.createDir, lift_unlessThere]
        · exact monadLift_pure _
      · exact lift_unlessThere path made

theorem lift_createDirs (path : String) :
    (liftM (createDirs path : m (Except FileFault Unit)) : n _) = createDirs path :=
  lift_createFirst _

end Files

/-! ## Stores -/

namespace Store

/-- A store, used from another monad. -/
def lift (n : Type → Type) [MonadLiftT m n] (store : Store m) : Store n where
  write key text := liftM (store.write key text)
  read key := liftM (store.read key)

theorem lift_load (store : Store m) (key : String) :
    (liftM (store.load key) : n _) = (store.lift n).load key := by
  simp only [load, monadLift_bind, monadLift_pure]
  rfl

end Store

namespace Directory

variable [Files m] [Files n] [LiftsFiles m n]

theorem lift_write (root key text : String) :
    (liftM (write root key text : m (Except StoreFault Unit)) : n _) = write root key text := by
  simp only [write, monadLift_bind, Files.lift_createDirs]
  congr 1
  funext created
  split
  · exact monadLift_pure _
  · simp only [monadLift_bind, LiftsFiles.write]
    congr 1
    funext written
    split <;> exact monadLift_pure _

theorem lift_read (root key : String) :
    (liftM (read root key : m (Except StoreFault (Option String))) : n _) = read root key := by
  simp only [read, monadLift_bind, LiftsFiles.read, monadLift_pure]

theorem lift_store (root : String) : (store root : Store m).lift n = store root := by
  unfold Store.lift store
  congr 1
  · funext key text
    simp only
    split
    · exact lift_write root key text
    · exact monadLift_pure _
  · funext key
    simp only
    split
    · exact lift_read root key
    · exact monadLift_pure _

end Directory

/-! ## Players -/

namespace Player

variable (store : Store m) (clock : m Timestamp)

theorem lift_attempt (p : Player) (key : String) (snapshot : Snapshot) :
    (liftM (attempt store p key snapshot) : n _) = attempt (store.lift n) p key snapshot := by
  simp only [attempt, monadLift_bind, monadLift_pure]
  rfl

theorem lift_carryOut (action : Action) :
    (liftM (carryOut store clock action) : n _) =
      carryOut (store.lift n) (liftM clock) action := by
  cases action with
  | autosave p => simp only [carryOut, monadLift_bind, lift_attempt, monadLift_pure]
  | _ => exact monadLift_pure _

theorem lift_carryOutAll (script : List Action) :
    (liftM (carryOutAll store clock script) : n _) =
      carryOutAll (store.lift n) (liftM clock) script := by
  induction script with
  | nil => exact monadLift_pure _
  | cons action rest ih =>
      simp only [carryOutAll, monadLift_bind, lift_carryOut, ih, monadLift_pure]

theorem lift_finish (reports : List Event) (answer : Answer) (played : Played) :
    (liftM (finish store clock reports answer played) : n _) =
      finish (store.lift n) (liftM clock) reports answer played := by
  simp only [finish, monadLift_bind, lift_carryOutAll, monadLift_pure]

/-- **An operation over a store that is used from elsewhere** is the operation over that store. -/
theorem lift_run (p : Player) (op : Operation) :
    (liftM (run store clock p op) : n _) = run (store.lift n) (liftM clock) p op := by
  cases op with
  | load text terms => exact lift_finish store clock _ _ _
  | advance =>
      simp only [run]
      split
      · exact lift_finish store clock _ _ _
      · exact monadLift_pure _
  | advanceAll => exact lift_finish store clock _ _ _
  | reset => exact lift_finish store clock _ _ _
  | save => simp only [run, monadLift_bind, lift_attempt, monadLift_pure]
  | restore =>
      simp only [run, monadLift_bind, Store.lift_load, lift_finish]
  | recover =>
      simp only [run, monadLift_bind, Store.lift_load]
      congr 1
      funext found
      obtain ⟨snapshot | snapshot, events⟩ := found
      · exact monadLift_pure _
      · exact lift_finish store clock _ _ _
  | renew settings => exact monadLift_pure _

end Player

/-! ## Desks and steps -/

namespace CommandLine

/-- What is done to the files of a desk. -/
instance : MonadLift (StateM FileTree) (StateM Desk) where
  monadLift change desk := ((change desk.files).1, { desk with files := (change desk.files).2 })

instance : LawfulMonadLift (StateM FileTree) (StateM Desk) where
  monadLift_pure _ := rfl
  monadLift_bind _ _ := rfl

instance : LiftsFiles (StateM FileTree) (StateM Desk) where
  read _ := rfl
  write _ _ := rfl
  createDir _ := rfl

instance {m : Type → Type} [Monad m] [Host m] : LiftsFiles m (Step m) where
  read _ := rfl
  write _ _ := rfl
  createDir _ := rfl

end CommandLine

end Crochet
