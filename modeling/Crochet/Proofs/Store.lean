/-
# Crochet.Proofs.Store -- stores that keep what they are given

A store `Keeps` what is written to it when a write that works replaces one text
and nothing else changes any; which writes and reads fail is left open.  The
memory keeps, and so does a keeping store whose attempts fail by a schedule.
-/
import Crochet.Store.Memory
import Mathlib.Tactic.Common

set_option autoImplicit false

namespace Crochet

namespace Store

/-- A store that gives back what was last successfully written under a key; `held` is what it
holds.  A write that fails, a read and the clock change nothing. -/
structure Keeps {σ : Type} (store : Store (StateM σ)) (clock : StateM σ Timestamp)
    (held : σ → String → Option String) : Prop where
  write_ok : ∀ key text s, (store.write key text s).1 = .ok () →
    held (store.write key text s).2 = fun other => if other = key then some text else held s other
  write_error : ∀ key text s fault, (store.write key text s).1 = .error fault →
    held (store.write key text s).2 = held s
  read_ok : ∀ key s found, (store.read key s).1 = .ok found → found = held s key
  read_held : ∀ key s, held (store.read key s).2 = held s
  clock_held : ∀ s, held (clock s).2 = held s

variable {σ : Type}

/-- Refuses an attempt when the schedule says so, which uses up one entry of it; after the last
entry nothing is refused. -/
def refusing {α : Type} (attempt : StateM σ (Except StoreFault α)) :
    StateM (σ × List Bool) (Except StoreFault α)
  | (s, true :: later) => (.error (.failed "refused"), s, later)
  | (s, schedule) => ((attempt s).1, (attempt s).2, schedule.tail)

/-- A store whose attempts fail by a schedule. -/
def faulty (store : Store (StateM σ)) : Store (StateM (σ × List Bool)) where
  write key text := refusing (store.write key text)
  read key := refusing (store.read key)

/-- An attempt is refused and leaves everything as it was, or made. -/
theorem refusing_cases {α : Type} (attempt : StateM σ (Except StoreFault α)) (s : σ)
    (schedule : List Bool) :
    (∃ later, refusing attempt (s, schedule) = (.error (.failed "refused"), s, later)) ∨
      ∃ later, refusing attempt (s, schedule) = ((attempt s).1, (attempt s).2, later) := by
  rcases schedule with _ | ⟨refused, later⟩
  · exact .inr ⟨[], rfl⟩
  · cases refused with
    | true => exact .inl ⟨later, rfl⟩
    | false => exact .inr ⟨later, rfl⟩

/-- A store that keeps still does when some attempts fail. -/
theorem faulty_keeps {store : Store (StateM σ)} {clock : StateM σ Timestamp}
    {held : σ → String → Option String} (keeps : store.Keeps clock held) (now : Timestamp) :
    (faulty store).Keeps (pure now) fun s => held s.1 where
  write_ok key text := fun (s, schedule) worked => by
    rcases refusing_cases (store.write key text) s schedule with ⟨later, refused⟩ | ⟨later, made⟩
    · simp [faulty, refused] at worked
    · simp only [faulty, made] at worked ⊢
      exact keeps.write_ok key text s worked
  write_error key text := fun (s, schedule) fault failed => by
    rcases refusing_cases (store.write key text) s schedule with ⟨later, refused⟩ | ⟨later, made⟩
    · simp only [faulty, refused]
    · simp only [faulty, made] at failed ⊢
      exact keeps.write_error key text s fault failed
  read_ok key := fun (s, schedule) found worked => by
    rcases refusing_cases (store.read key) s schedule with ⟨later, refused⟩ | ⟨later, made⟩
    · simp [faulty, refused] at worked
    · simp only [faulty, made] at worked
      exact keeps.read_ok key s found worked
  read_held key := fun (s, schedule) => by
    rcases refusing_cases (store.read key) s schedule with ⟨later, refused⟩ | ⟨later, made⟩
    · simp only [faulty, refused]
    · simp only [faulty, made]
      exact keeps.read_held key s
  clock_held _ := rfl

end Store

/-- The memory keeps what is written to it. -/
theorem Memory.store_keeps (now : Timestamp) :
    Memory.store.Keeps (pure now) fun s key => s.find? key where
  write_ok key text s _ := by
    funext other
    rw [if_congr eq_comm rfl rfl]
    exact Table.find?_insert key other text s
  write_error key text s fault failed := by cases failed
  read_ok key s found worked := (Except.ok.inj worked).symm
  read_held _ _ := rfl
  clock_held _ := rfl

end Crochet
