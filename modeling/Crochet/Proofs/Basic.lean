/-
# Crochet.Proofs.Basic -- joined lists and chained results

Two general facts.  A list joined from parts has the separator before every
part but the first, so what stands in it stands in a part or in the separator.
A chain of two results ends well exactly if both do.
-/

set_option autoImplicit false

namespace Crochet

section Joined

variable {α : Type} {sep : List α}

theorem intercalate_cons (first : List α) (rest : List (List α)) :
    sep.intercalate (first :: rest) = first ++ rest.flatMap fun part => sep ++ part := by
  induction rest generalizing first with
  | nil => simp
  | cons next rest ih => simp [List.intercalate_cons_cons, ih]

theorem mem_intercalate {a : α} {parts : List (List α)} (inside : a ∈ sep.intercalate parts) :
    a ∈ sep ∨ ∃ part ∈ parts, a ∈ part := by
  cases parts with
  | nil => simp at inside
  | cons first rest =>
      rw [intercalate_cons, List.mem_append, List.mem_flatMap] at inside
      rcases inside with here | ⟨part, isPart, later⟩
      · exact .inr ⟨first, List.mem_cons_self, here⟩
      · rcases List.mem_append.mp later with between | there
        · exact .inl between
        · exact .inr ⟨part, List.mem_cons_of_mem _ isPart, there⟩

end Joined

theorem Except.bind_eq_ok {ε α β : Type} {result : Except ε α} {next : α → Except ε β} {b : β} :
    (result >>= next) = .ok b ↔ ∃ a, result = .ok a ∧ next a = .ok b := by
  cases result with
  | error fault =>
      constructor
      · exact nofun
      · rintro ⟨a, same, -⟩
        cases same
  | ok a =>
      constructor
      · exact fun same => ⟨a, rfl, same⟩
      · rintro ⟨a', same, later⟩
        cases same
        exact later

end Crochet
