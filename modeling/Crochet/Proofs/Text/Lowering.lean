/-
# Crochet.Proofs.Text.Lowering -- ASCII words in a text put into small letters

Unicode's small letters are not found character by character: a character may
be lowered to several, and some are lowered in two ways, by what stands around
them.  `Lowered` says of this what matters to an ASCII word.  ASCII characters
are lowered on their own, and beyond ASCII just two signs come down to an ASCII
letter: the kelvin sign to a k, and the I with a dot to an i that its dot stays
behind.  A `Sturdy` word has no k and does not end with an i, so neither sign
takes part in it, and lowering the ASCII letters alone shows where it stands.
-/
import Crochet.Proofs.Text.Words

set_option autoImplicit false

namespace Crochet.Text

/-! ## Small letters -/

/-- What a character may become in small letters. -/
inductive LowersTo : Char → List Char → Prop where
  | ascii {c : Char} (plain : c.isAscii = true) : LowersTo c [c.toLower]
  | kelvin : LowersTo '\u212A' ['k']
  /-- The dot is left as a combining one. -/
  | dotted : LowersTo '\u0130' ['i', '\u0307']
  | other {c : Char} {block : List Char} (beyond : c.isAscii = false) (some : block ≠ [])
      (stays : ∀ d ∈ block, d.isAscii = false) : LowersTo c block

/-- The second text is the first one in small letters. -/
inductive Lowered : List Char → List Char → Prop where
  | nil : Lowered [] []
  | cons {c : Char} {block line lowered : List Char} (first : LowersTo c block)
      (others : Lowered line lowered) : Lowered (c :: line) (block ++ lowered)

variable {word line lowered block : List Char} {c : Char}

/-- Lowering the ASCII letters changes no other character. -/
theorem toLower_of_beyond (beyond : c.isAscii = false) : c.toLower = c := by
  have high : ¬ c.toNat < 128 := of_decide_eq_false beyond
  refine dif_neg fun capital => high ?_
  have least : c.toNat ≤ 90 := capital.2
  omega

theorem LowersTo.eq_of_ascii (lowers : LowersTo c block) (plain : c.isAscii = true) :
    block = [c.toLower] := by
  cases lowers with
  | ascii => rfl
  | kelvin => cases plain
  | dotted => cases plain
  | other beyond =>
      rw [beyond] at plain
      cases plain

/-- Only the first character that a character becomes can be an ASCII one. -/
theorem LowersTo.shape (lowers : LowersTo c block) :
    ∃ d behind, block = d :: behind ∧ ∀ e ∈ behind, e.isAscii = false := by
  cases lowers with
  | ascii => exact ⟨_, [], rfl, by simp⟩
  | kelvin => exact ⟨_, [], rfl, by simp⟩
  | dotted => exact ⟨_, _, rfl, List.forall_mem_singleton.mpr rfl⟩
  | other _ some stays =>
      obtain ⟨d, behind, rfl⟩ := List.exists_cons_of_ne_nil some
      exact ⟨d, behind, rfl, fun e inside => stays e (.tail d inside)⟩

/-- Every text can be put into small letters. -/
theorem exists_lowered (line : List Char) : ∃ lowered, Lowered line lowered := by
  induction line with
  | nil => exact ⟨[], .nil⟩
  | cons c line ih =>
      obtain ⟨lowered, others⟩ := ih
      by_cases plain : c.isAscii = true
      · exact ⟨_, .cons (.ascii plain) others⟩
      · have beyond : c.isAscii = false := by simpa using plain
        exact ⟨_, .cons (.other beyond (List.cons_ne_nil c []) (by simpa using beyond)) others⟩

/-! ## Words that lowering neither makes nor breaks -/

/-- An ASCII word that no character beyond ASCII is lowered into. -/
structure Sturdy (word : List Char) : Prop where
  ascii : ∀ c ∈ word, c.isAscii = true
  noKelvin : 'k' ∉ word
  noDotted : word.getLast? ≠ some 'i'

instance (word : List Char) : Decidable (Sturdy word) :=
  decidable_of_iff (word.all Char.isAscii = true ∧ 'k' ∉ word ∧ word.getLast? ≠ some 'i')
    ⟨fun ⟨ascii, noKelvin, noDotted⟩ => ⟨List.all_eq_true.mp ascii, noKelvin, noDotted⟩,
      fun sturdy => ⟨List.all_eq_true.mpr sturdy.ascii, sturdy.noKelvin, sturdy.noDotted⟩⟩

theorem Sturdy.tail (sturdy : Sturdy (c :: word)) : Sturdy word where
  ascii d inside := sturdy.ascii d (.tail c inside)
  noKelvin inside := sturdy.noKelvin (.tail c inside)
  noDotted last := sturdy.noDotted (by rw [List.getLast?_cons, last]; rfl)

/-- An ASCII word does not start with a character beyond ASCII. -/
theorem Sturdy.not_starts (sturdy : Sturdy word) (some : word ≠ []) (beyond : c.isAscii = false) :
    ¬ word <+: c :: line := by
  intro starts
  obtain ⟨d, rest, rfl⟩ := List.exists_cons_of_ne_nil some
  obtain ⟨rfl, -⟩ := List.cons_prefix_cons.mp starts
  have ascii := sturdy.ascii d List.mem_cons_self
  rw [beyond] at ascii
  cases ascii

/-- What a character beyond ASCII becomes does not begin a sturdy word. -/
theorem Sturdy.not_starts_block (sturdy : Sturdy word) (some : word ≠ [])
    (lowers : LowersTo c block) (beyond : c.isAscii = false) : ¬ word <+: block ++ lowered := by
  intro starts
  cases lowers with
  | ascii plain =>
      rw [beyond] at plain
      cases plain
  | kelvin =>
      obtain ⟨d, rest, rfl⟩ := List.exists_cons_of_ne_nil some
      obtain ⟨rfl, -⟩ := List.cons_prefix_cons.mp starts
      exact sturdy.noKelvin List.mem_cons_self
  | dotted =>
      -- the word is the letter alone, which it may not end with, or it goes on with the dot
      obtain ⟨d, rest, rfl⟩ := List.exists_cons_of_ne_nil some
      obtain ⟨rfl, goesOn⟩ := List.cons_prefix_cons.mp starts
      by_cases alone : rest = []
      · exact sturdy.noDotted (by rw [alone]; rfl)
      · exact sturdy.tail.not_starts alone (by decide) goesOn
  | other _ filled stays =>
      obtain ⟨d, behind, rfl⟩ := List.exists_cons_of_ne_nil filled
      exact sturdy.not_starts some (stays d List.mem_cons_self) starts

/-- A sturdy word starts the text in small letters exactly where it starts the one whose ASCII
letters are lowered. -/
theorem Sturdy.starts_iff (sturdy : Sturdy word) (lowers : Lowered line lowered) :
    word <+: lowered ↔ word <+: line.map Char.toLower := by
  induction word generalizing line lowered with
  | nil => simp
  | cons d word ih =>
      cases lowers with
      | nil => rfl
      | @cons c block line lowered first others =>
          by_cases plain : c.isAscii = true
          · obtain rfl := first.eq_of_ascii plain
            rw [List.map_cons, List.singleton_append, List.cons_prefix_cons, List.cons_prefix_cons,
              ih sturdy.tail others]
          · have beyond : c.isAscii = false := by simpa using plain
            rw [List.map_cons, toLower_of_beyond beyond]
            exact iff_of_false (sturdy.not_starts_block (List.cons_ne_nil d word) first beyond)
              (sturdy.not_starts (List.cons_ne_nil d word) beyond)

/-- A sturdy word stands in the text in small letters exactly if it stands in the one whose ASCII
letters are lowered. -/
theorem Sturdy.holds_iff (sturdy : Sturdy word) (some : word ≠ []) (lowers : Lowered line lowered) :
    word <:+: lowered ↔ word <:+: line.map Char.toLower := by
  induction lowers with
  | nil => rfl
  | @cons c block line lowered first others ih =>
      have starts := sturdy.starts_iff (.cons first others)
      obtain ⟨d, behind, rfl, stays⟩ := first.shape
      -- behind its first character a block holds nothing of the word
      have past : word <:+: behind ++ lowered ↔ word <:+: lowered := by
        have apart : ∀ e ∈ word, (!e.isAscii) = false := by simpa using sturdy.ascii
        have all : ∀ e ∈ behind, (!e.isAscii) = true := by simpa using stays
        rw [← holds_dropWhile_iff some apart, List.dropWhile_append_of_pos all,
          holds_dropWhile_iff some apart]
      rw [List.map_cons, List.infix_cons_iff, ← List.map_cons, ← starts, ← ih, ← past,
        List.cons_append, List.infix_cons_iff]

theorem Sturdy.occurs_eq (sturdy : Sturdy word) (some : word ≠ []) (lowers : Lowered line lowered) :
    occurs word lowered = occurs word (line.map Char.toLower) := by
  rw [Bool.eq_iff_iff, occurs_iff, occurs_iff]
  exact sturdy.holds_iff some lowers

/-- A word that stands in a text stands in it in small letters. -/
theorem occurs_toLower (occurs : occurs word line = true) :
    Text.occurs (word.map Char.toLower) (line.map Char.toLower) = true := by
  rw [occurs_iff] at occurs ⊢
  exact occurs.map Char.toLower

end Crochet.Text
