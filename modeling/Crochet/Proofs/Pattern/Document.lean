/-
# Crochet.Proofs.Pattern.Document -- patterns come back from their documents

A pattern whose rounds are numbered one after another is read back from its
document, flags and all, and nothing else is ever read: whatever the reader
accepts is so numbered, and otherwise the first wrong number is named.  The
summary is the exact one as long as its 64-bit total cannot wrap, which takes
more than two to the 32 rounds.
-/
import Crochet.Pattern.Document
import Crochet.Proofs.Json.Records
import Mathlib.Algebra.Group.Action.Defs
import Mathlib.Algebra.Order.BigOperators.Group.List
import Mathlib.Algebra.Order.Ring.Nat

set_option autoImplicit false

namespace Crochet

/-! ## Adding up -/

/-- A sum that grows round by round, each part in its own arithmetic. -/
theorem Summary.foldl_add (sum : Summary) (rounds : List Round) :
    rounds.foldl Summary.add sum = {
      rounds := sum.rounds + rounds.length
      totalStitches := sum.totalStitches +
        UInt64.ofNat ((rounds.map Round.stitches).map UInt32.toNat).sum
      maxStitches := (rounds.map Round.stitches).foldl max sum.maxStitches
      increaseRounds := sum.increaseRounds + rounds.countP Round.increases
      decreaseRounds := sum.decreaseRounds + rounds.countP Round.decreases } := by
  induction rounds generalizing sum with
  | nil => simp
  | cons round rounds ih =>
      have word : round.stitches.toUInt64 = UInt64.ofNat round.stitches.toNat := by simp
      rw [List.foldl_cons, ih, Summary.add]
      simp only [List.map_cons, List.sum_cons, List.foldl_cons, List.length_cons, List.countP_cons,
        UInt64.ofNat_add, word, Summary.mk.injEq]
      have counted (flag : Bool) : flag.toNat = if flag = true then 1 else 0 := by cases flag <;> rfl
      rw [counted, counted]
      exact ⟨by omega, by ac_rfl, trivial, by omega, by omega⟩

namespace Pattern

/-- The exact number of stitches of all rounds together. -/
def totalOf (p : Pattern) : Nat := (p.counts.map UInt32.toNat).sum

/-- Up to two to the 32 rounds the total is a 64-bit number. -/
theorem totalOf_lt {p : Pattern} (few : p.length ≤ 4294967296) : p.totalOf < UInt64.size := by
  have each : ∀ n ∈ p.counts.map UInt32.toNat, n ≤ 4294967295 := by
    intro n inside
    obtain ⟨count, -, rfl⟩ := List.mem_map.mp inside
    have := count.toNat_lt
    omega
  have bound := List.sum_le_card_nsmul _ _ each
  rw [List.length_map, counts, List.length_map, smul_eq_mul] at bound
  calc p.totalOf ≤ p.length * 4294967295 := bound
    _ ≤ 4294967296 * 4294967295 := Nat.mul_le_mul_right _ few
    _ < UInt64.size := by decide

theorem max?_getD_eq (counts : List Count) : counts.max?.getD 0 = counts.foldl max 0 := by
  cases counts with
  | nil => rfl
  | cons count counts =>
      have least : max 0 count = count := if_pos UInt32.zero_le
      rw [List.max?_cons', Option.getD_some, List.foldl_cons, least]

/-- A summary adds up exactly, but for its total, which is exact in 64 bits. -/
theorem summary_eq (p : Pattern) : p.summary = {
    rounds := p.rounds.length
    totalStitches := UInt64.ofNat p.totalOf
    maxStitches := p.counts.max?.getD 0
    increaseRounds := p.rounds.countP Round.increases
    decreaseRounds := p.rounds.countP Round.decreases } := by
  simp [summary, Summary.foldl_add, totalOf, counts, max?_getD_eq]

/-- The members of a summary that states the exact figures of a pattern. -/
def figures (p : Pattern) : Json.Fields := [
  ("rounds", .ofNat p.rounds.length),
  ("total_stitches", .ofNat p.totalOf),
  ("max_stitches", .ofNat (p.counts.max?.getD 0).toNat),
  ("increase_rounds", .ofNat (p.rounds.countP Round.increases)),
  ("decrease_rounds", .ofNat (p.rounds.countP Round.decreases))]

theorem summary_toJson {p : Pattern} (few : p.length ≤ 4294967296) :
    p.summary.toJson = .ofFields p.figures := by
  rw [summary_eq, Summary.toJson, UInt64.toNat_ofNat_of_lt' (totalOf_lt few)]
  rfl

end Pattern

/-! ## Rounds -/

namespace Round

theorem toJson_plain (r : Round) : r.toJson.Plain :=
  Json.ofFields_plain (by simp [Json.ofNat_plain, Json.ofText_plain, Json.Plain])

/-- A round whose number is a machine word is read back, flags included. -/
theorem ofJson?_toJson {r : Round} (word : r.index < UInt64.size) : ofJson? r.toJson = some r := by
  have fields := Json.record?_ofFields names
    [("index", .ofNat r.index), ("source_text", .ofText r.text),
      ("stitch_count", .ofNat r.stitches.toNat), ("has_increase", .bool r.increases),
      ("has_decrease", .bool r.decreases)] (by simp [names, Json.noneTwice])
  simp [ofJson?, toJson, fields, Json.Fields.required?, List.lookup_cons, Json.nat?_ofNat word,
    Json.bool?]

theorem index_lt_of_ofJson? {r : Round} {value : Json} (read : ofJson? value = some r) :
    r.index < UInt64.size := by
  simp only [ofJson?, Option.bind_eq_bind, Option.bind_eq_some_iff] at read
  obtain ⟨fields, -, index, isIndex, text, -, stitches, -, increases, -, decreases, -, whole⟩ := read
  obtain rfl := Option.some.inj whole
  obtain ⟨value, -, isNumber⟩ := Option.bind_eq_some_iff.mp isIndex
  exact Json.lt_of_nat? isNumber

end Round

/-! ## Documents -/

namespace Pattern

theorem toJson_plain (p : Pattern) : p.toJson.Plain := by
  have rounds : (Json.array (p.rounds.map Round.toJson)).Plain :=
    Json.array_plain (by simp [Round.toJson_plain])
  have summary : p.summary.toJson.Plain := Json.ofFields_plain (by simp [Json.ofNat_plain])
  exact Json.ofFields_plain (by simp [rounds, summary])

/-- What a document says before the numbers are looked at. -/
def read? (text : String) : Option Pattern := (Json.ofString? text).bind ofJson?

/-- A pattern is read back from its document, however its rounds are numbered. -/
theorem read?_toDocument {p : Pattern} (words : ∀ r ∈ p.rounds, r.index < UInt64.size) :
    read? p.toDocument = some p := by
  have rounds := Json.list?_map_of_mem fun r inside => Round.ofJson?_toJson (words r inside)
  have fields := Json.record?_ofFields ["rounds"]
    [("summary", p.summary.toJson), ("rounds", .array (p.rounds.map Round.toJson))]
    (by simp [Json.noneTwice])
  rw [read?, toDocument, Json.ofString?_indented p.toJson_plain, Option.bind_some]
  simp [ofJson?, toJson, fields, Json.Fields.required?, List.lookup_cons, rounds]

/-- Numbers that were read are machine words. -/
theorem index_lt_of_read? {text : String} {p : Pattern} (read : read? text = some p) :
    ∀ r ∈ p.rounds, r.index < UInt64.size := by
  obtain ⟨value, -, isPattern⟩ := Option.bind_eq_some_iff.mp read
  simp only [ofJson?, Option.bind_eq_bind, Option.bind_eq_some_iff] at isPattern
  obtain ⟨fields, -, rounds, isRounds, whole⟩ := isPattern
  obtain rfl := Option.some.inj whole
  intro r inside
  obtain ⟨list, -, isList⟩ := Option.bind_eq_some_iff.mp isRounds
  obtain ⟨item, isItem⟩ := Json.exists_of_mem_list? isList inside
  exact Round.index_lt_of_ofJson? isItem

/-! ## Numbers -/

/-- The rounds are numbered one, two, three and so on. -/
def Numbered (p : Pattern) : Prop :=
  ∀ (i : Nat) (r : Round), p.rounds[i]? = some r → r.index = i + 1

/-- Rounds that are numbered from a position on are numbered there and from the next one on. -/
theorem numberedFrom_cons_iff {position : Nat} {round : Round} {rounds : List Round} :
    (∀ (i : Nat) (r : Round), (round :: rounds)[i]? = some r → r.index = position + i + 1) ↔
      round.index = position + 1 ∧
        ∀ (i : Nat) (r : Round), rounds[i]? = some r → r.index = position + 1 + i + 1 := by
  constructor
  · intro all
    refine ⟨all 0 round rfl, fun i r found => ?_⟩
    rw [all (i + 1) r found]
    omega
  · rintro ⟨first, later⟩ i r found
    cases i with
    | zero =>
        obtain rfl : round = r := by simpa using found
        exact first
    | succ i =>
        rw [later i r found]
        omega

theorem misnumberedFrom_eq_none_iff (position : Nat) (rounds : List Round) :
    misnumberedFrom position rounds = none ↔
      ∀ (i : Nat) (r : Round), rounds[i]? = some r → r.index = position + i + 1 := by
  induction rounds generalizing position with
  | nil => simp [misnumberedFrom]
  | cons round rounds ih =>
      rw [numberedFrom_cons_iff, ← ih, misnumberedFrom]
      split <;> simp [*]

/-- What is found is the first round whose number is wrong. -/
theorem misnumberedFrom_eq_some {position : Nat} {rounds : List Round} {m : Misnumbered}
    (found : misnumberedFrom position rounds = some m) :
    ∃ i r, rounds[i]? = some r ∧ r.index ≠ position + i + 1 ∧
      (∀ j < i, ∀ other, rounds[j]? = some other → other.index = position + j + 1) ∧
      m = { position := position + i, index := r.index } := by
  induction rounds generalizing position with
  | nil => cases found
  | cons round rounds ih =>
      rw [misnumberedFrom] at found
      split at found
      · rename_i right
        obtain ⟨i, r, isRound, wrong, before, rfl⟩ := ih found
        refine ⟨i + 1, r, isRound, by omega, fun j less other isOther => ?_, ?_⟩
        · cases j with
          | zero =>
              obtain rfl : round = other := by simpa using isOther
              exact right
          | succ j =>
              rw [before j (by omega) other isOther]
              omega
        · rw [Nat.add_right_comm, Nat.add_assoc]
      · rename_i wrong
        obtain rfl := Option.some.inj found
        exact ⟨0, round, rfl, wrong, by simp, rfl⟩

theorem ofDocument_eq (text : String) :
    ofDocument text =
      match read? text with
      | none => .error (.serialization "not a pattern document")
      | some p =>
        match misnumberedFrom 0 p.rounds with
        | some misnumbered => .error (.validation misnumbered.reason)
        | none => .ok p := rfl

theorem numbered_iff (p : Pattern) : p.Numbered ↔ misnumberedFrom 0 p.rounds = none := by
  rw [misnumberedFrom_eq_none_iff, Numbered]
  simp only [Nat.zero_add]

/-- A document is accepted as what it says exactly when that is numbered. -/
theorem ofDocument_eq_ok_iff {text : String} {p : Pattern} :
    ofDocument text = .ok p ↔ read? text = some p ∧ p.Numbered := by
  rw [ofDocument_eq]
  cases read? text with
  | none => simp
  | some q =>
      cases found : misnumberedFrom 0 q.rounds with
      | none =>
          have good := (numbered_iff q).mpr found
          simp only [found, Except.ok.injEq, Option.some.injEq]
          exact ⟨fun same => ⟨same, same ▸ good⟩, And.left⟩
      | some m =>
          simp only [found, reduceCtorEq, Option.some.injEq, false_iff, not_and]
          rintro rfl good
          rw [(numbered_iff q).mp good] at found
          cases found

/-- A document with wrong numbers is refused for the first of them. -/
theorem ofDocument_eq_error {text : String} {p : Pattern} (read : read? text = some p)
    (unnumbered : ¬ p.Numbered) :
    ∃ i r, p.rounds[i]? = some r ∧ r.index ≠ i + 1 ∧
      (∀ j < i, ∀ other, p.rounds[j]? = some other → other.index = j + 1) ∧
      ofDocument text = .error (.validation (Misnumbered.mk i r.index).reason) := by
  cases found : misnumberedFrom 0 p.rounds with
  | none => exact absurd ((numbered_iff p).mpr found) unnumbered
  | some m =>
      obtain ⟨i, r, isRound, wrong, before, rfl⟩ := misnumberedFrom_eq_some found
      simp only [Nat.zero_add] at wrong before found
      refine ⟨i, r, isRound, wrong, before, ?_⟩
      rw [ofDocument_eq, read]
      simp only [found]

/-- **Patterns come back from their documents.**  A pattern of at most two to the 32 rounds that are
numbered one after another is read back from its document, and the summary there states its exact
figures.  Whatever is accepted is so numbered and comes back from its own document.  A document
with any other numbers is refused, and the first position with a wrong one is named. -/
theorem ofDocument_toDocument :
    (∀ p : Pattern, p.Numbered → p.length ≤ 4294967296 →
      ofDocument p.toDocument = .ok p ∧
        Json.ofString? p.toDocument = some (.ofFields
          [("summary", .ofFields p.figures), ("rounds", .array (p.rounds.map Round.toJson))])) ∧
    (∀ (text : String) (p : Pattern), ofDocument text = .ok p →
      p.Numbered ∧ ofDocument p.toDocument = .ok p) ∧
    ∀ (text : String) (p : Pattern), (Json.ofString? text).bind ofJson? = some p → ¬ p.Numbered →
      ∃ i r, p.rounds[i]? = some r ∧ r.index ≠ i + 1 ∧
        (∀ j < i, ∀ other, p.rounds[j]? = some other → other.index = j + 1) ∧
        ofDocument text = .error (.validation ("round at position " ++ i.repr ++ " has index " ++
          r.index.repr ++ " (expected " ++ (i + 1).repr ++ ")")) := by
  refine ⟨fun p numbered few => ⟨?_, ?_⟩, fun text p accepted => ?_, fun text p read unnumbered => ?_⟩
  · refine ofDocument_eq_ok_iff.mpr ⟨read?_toDocument fun r inside => ?_, numbered⟩
    obtain ⟨i, isRound⟩ := List.mem_iff_getElem?.mp inside
    have within := (List.getElem?_eq_some_iff.mp isRound).1
    have small : 4294967296 < UInt64.size := by decide
    rw [numbered i r isRound]
    simp only [length] at few
    omega
  · rw [toDocument, Json.ofString?_indented p.toJson_plain, toJson, summary_toJson few]
  · obtain ⟨read, numbered⟩ := ofDocument_eq_ok_iff.mp accepted
    exact ⟨numbered,
      ofDocument_eq_ok_iff.mpr ⟨read?_toDocument (index_lt_of_read? read), numbered⟩⟩
  · exact ofDocument_eq_error read unnumbered

/-- Two of the widest rounds, with flags that their texts do not bear out. -/
def widest : Pattern := ⟨[
  ⟨1, "6 sc in \"MR\"\n", 4294967295, true, true⟩,
  ⟨2, "[sc, inc] x6", 4294967295, false, true⟩]⟩

/-- Rounds that leave a number out and repeat one. -/
def skipping : Pattern := ⟨[⟨1, "", 6, false, false⟩, ⟨3, "inc", 9, true, false⟩,
  ⟨3, "9 sc", 9, false, false⟩]⟩

theorem ofDocument_toDocument_widest_skipping :
    widest.Numbered ∧ widest.length ≤ 4294967296 ∧ widest.totalOf = 8589934590 ∧
      ofDocument widest.toDocument = .ok widest ∧
      (Json.ofString? skipping.toDocument).bind ofJson? = some skipping ∧ ¬ skipping.Numbered ∧
      ofDocument skipping.toDocument =
        .error (.validation "round at position 1 has index 3 (expected 2)") := by
  have numbered : widest.Numbered := (numbered_iff _).mpr rfl
  have few : widest.length ≤ 4294967296 := by decide
  have read : read? skipping.toDocument = some skipping := read?_toDocument (by decide)
  have unnumbered : ¬ skipping.Numbered := fun good => by
    have := (numbered_iff _).mp good
    cases this
  have accepted := (ofDocument_toDocument.1 widest numbered few).1
  have again := (ofDocument_toDocument.2.1 _ _ accepted).2
  obtain ⟨i, r, isRound, wrong, before, refused⟩ :=
    ofDocument_toDocument.2.2 _ _ read unnumbered
  have position : i = 1 := by
    rcases Nat.lt_trichotomy i 1 with less | same | more
    · obtain rfl : i = 0 := by omega
      obtain rfl := Option.some.inj isRound
      exact absurd rfl wrong
    · exact same
    · exact absurd (before 1 more _ rfl) (by decide)
  subst position
  obtain rfl := Option.some.inj isRound
  exact ⟨numbered, few, by decide, again, read, unnumbered, refused⟩

end Pattern

end Crochet
