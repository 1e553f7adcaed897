/-
# Crochet.Proofs.Snapshot.Canonical -- one text for every snapshot

Many texts are read as one snapshot: fields may come in any order and among
others, an absent cursor may be spelled `null`, and an instant has many
spellings.  Reading a text and writing the snapshot anew gives the one text that
is its own rewriting, so a snapshot that was read can be compared by its text.
Only a clock can hold what no text says, nanoseconds that run on into an
ordinary second: such a snapshot comes back settled.
-/
import Crochet.Proofs.Snapshot

set_option autoImplicit false

namespace Crochet.Snapshot

/-- A text read as a snapshot and written anew. -/
def rewritten? (text : String) : Option String := (ofString? text).map Snapshot.text

/-! ## Spellings -/

/-- The fields spell the cursor: a number, or for none no field or `null`. -/
inductive SpellsCursor : Option UInt64 → Json.Fields → Prop where
  | number (word : UInt64) : SpellsCursor (some word) [("cursor", .ofNat word.toNat)]
  | missing : SpellsCursor none []
  | null : SpellsCursor none [("cursor", .null)]

/-- However a cursor is spelled, it is read as itself. -/
theorem SpellsCursor.optional? {cursor : Option UInt64} {spelled fields : Json.Fields}
    (spells : SpellsCursor cursor spelled)
    (found : fields.lookup "cursor" = spelled.lookup "cursor") :
    fields.optional? "cursor" none (Json.nullable? Json.uint64?) = some cursor := by
  rw [Json.Fields.optional?, found]
  cases spells with
  | number word => simp [Json.nullable?_ofNat]
  | missing => rfl
  | null => rfl

/-- A cursor has one field at most. -/
theorem SpellsCursor.noneTwice {cursor : Option UInt64} {spelled : Json.Fields}
    (spells : SpellsCursor cursor spelled) (rounds time : Json) :
    Json.noneTwice ["pattern", "timestamp", "cursor"]
      (("pattern", rounds) :: ("timestamp", time) :: spelled) = true := by
  cases spells <;> rfl

/-- The fields spell the snapshot: items that are read as its rounds, its time in any spelling, and
its cursor, in any order and among any fields of other names. -/
def Spelled (s : Snapshot) (fields : Json.Fields) : Prop :=
  ∃ (items : List Json) (time : String) (cursor others : Json.Fields),
    fields.Perm (("pattern", .array items) :: ("timestamp", .ofText time) :: cursor ++ others) ∧
    items.mapM SavedRound.ofJson? = some s.rounds ∧
    Timestamp.ofString? time = some s.timestamp ∧ SpellsCursor s.cursor cursor ∧
    ∀ other ∈ others, other.1 ∉ ["pattern", "timestamp", "cursor"]

/-- However a snapshot is spelled, it is read as itself. -/
theorem Spelled.ofJson? {s : Snapshot} {fields : Json.Fields} (spelled : s.Spelled fields) :
    Snapshot.ofJson? (.ofFields fields) = some s := by
  obtain ⟨items, time, cursor, others, perm, rounds, instant, isCursor, unknown⟩ := spelled
  have once : Json.noneTwice ["pattern", "timestamp", "cursor"]
      (("pattern", .array items) :: ("timestamp", .ofText time) :: cursor ++ others) = true := by
    rw [Json.noneTwice_append_unknown unknown]
    exact isCursor.noneTwice _ _
  have fields? := Json.record?_ofFields ["pattern", "timestamp", "cursor"] fields
    ((Json.noneTwice_perm perm _).trans once)
  have found {name : String} (known : name ∈ ["pattern", "timestamp", "cursor"]) :
      fields.lookup name =
        List.lookup name (("pattern", .array items) :: ("timestamp", .ofText time) :: cursor) := by
    rw [← Json.lookup_perm perm.symm once known, List.lookup_append,
      Json.lookup_eq_none_of_unknown unknown known, Option.or_none]
  have pattern : fields.required? "pattern" (Json.list? SavedRound.ofJson?) = some s.rounds := by
    rw [Json.Fields.required?, found (by simp)]
    exact rounds
  have timestamp : fields.required? "timestamp" timestamp? = some s.timestamp := by
    rw [Json.Fields.required?, found (by simp)]
    exact instant
  have progress : fields.optional? "cursor" none (Json.nullable? Json.uint64?) = some s.cursor :=
    isCursor.optional? (found (by simp))
  simp [Snapshot.ofJson?, fields?, pattern, timestamp, progress]

/-! ## The canonical text -/

/-- **Snapshot texts lose nothing but nanoseconds that run on.**  Every snapshot is read back from
its text with its time settled, so it comes back equal exactly if its nanoseconds stay within their
second or run on behind second 59; and its text is its own rewriting.  So every text that is read
as a snapshot is rewritten to one that is read as the same snapshot and rewritten to itself; and
however a snapshot is spelled, it is rewritten to its own text. -/
theorem rewritten?_canonical :
    (∀ s : Snapshot, ofString? s.text = some s.settled ∧ rewritten? s.text = some s.text ∧
      (ofString? s.text = some s ↔ s.timestamp.nano < 1000000000 ∨ s.timestamp.second = 59)) ∧
    (∀ text canonical, rewritten? text = some canonical →
      ofString? canonical = ofString? text ∧ rewritten? canonical = some canonical) ∧
    ∀ (s : Snapshot) (text : String) (fields : Json.Fields),
      Json.ofString? text = some (.ofFields fields) → s.Spelled fields →
        rewritten? text = some s.text := by
  have itself (s : Snapshot) : rewritten? s.text = some s.text := by
    rw [rewritten?, ofString?_text, Option.map_some, text_settled]
  refine ⟨fun s => ⟨ofString?_text s, itself s, ?_⟩, fun text canonical rewritten => ?_,
    fun s text fields isText spelled => ?_⟩
  · rw [ofString?_text, Option.some.injEq, settled_eq_self_iff]
  · obtain ⟨s, read, rfl⟩ := Option.map_eq_some_iff.mp rewritten
    rw [ofString?_text, settled_of_ofString? read, read]
    exact ⟨rfl, itself s⟩
  · have read : ofString? text = some s := by
      rw [ofString?, isText, Option.bind_some, spelled.ofJson?]
    rw [rewritten?, read, Option.map_some]

/-- Nothing, saved by a clock that stands a second and a third past second seven. -/
def runningOn : Snapshot where
  rounds := []
  timestamp :=
    { date := { year := 2024, month := 5, day := 1 }, hour := 12, minute := 30, second := 7
      nano := 1333333333
      date_valid := by decide
      hour_lt := by decide
      minute_lt := by decide
      second_lt := by decide
      nano_lt := by decide }
  cursor := none

/-- It is written as a third of second eight, and comes back as that. -/
theorem runningOn_not_read_back :
    runningOn.timestamp.text = "2024-05-01T12:30:08.333333333Z" ∧
      (∃ back, ofString? runningOn.text = some back ∧
        back.timestamp.second = 8 ∧ back.timestamp.nano = 333333333) ∧
      ofString? runningOn.text ≠ some runningOn := by
  have read : ofString? runningOn.text = some runningOn.settled := ofString?_text runningOn
  refine ⟨by decide +kernel, ⟨_, read, rfl, rfl⟩, ?_⟩
  rw [read, Ne, Option.some.injEq, settled_eq_self_iff]
  decide

/-- A round with its fields the other way round. -/
def swappedRound : Json := .ofFields [("instruction", .ofText "6 \"sc\"\n"), ("stitches", .ofNat 6)]

/-- A snapshot in other words: a field of another name, no cursor spelled out, the time in another
zone, and the round behind them. -/
def otherWords : Json.Fields := [("note", .bool true), ("cursor", .null),
  ("timestamp", .ofText "2000-01-01 01:30:00.5 +01:30"), ("pattern", .array [swappedRound])]

/-- The snapshot that they spell. -/
def inOtherWords : Snapshot where
  rounds := [⟨6, "6 \"sc\"\n"⟩]
  timestamp := { Timestamp.millennium with nano := 500000000, nano_lt := by decide }
  cursor := none

theorem rewritten?_otherWords :
    Json.ofString? (Json.ofFields otherWords).compact = some (.ofFields otherWords) ∧
      inOtherWords.Spelled otherWords ∧
      rewritten? (Json.ofFields otherWords).compact = some inOtherWords.text ∧
      ofString? inOtherWords.text = ofString? (Json.ofFields otherWords).compact ∧
      rewritten? inOtherWords.text = some inOtherWords.text := by
  have plain : (Json.ofFields otherWords).Plain := by
    simp [otherWords, swappedRound, Json.ofFields, Json.ofText, Json.ofNat, Json.Plain,
      Json.PlainMembers, Json.PlainItems]
  have isText := Json.ofString?_compact plain
  have instant : Timestamp.ofString? "2000-01-01 01:30:00.5 +01:30" =
      some inOtherWords.timestamp := by decide +kernel
  have rounds : [swappedRound].mapM SavedRound.ofJson? = some inOtherWords.rounds := by
    decide +kernel
  have backwards : otherWords.Perm otherWords.reverse := (List.reverse_perm otherWords).symm
  have spelled : inOtherWords.Spelled otherWords :=
    ⟨[swappedRound], _, [("cursor", .null)], [("note", .bool true)], backwards, rounds, instant,
      .null, by simp⟩
  have rewritten := rewritten?_canonical.2.2 inOtherWords _ otherWords isText spelled
  obtain ⟨same, itself⟩ := rewritten?_canonical.2.1 _ _ rewritten
  exact ⟨isText, spelled, rewritten, same, itself⟩

end Crochet.Snapshot
