/-
# Crochet.Proofs.Snapshot -- a snapshot is read back from its text

Every text, every count and every cursor of 64 bits survives, and of the time
all that its text says: nanoseconds that run on into an ordinary second come
back as part of that second.  So what a store gives back of a pattern and its
progress is what was written into it, whatever the clock.
-/
import Crochet.Proofs.Json.Records
import Crochet.Proofs.Pattern
import Crochet.Proofs.Timestamp

set_option autoImplicit false

namespace Crochet

namespace SavedRound

theorem toJson_plain (r : SavedRound) : r.toJson.Plain :=
  Json.ofFields_plain (by simp [Json.ofNat_plain, Json.ofText_plain])

theorem ofJson?_toJson (r : SavedRound) : ofJson? r.toJson = some r := by
  have fields := Json.record?_ofFields ["stitches", "instruction"]
    [("stitches", .ofNat r.stitches.toNat), ("instruction", .ofText r.instruction)]
    (by simp [Json.noneTwice])
  simp [ofJson?, toJson, fields, Json.Fields.required?, List.lookup_cons]

end SavedRound

namespace Snapshot

theorem toJson_plain (s : Snapshot) : s.toJson.Plain := by
  have rounds : (Json.array (s.rounds.map SavedRound.toJson)).Plain :=
    Json.array_plain (by simp [SavedRound.toJson_plain])
  refine Json.ofFields_plain fun field inside => ?_
  rcases List.mem_append.mp inside with named | progress
  · rcases (by simpa using named) with rfl | rfl
    · exact rounds
    · exact Json.ofText_plain _
  · obtain ⟨cursor, -, rfl⟩ := by simpa using progress
    exact Json.ofNat_plain _

/-- The snapshot as it is read back: its time settled. -/
def settled (s : Snapshot) : Snapshot := { s with timestamp := s.timestamp.settled }

theorem toPattern_settled (s : Snapshot) : s.settled.toPattern = s.toPattern := rfl

theorem settled_eq_self_iff (s : Snapshot) :
    s.settled = s ↔ s.timestamp.nano < 1000000000 ∨ s.timestamp.second = 59 := by
  rw [← Timestamp.settled_eq_self_iff]
  constructor
  · exact congrArg timestamp
  · intro same
    rw [settled, same]

theorem text_settled (s : Snapshot) : s.settled.text = s.text := by
  simp only [text, toJson, settled, Timestamp.text_settled]

theorem ofJson?_toJson (s : Snapshot) : ofJson? s.toJson = some s.settled := by
  obtain ⟨rounds, timestamp, cursor⟩ := s
  have saved := Json.list?_map SavedRound.ofJson?_toJson rounds
  have time : timestamp? (.ofText timestamp.text) = some timestamp.settled := by
    rw [timestamp?, Json.text?_ofText, Option.bind_some, Timestamp.ofString?_text]
  cases cursor with
  | none =>
      have fields := Json.record?_ofFields ["pattern", "timestamp", "cursor"]
        [("pattern", .array (rounds.map SavedRound.toJson)),
          ("timestamp", .ofText timestamp.text)] (by simp [Json.noneTwice])
      simp [ofJson?, toJson, fields, Json.Fields.required?, Json.Fields.optional?, List.lookup_cons,
        saved, time, settled]
  | some cursor =>
      have fields := Json.record?_ofFields ["pattern", "timestamp", "cursor"]
        [("pattern", .array (rounds.map SavedRound.toJson)),
          ("timestamp", .ofText timestamp.text), ("cursor", .ofNat cursor.toNat)]
        (by simp [Json.noneTwice])
      simp [ofJson?, toJson, fields, Json.Fields.required?, Json.Fields.optional?, List.lookup_cons,
        saved, time, Json.nullable?_ofNat, settled]

/-- **A snapshot is read back from its text**, with its time settled. -/
theorem ofString?_text (s : Snapshot) : ofString? s.text = some s.settled := by
  rw [ofString?, text, Json.ofString?_compact s.toJson_plain, Option.bind_some, ofJson?_toJson]

theorem settled_of_ofString? {text : String} {s : Snapshot} (read : ofString? text = some s) :
    s.settled = s := by
  obtain ⟨value, -, made⟩ := Option.bind_eq_some_iff.mp read
  simp only [ofJson?, Option.bind_eq_bind, Option.bind_eq_some_iff] at made
  obtain ⟨fields, -, rounds, -, time, timeField, cursor, -, made⟩ := made
  obtain ⟨field, -, isTime⟩ := Option.bind_eq_some_iff.mp timeField
  obtain ⟨spelling, -, instant⟩ := Option.bind_eq_some_iff.mp isTime
  obtain rfl := Option.some.inj made
  rw [settled, Timestamp.settled_of_ofString? instant]

end Snapshot

end Crochet
